import SharedMount.Proofs.Reconcile.Conduct
import SharedMount.Proofs.Store.Touched

/-! # Runs

A run starts from the empty world and takes one event after another. Passes are complete, in any order and
for any keys. `Event` lets anything at all happen to the stores between them, as long as objects keep their
identities. `UserEvent` is what happens when nobody but users of SharedVolumes and the operator is about:
SharedVolumes are made, edited and deleted, and faults come and go.
-/

namespace SharedMount

namespace World

/-! ## Events -/

/-- Which operations are made to fail. -/
structure Faults where
  sharedVolumes : Operation → Bool := fun _ => false
  volumes : Operation → Bool := fun _ => false
  claims : Operation → Bool := fun _ => false

/-- The world with other operations made to fail. -/
def withFaults (faults : Faults) (world : World) : World :=
  { world with
    sharedVolumes := { world.sharedVolumes with failing := faults.sharedVolumes }
    volumes := { world.volumes with failing := faults.volumes }
    claims := { world.claims with failing := faults.claims } }

/-- A complete pass, or anything that others may do to a store. -/
inductive Event (settings : Settings) (world : World) : World → Prop where
  | pass (key : ObjectKey) : Event settings world (world.reconcile settings key).2
  | sharedVolumes {after : Store SharedVolume} (touched : world.sharedVolumes.Touched after) :
      Event settings world { world with sharedVolumes := after }
  | volumes {after : Store PersistentVolume} (touched : world.volumes.Touched after) :
      Event settings world { world with volumes := after }
  | claims {after : Store PersistentVolumeClaim} (touched : world.claims.Touched after) :
      Event settings world { world with claims := after }

/-- A complete pass, or what users of SharedVolumes and faults do. -/
inductive UserEvent (settings : Settings) (world : World) : World → Prop where
  | pass (key : ObjectKey) : UserEvent settings world (world.reconcile settings key).2
  /-- A new SharedVolume appears in the store. -/
  | appear {shared : SharedVolume} (unused : world.sharedVolumes.object? shared.key = none)
      (named : shared.key.Named) (unreported : shared.status = none)
      (unmarked : shared.isDeleting = false) :
      UserEvent settings world { world with sharedVolumes := (world.sharedVolumes.insert shared).2 }
  /-- A new SharedVolume is created through the interface, which refuses a used identity. -/
  | create {shared : SharedVolume} (named : shared.key.Named) (unreported : shared.status = none)
      (unmarked : shared.isDeleting = false) :
      UserEvent settings world
        { world with sharedVolumes := (world.sharedVolumes.perform (.create shared)).2 }
  | edit (key : ObjectKey) (spec : SharedVolumeSpec) :
      UserEvent settings world
        { world with sharedVolumes := world.sharedVolumes.mutate key fun shared => { shared with spec } }
  | delete (key : ObjectKey) :
      UserEvent settings world
        { world with sharedVolumes := (world.sharedVolumes.perform (.delete key)).2 }
  | faults (faults : Faults) : UserEvent settings world (world.withFaults faults)

/-- The worlds that runs of events of some kind lead to. -/
inductive Reachable (event : World → World → Prop) : World → Prop where
  | start : Reachable event {}
  | next {world after : World} (reached : Reachable event world) (happens : event world after) :
      Reachable event after

/-- The world after a number of passes for a key, one right after the other. -/
def passes (settings : Settings) (key : ObjectKey) : Nat → World → World
  | 0, world => world
  | count + 1, world => passes settings key count (world.reconcile settings key).2

variable {settings : Settings} {world : World}

theorem WellKept.reconcile (kept : world.WellKept settings) (key : ObjectKey) :
    (world.reconcile settings key).2.WellKept settings :=
  (reconcile_permitted kept key).invariant _ (fun _ _ kept permitted => kept.perform permitted) kept

theorem WellKept.event {after : World} (kept : world.WellKept settings) (happens : Event settings world after) :
    after.WellKept settings := by
  cases happens with
  | pass key => exact kept.reconcile key
  | sharedVolumes touched => exact { kept with sharedVolumes := kept.sharedVolumes.touched touched }
  | volumes touched => exact { kept with volumes := kept.volumes.touched touched }
  | claims touched => exact { kept with claims := kept.claims.touched touched }

/-- What a pass relies on is there in every world that is reachable in any way. -/
theorem Reachable.wellKept (reached : Reachable (Event settings) world) : world.WellKept settings := by
  induction reached with
  | start => exact .initial settings
  | next _ happens kept => exact kept.event happens

/-- What users do is among what may happen. -/
theorem Reachable.of_userEvents (reached : Reachable (UserEvent settings) world) :
    Reachable (Event settings) world := by
  induction reached with
  | start => exact .start
  | next _ happens reached =>
    cases happens with
    | pass key => exact .next reached (.pass key)
    | @appear shared => exact .next reached (.sharedVolumes (.insert shared))
    | @create shared => exact .next reached (.sharedVolumes (.call (.create shared)))
    | edit key spec => exact .next reached (.sharedVolumes (.mutate key _ fun _ => rfl))
    | delete key => exact .next reached (.sharedVolumes (.call (.delete key)))
    | faults faults =>
      have sharedVolumes := reached.next (.sharedVolumes (.faults faults.sharedVolumes))
      have volumes := sharedVolumes.next (.volumes (.faults faults.volumes))
      exact volumes.next (.claims (.faults faults.claims))

/-! ## A sample -/

/-- A well-formed SharedVolume as users make them. -/
def sample : SharedVolume where
  metadata := { name := some "a-b", ns := some "x" }
  spec := { fileSystemId := "fs-1", accessPointId := "fsap-1" }

/-- A SharedVolume of another owner whose volume has the same name as that of the sample. -/
def twin : SharedVolume where
  metadata := { name := some "b", ns := some "x-a" }
  spec := { fileSystemId := "fs-2", accessPointId := "fsap-2" }

/-- The world after the sample appeared and was passed over a number of times. -/
def sampleWorld : Nat → World
  | 0 => { sharedVolumes := (({} : Store SharedVolume).insert sample).2 }
  | count + 1 => ((sampleWorld count).reconcile {} sample.key).2

theorem reconcile_sampleWorld (count : Nat) : (sampleWorld count).reconcile {} sample.key =
    (((sampleWorld count).reconcile {} sample.key).1, sampleWorld (count + 1)) := rfl

theorem sampleWorld_reachable (count : Nat) : Reachable (UserEvent {}) (sampleWorld count) := by
  induction count with
  | zero =>
    exact .next .start (.appear (by simp) ⟨"x", "a-b", by decide, by decide, rfl⟩ rfl rfl)
  | succ count reached => exact .next reached (.pass sample.key)

end World

end SharedMount
