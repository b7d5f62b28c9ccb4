import SharedMount.Proofs.Upkeep.Charge

/-! # What a pass may do

`Permitted` lists the calls that a pass for a key may make, each with what is known of the world when it
is made. It says once what single calls of the operator can do, so that a law of the operator has to be
checked call by call only, and never against the program. Some calls are permitted because of how things
were when the pass started, which is why the world at the start is a part of it.

`WellKept` is what holds of every world that the operator can find itself in, whatever others do to the
stores: objects are filed under their identities, and the units of an owner are charged with the volume
and the claim of that owner.
-/

namespace SharedMount

namespace World

/-- What holds of every world that the operator can find itself in. -/
structure WellKept (settings : Settings) (world : World) : Prop where
  sharedVolumes : world.sharedVolumes.WellFiled
  volumes : world.volumes.WellFiled
  claims : world.claims.WellFiled
  volumeUnits : world.roster.volumes.Charged (volumeUpkeep · settings)
  claimUnits : world.roster.claims.Charged (claimUpkeep · settings)

/-- A SharedVolume is stored and carries the finalizer of the operator. -/
def Registered (world : World) (owner : ObjectKey) : Prop :=
  ∃ shared, world.sharedVolumes.object? owner = some shared ∧ shared.hasFinalizer = true

/-- A SharedVolume is stored, to stay, registered and well formed: the operator may establish what it
asks for. -/
structure Serves (world : World) (key : ObjectKey) (shared : SharedVolume) : Prop where
  held : world.sharedVolumes.object? key = some shared
  stays : shared.isDeleting = false
  registered : shared.hasFinalizer = true
  valid : shared.spec.faultText? = none

/-- A SharedVolume is stored, being deleted and registered: the operator may remove what it asked for. -/
structure Retires (world : World) (key : ObjectKey) (shared : SharedVolume) : Prop where
  held : world.sharedVolumes.object? key = some shared
  leaves : shared.isDeleting = true
  registered : shared.hasFinalizer = true

theorem Retires.leaving {world : World} {key : ObjectKey} {shared : SharedVolume}
    (retires : world.Retires key shared) : world.sharedVolumes.Leaving key :=
  .of_stored retires.held retires.leaves

end World

section Calls

variable (settings : Settings) (key : ObjectKey) (start world : World)

/-- The calls that a pass for a key may make in a world, after it started in another one. -/
inductive Permitted : OperatorCall → Prop where
  | readShared : Permitted (.sharedVolumes (.get key))
  | readVolume : Permitted (.volumes (.get (volumeKey key)))
  | readClaim : Permitted (.claims (.get (claimKey key)))
  /-- Writing the spec that a volume encodes, unless the volume is labelled for another owner; this comes
  before any work on the volume. -/
  | revert {shared : SharedVolume} {volume : PersistentVolume} {spec : SharedVolumeSpec}
      (held : world.sharedVolumes.object? key = some shared) (stays : shared.isDeleting = false)
      (since : world.volumes = start.volumes)
      (found : world.volumes.object? (volumeKey key) = some volume) (free : FreeFor key volume)
      (read : SharedVolumeSpec.ofVolume volume = .ok spec) :
      Permitted (.sharedVolumes (.replace { shared with spec }))
  | register {shared : SharedVolume} (held : world.sharedVolumes.object? key = some shared)
      (stays : shared.isDeleting = false) (unregistered : shared.hasFinalizer = false) :
      Permitted (.sharedVolumes (.replace (PassM.withFinalizer shared)))
  /-- Taking the finalizer back, when nothing is left of the claim, the volume and the units. -/
  | release {shared : SharedVolume} (retires : world.Retires key shared)
      (claim : world.claims.Leaving (claimKey key))
      (volume : ∀ volume, world.volumes.object? (volumeKey key) = some volume →
        volume.metadata.isDeleting = true ∨ ¬FreeFor key volume)
      (volumeUnit : world.roster.volumes.unit? key = none)
      (claimUnit : world.roster.claims.unit? key = none) :
      Permitted (.sharedVolumes (.replace (PassM.withoutFinalizer shared)))
  | report {shared : SharedVolume} {phase : Phase} {message : String}
      (held : world.sharedVolumes.object? key = some shared) (unready : phase ≠ .ready) :
      Permitted (.sharedVolumes (.replaceStatus
        { shared with status := some { shared.status.getD {} with phase := some phase, message } }))
  /-- Reporting that all is ready, when volume and claim are there; one that was already being deleted
  when the pass started may have gone by being written. -/
  | reportReady {shared : SharedVolume} {status : SharedVolumeStatus} (serves : world.Serves key shared)
      (volume : (∃ volume, world.volumes.object? (volumeKey key) = some volume ∧ FreeFor key volume) ∨
        start.volumes.Terminating (volumeKey key))
      (claim : (∃ claim, world.claims.object? (claimKey key) = some claim) ∨
        start.claims.Terminating (claimKey key)) :
      Permitted (.sharedVolumes (.replaceStatus { shared with status := some status }))
  | takeVolume {shared : SharedVolume} (held : world.sharedVolumes.object? key = some shared)
      (registered : shared.hasFinalizer = true) :
      Permitted (.roster (.volume shared settings))
  | takeClaim {shared : SharedVolume} (held : world.sharedVolumes.object? key = some shared)
      (registered : shared.hasFinalizer = true) :
      Permitted (.roster (.claim shared settings))
  | recordVolume {latest : Option PersistentVolume}
      (cleared : latest = none → world.sharedVolumes.Leaving key)
      (seen : ∀ volume, latest = some volume → Resource.key volume = volumeKey key ∧
        (world.volumes.object? (volumeKey key) = some volume ∧ FreeFor key volume ∨
          start.volumes.Terminating (volumeKey key))) :
      Permitted (.roster (.recordVolume key latest))
  | recordClaim {latest : Option PersistentVolumeClaim}
      (cleared : latest = none → world.sharedVolumes.Leaving key)
      (seen : ∀ claim, latest = some claim → Resource.key claim = claimKey key ∧
        (world.claims.object? (claimKey key) = some claim ∨ start.claims.Terminating (claimKey key))) :
      Permitted (.roster (.recordClaim key latest))
  /-- Dropping the units of a SharedVolume that is gone or being deleted. -/
  | dismiss (leaves : world.sharedVolumes.Leaving key) :
      Permitted (.roster (.dismiss key))
  | createVolume {shared : SharedVolume} {unit : Numbered PersistentVolume}
      (serves : world.Serves key shared) (listed : world.roster.volumes.unit? key = some unit)
      (missing : world.volumes.object? (volumeKey key) = none) :
      Permitted (.volumes (.create (Resource.withVersion none unit.upkeep.wanted)))
  | replaceVolume {shared : SharedVolume} {unit : Numbered PersistentVolume} {stored : PersistentVolume}
      (serves : world.Serves key shared) (listed : world.roster.volumes.unit? key = some unit)
      (found : world.volumes.object? (volumeKey key) = some stored) (free : FreeFor key stored)
      (differs : unit.upkeep.accepts stored = false) :
      Permitted (.volumes (.replace (unit.upkeep.replacement stored)))
  /-- Deleting the volume, when the claim is gone or being deleted. -/
  | deleteVolume {shared : SharedVolume} (retires : world.Retires key shared)
      (claim : world.claims.Leaving (claimKey key))
      (free : ∀ volume, world.volumes.object? (volumeKey key) = some volume → FreeFor key volume) :
      Permitted (.volumes (.delete (volumeKey key)))
  | createClaim {shared : SharedVolume} {unit : Numbered PersistentVolumeClaim}
      (serves : world.Serves key shared) (listed : world.roster.claims.unit? key = some unit)
      (missing : world.claims.object? (claimKey key) = none) :
      Permitted (.claims (.create (Resource.withVersion none unit.upkeep.wanted)))
  | replaceClaim {shared : SharedVolume} {unit : Numbered PersistentVolumeClaim}
      {stored : PersistentVolumeClaim} (serves : world.Serves key shared)
      (listed : world.roster.claims.unit? key = some unit)
      (found : world.claims.object? (claimKey key) = some stored)
      (differs : unit.upkeep.accepts stored = false) :
      Permitted (.claims (.replace (unit.upkeep.replacement stored)))
  | deleteClaim {shared : SharedVolume} (retires : world.Retires key shared) :
      Permitted (.claims (.delete (claimKey key)))

end Calls

namespace World.WellKept

variable {settings : Settings} {world : World}

theorem initial (settings : Settings) : WellKept settings {} where
  sharedVolumes := Store.wellFiled_empty
  volumes := Store.wellFiled_empty
  claims := Store.wellFiled_empty
  volumeUnits := Shelf.charged_empty _
  claimUnits := Shelf.charged_empty _

/-- Permitted calls keep the world in order. -/
theorem perform {key : ObjectKey} {start : World} {call : OperatorCall} (kept : WellKept settings world)
    (permitted : Permitted settings key start world call) :
    WellKept settings ((World.perform call).run world).2 := by
  obtain ⟨sharedVolumes, volumes, claims, volumeUnits, claimUnits⟩ := kept
  cases call with
  | sharedVolumes call =>
    exact ⟨sharedVolumes.perform call, volumes, claims, volumeUnits, claimUnits⟩
  | volumes call => exact ⟨sharedVolumes, volumes.perform call, claims, volumeUnits, claimUnits⟩
  | claims call => exact ⟨sharedVolumes, volumes, claims.perform call, volumeUnits, claimUnits⟩
  | roster call =>
    refine ⟨sharedVolumes, volumes, claims, ?_, ?_⟩
    · cases permitted with
      | takeVolume => exact volumeUnits.take rfl
      | recordVolume _ seen =>
        refine volumeUnits.record ?_
        rintro volume shared recorded rfl
        exact (seen volume recorded).1
      | dismiss => exact volumeUnits.dismiss
      | takeClaim => exact volumeUnits
      | recordClaim => exact volumeUnits
    · cases permitted with
      | takeClaim => exact claimUnits.take rfl
      | recordClaim _ seen =>
        refine claimUnits.record ?_
        rintro claim shared recorded rfl
        exact (seen claim recorded).1
      | dismiss => exact claimUnits.dismiss
      | takeVolume => exact claimUnits
      | recordVolume => exact claimUnits

section Units

variable {owner : ObjectKey}

theorem key_volumeUnit (kept : WellKept settings world) {unit : Numbered PersistentVolume}
    (listed : world.roster.volumes.unit? owner = some unit) : unit.upkeep.key = volumeKey owner := by
  obtain ⟨shared, rfl, charged⟩ := kept.volumeUnits owner unit listed
  exact charged.key_eq

theorem key_wanted_volumeUnit (kept : WellKept settings world) {unit : Numbered PersistentVolume}
    (listed : world.roster.volumes.unit? owner = some unit) :
    Resource.key unit.upkeep.wanted = unit.upkeep.key := by
  obtain ⟨shared, rfl, charged⟩ := kept.volumeUnits owner unit listed
  exact charged.key_wanted rfl

theorem freeFor_wanted_volumeUnit (kept : WellKept settings world) {unit : Numbered PersistentVolume}
    (listed : world.roster.volumes.unit? owner = some unit) : FreeFor owner unit.upkeep.wanted := by
  obtain ⟨shared, rfl, charged⟩ := kept.volumeUnits owner unit listed
  exact charged.freeFor_wanted

theorem key_claimUnit (kept : WellKept settings world) {unit : Numbered PersistentVolumeClaim}
    (listed : world.roster.claims.unit? owner = some unit) : unit.upkeep.key = claimKey owner := by
  obtain ⟨shared, rfl, charged⟩ := kept.claimUnits owner unit listed
  exact charged.key_eq

theorem key_wanted_claimUnit (kept : WellKept settings world) {unit : Numbered PersistentVolumeClaim}
    (listed : world.roster.claims.unit? owner = some unit) :
    Resource.key unit.upkeep.wanted = unit.upkeep.key := by
  obtain ⟨shared, rfl, charged⟩ := kept.claimUnits owner unit listed
  exact charged.key_wanted rfl

end Units

end World.WellKept

end SharedMount
