import SharedMount.Proofs.Reconcile.Reporting
import SharedMount.Proofs.Run.Retirement

/-! # The lifecycle of a status

When nobody but the operator writes statuses, the parts of a status fit together in every reachable world,
whatever becomes of volumes and claims: a message is there exactly after a failure, a ready SharedVolume
names its own claim, and only one that is being deleted says so. For one SharedVolume the phases go one way:
it is noticed once, and its deletion is not taken back.
-/

namespace SharedMount

namespace SharedVolumeStatus

/-- The parts of the status of a SharedVolume fit together. -/
structure Coherent (status : SharedVolumeStatus) (owner : ObjectKey) (deleting : Bool) : Prop where
  pending : status.phase = some .pending → status.message = ""
  ready : status.phase = some .ready →
    status.message = "" ∧ status.claimRef = some (claimReference (claimKey owner).name)
  failed : status.phase = some .failed → status.message ≠ ""
  deleting : status.phase = some .deleting → status.message = "" ∧ deleting = true
  /-- A claim that is referred to is the one that belongs to the SharedVolume. -/
  claim (reference : ClaimReference) :
    status.claimRef = some reference → reference = claimReference (claimKey owner).name

/-- What may become of a status in the course of time. -/
structure Follows (former later : SharedVolumeStatus) : Prop where
  noticed : former.phase ≠ none → later.phase ≠ none
  pending : later.phase = some .pending → former.phase = none ∨ former.phase = some .pending
  claim (reference : ClaimReference) : former.claimRef = some reference → later.claimRef = some reference
  deleting : former.phase = some .deleting → later.phase = some .deleting

theorem coherent_empty (owner : ObjectKey) (deleting : Bool) : Coherent {} owner deleting where
  pending := by simp
  ready := by simp
  failed := by simp
  deleting := by simp
  claim := by simp

theorem Follows.refl (status : SharedVolumeStatus) : Follows status status :=
  ⟨id, .inr, fun _ => id, id⟩

theorem Follows.trans {former status later : SharedVolumeStatus} (first : Follows former status)
    (second : Follows status later) : Follows former later where
  noticed given := second.noticed (first.noticed given)
  pending said := by
    rcases second.pending said with unset | pending
    · exact .inl (Decidable.byContradiction fun set => first.noticed set unset)
    · exact first.pending pending
  claim reference given := second.claim reference (first.claim reference given)
  deleting said := second.deleting (first.deleting said)

end SharedVolumeStatus

namespace SharedVolume

/-- What was last reported. -/
def reported (shared : SharedVolume) : SharedVolumeStatus :=
  shared.status.getD {}

/-- The parts of the status fit together. -/
def Coherent (shared : SharedVolume) : Prop :=
  shared.reported.Coherent shared.key shared.isDeleting

/-- A report of a SharedVolume whose status fits together does so, too, and is one that may follow. -/
theorem Report.coherent {shared : SharedVolume} {status : SharedVolumeStatus} (report : shared.Report status)
    (coherent : shared.Coherent) :
    status.Coherent shared.key shared.isDeleting ∧ shared.reported.Follows status := by
  have staying (stays : shared.isDeleting = false) : shared.reported.phase ≠ some .deleting := by
    intro deleting
    exact absurd ((coherent.deleting deleting).2.symm.trans stays) (by simp)
  cases report with
  | pending stays unnoticed =>
    rw [phase?_eq] at unnoticed
    exact ⟨⟨fun _ => rfl, nofun, nofun, nofun, coherent.claim⟩,
      ⟨fun _ => nofun, fun _ => .inl unnoticed, fun _ => id, fun said => absurd said (staying stays)⟩⟩
  | failed stays worded =>
    exact ⟨⟨nofun, nofun, fun _ => worded, nofun, coherent.claim⟩,
      ⟨fun _ => nofun, nofun, fun _ => id, fun said => absurd said (staying stays)⟩⟩
  | ready stays =>
    refine ⟨⟨nofun, fun _ => ⟨rfl, rfl⟩, nofun, nofun, ?_⟩,
      ⟨fun _ => nofun, nofun, ?_, fun said => absurd said (staying stays)⟩⟩
    · rintro reference ⟨⟩
      rfl
    · intro reference given
      rw [coherent.claim reference given]
      rfl
  | deleting leaves =>
    exact ⟨⟨nofun, nofun, nofun, fun _ => ⟨rfl, leaves⟩, coherent.claim⟩,
      ⟨fun _ => nofun, nofun, fun _ => id, fun _ => rfl⟩⟩

/-- What one event makes of a SharedVolume: its status stays, or the operator reports another one. -/
inductive Turn (former later : SharedVolume) : Prop where
  | revised (key : later.key = former.key) (status : later.status = former.status)
      (marked : former.isDeleting = true → later.isDeleting = true)
  | reported {status : SharedVolumeStatus} (report : former.Report status) (key : later.key = former.key)
      (status : later.status = some status) (marked : later.isDeleting = former.isDeleting)

theorem Turn.coherent {former later : SharedVolume} (turn : Turn former later)
    (coherent : former.Coherent) : later.Coherent ∧ former.reported.Follows later.reported := by
  cases turn with
  | revised key status marked =>
    have same : later.reported = former.reported := congrArg (·.getD {}) status
    rw [Coherent, same, key]
    exact ⟨⟨coherent.pending, coherent.ready, coherent.failed,
      fun said => (coherent.deleting said).imp id marked, coherent.claim⟩, .refl _⟩
  | @reported status report key said marked =>
    have same : later.reported = status := congrArg (·.getD {}) said
    rw [Coherent, same, key, marked]
    exact report.coherent coherent

end SharedVolume

namespace Store

/-- SharedVolumes are filed under their identities, and their statuses fit together. -/
structure Coherent (store : Store SharedVolume) : Prop where
  filed : store.WellFiled
  coherent (key : ObjectKey) (shared : SharedVolume) :
    store.object? key = some shared → shared.Coherent

/-- Whatever is stored was there before one event of its life. -/
def Turns (before after : Store SharedVolume) : Prop :=
  ∀ key later, after.object? key = some later →
    ∃ former, before.object? key = some former ∧ former.Turn later

/-- Whatever is stored was there before, with a status that the present one may follow. -/
def Evolves (before after : Store SharedVolume) : Prop :=
  ∀ key later, after.object? key = some later →
    ∃ former, before.object? key = some former ∧ former.reported.Follows later.reported

/-- What is stored before and afterwards has a status that the former one may be followed by. -/
def Continues (before after : Store SharedVolume) : Prop :=
  ∀ key former later, before.object? key = some former → after.object? key = some later →
    former.reported.Follows later.reported

variable {before between after : Store SharedVolume} {key : ObjectKey} {former later : SharedVolume}

theorem Evolves.refl (store : Store SharedVolume) : Evolves store store :=
  fun _ shared stored => ⟨shared, stored, .refl _⟩

theorem Evolves.trans (first : Evolves before between) (second : Evolves between after) :
    Evolves before after := by
  intro key later stored
  obtain ⟨shared, present, follows⟩ := second key later stored
  obtain ⟨former, found, earlier⟩ := first key shared present
  exact ⟨former, found, earlier.trans follows⟩

theorem Evolves.continues (evolves : Evolves before after) : Continues before after := by
  intro key former later found stored
  obtain ⟨present, same, follows⟩ := evolves key later stored
  obtain rfl : former = present := Option.some.inj (found.symm.trans same)
  exact follows

theorem Turns.of_same (same : ∀ key, after.object? key = before.object? key) : Turns before after :=
  fun key later stored => ⟨later, same key ▸ stored, .revised rfl rfl id⟩

theorem Puts.turns (puts : before.Puts after key later) (found : before.object? key = some former)
    (turn : former.Turn later) : Turns before after := by
  intro other shared stored
  rcases puts.object?_eq_some stored with ⟨rfl, rfl⟩ | stored
  · exact ⟨former, found, turn⟩
  · exact ⟨shared, stored, .revised rfl rfl id⟩

theorem Drops.turns (drops : before.Drops after key) : Turns before after :=
  fun _ later stored => ⟨later, (drops.object?_eq_some stored).2, .revised rfl rfl id⟩

theorem WellFiled.turns (filed : before.WellFiled) (turns : Turns before after) : after.WellFiled := by
  intro key later stored
  obtain ⟨former, found, turn⟩ := turns key later stored
  have same : later.key = former.key := by cases turn <;> assumption
  exact same.trans (filed key former found)

/-- What is being deleted is not to stay later on. -/
theorem Turns.leaving (turns : Turns before after) (leaving : before.Leaving key) : after.Leaving key := by
  intro later stored
  obtain ⟨former, found, turn⟩ := turns key later stored
  have marked : former.isDeleting = true := leaving former found
  cases turn with
  | revised _ _ kept => exact kept marked
  | reported _ _ _ same => exact same.trans marked

theorem Coherent.turns (coherent : before.Coherent) (turns : Turns before after) :
    after.Coherent ∧ Evolves before after := by
  refine ⟨⟨coherent.filed.turns turns, fun key later stored => ?_⟩, fun key later stored => ?_⟩
  all_goals
    obtain ⟨former, found, turn⟩ := turns key later stored
    have next := turn.coherent (coherent.coherent key former found)
  · exact next.1
  · exact ⟨former, found, next.2⟩

/-- A SharedVolume that is new in the store has reported nothing. -/
theorem Coherent.appear (coherent : before.Coherent) (unused : before.object? key = none)
    (puts : before.Puts after key later) (own : later.key = key) (unreported : later.status = none) :
    after.Coherent ∧ Continues before after := by
  refine ⟨⟨coherent.filed.puts puts own, fun other shared stored => ?_⟩,
    fun other former shared found stored => ?_⟩
  · rcases puts.object?_eq_some stored with ⟨rfl, rfl⟩ | stored
    · rw [SharedVolume.Coherent, SharedVolume.reported, unreported]
      exact SharedVolumeStatus.coherent_empty ..
    · exact coherent.coherent other shared stored
  · rcases puts.object?_eq_some stored with ⟨rfl, rfl⟩ | stored
    · exact absurd (unused.symm.trans found) (by simp)
    · obtain rfl : former = shared := Option.some.inj (found.symm.trans stored)
      exact .refl _

end Store

/-! ## Passes -/

/-- A call of a pass is at most one event in the life of a SharedVolume. -/
theorem SharedWrite.turns {key : ObjectKey} {world : World} {call : OperatorCall}
    (write : SharedWrite key world call) (filed : world.sharedVolumes.WellFiled) :
    world.sharedVolumes.Turns ((World.perform call).run world).2.sharedVolumes := by
  cases write with
  | aside aside =>
    rw [aside.sharedVolumes]
    exact .of_same fun _ => rfl
  | read => exact .of_same fun _ => rfl
  | @revise shared updated held revision =>
    obtain rfl : shared.key = key := filed _ _ held
    have own : updated.key = shared.key := by cases revision <;> rfl
    have turn : shared.Turn (world.sharedVolumes.stamp (Store.merged updated shared)) :=
      .revised own rfl id
    rcases world.sharedVolumes.perform_replace updated with
      same | ⟨present, found, ⟨-, drops⟩ | ⟨-, puts⟩⟩
    · exact .of_same fun _ => congrArg (Store.object? · _) same
    · exact drops.turns
    · obtain rfl : shared = present := Option.some.inj (held.symm.trans (own ▸ found))
      exact puts.turns found turn
  | @report shared status held report =>
    obtain rfl : shared.key = key := filed _ _ held
    rcases world.sharedVolumes.perform_replaceStatus { shared with status := some status } with
      same | ⟨present, found, puts⟩
    · exact .of_same fun _ => congrArg (Store.object? · _) same
    · obtain rfl : shared = present := Option.some.inj (held.symm.trans found)
      exact puts.turns found (.reported report rfl rfl rfl)

namespace World

variable {settings : Settings} {world after : World}

/-- A pass keeps statuses that fit together, and changes them as they may follow one another. -/
theorem coherent_reconcile (coherent : world.sharedVolumes.Coherent) (key : ObjectKey) :
    (world.reconcile settings key).2.sharedVolumes.Coherent ∧
      world.sharedVolumes.Evolves (world.reconcile settings key).2.sharedVolumes := by
  refine (reconcile_writes settings coherent.filed).invariant (fun during =>
    during.sharedVolumes.Coherent ∧ world.sharedVolumes.Evolves during.sharedVolumes) ?_
    ⟨coherent, .refl _⟩
  rintro during call ⟨coherent, evolved⟩ write
  obtain ⟨coherent', evolves⟩ := coherent.turns (write.turns coherent.filed)
  exact ⟨coherent', evolved.trans evolves⟩

/-- A SharedVolume that is to stay after a pass was there before it, and was to stay. -/
theorem stays_of_reconcile {key : ObjectKey} {later : SharedVolume} (filed : world.sharedVolumes.WellFiled)
    (stored : (world.reconcile settings key).2.sharedVolumes.object? key = some later)
    (stays : later.isDeleting = false) :
    ∃ former, world.sharedVolumes.object? key = some former ∧ former.isDeleting = false := by
  refine Classical.byContradiction fun none => ?_
  have leaving : world.sharedVolumes.Leaving key := by
    intro former found
    cases marked : former.isDeleting with
    | false => exact absurd ⟨former, found, marked⟩ none
    | true => exact marked
  have left : (world.reconcile settings key).2.sharedVolumes.Leaving key := by
    refine ((reconcile_writes settings filed).invariant (fun during =>
      during.sharedVolumes.WellFiled ∧ during.sharedVolumes.Leaving key) ?_ ⟨filed, leaving⟩).2
    rintro during call ⟨filed, leaving⟩ write
    have turns := write.turns filed
    exact ⟨filed.turns turns, turns.leaving leaving⟩
  exact left.not_stays stored stays

/-! ## Runs -/

/-- A complete pass, what users and faults do, or anything at all that becomes of volumes and claims. Nobody
but the operator writes statuses. -/
inductive LifecycleEvent (settings : Settings) (world : World) : World → Prop where
  | pass (key : ObjectKey) : LifecycleEvent settings world (world.reconcile settings key).2
  /-- A new SharedVolume appears in the store. -/
  | appear {shared : SharedVolume} (unused : world.sharedVolumes.object? shared.key = none)
      (unreported : shared.status = none) :
      LifecycleEvent settings world
        { world with sharedVolumes := (world.sharedVolumes.insert shared).2 }
  /-- A new SharedVolume is created through the interface, which refuses a used identity. -/
  | create {shared : SharedVolume} (unreported : shared.status = none) :
      LifecycleEvent settings world
        { world with sharedVolumes := (world.sharedVolumes.perform (.create shared)).2 }
  | edit (key : ObjectKey) (spec : SharedVolumeSpec) :
      LifecycleEvent settings world
        { world with sharedVolumes := world.sharedVolumes.mutate key fun shared => { shared with spec } }
  | delete (key : ObjectKey) :
      LifecycleEvent settings world
        { world with sharedVolumes := (world.sharedVolumes.perform (.delete key)).2 }
  | faults (faults : Faults) : LifecycleEvent settings world (world.withFaults faults)
  | dependents (volumes : Store PersistentVolume) (claims : Store PersistentVolumeClaim) :
      LifecycleEvent settings world { world with volumes, claims }

theorem LifecycleEvent.of_userEvent (happens : UserEvent settings world after) :
    LifecycleEvent settings world after := by
  cases happens with
  | pass key => exact .pass key
  | appear unused _ unreported => exact .appear unused unreported
  | create _ unreported => exact .create unreported
  | edit key spec => exact .edit key spec
  | delete key => exact .delete key
  | faults faults => exact .faults faults

/-- After an event of a run, statuses fit together as before, and each is one that may follow. -/
theorem LifecycleEvent.coherent (happens : LifecycleEvent settings world after)
    (coherent : world.sharedVolumes.Coherent) :
    after.sharedVolumes.Coherent ∧ world.sharedVolumes.Continues after.sharedVolumes := by
  have turned {sharedVolumes : Store SharedVolume} (turns : world.sharedVolumes.Turns sharedVolumes) :
      sharedVolumes.Coherent ∧ world.sharedVolumes.Continues sharedVolumes :=
    (coherent.turns turns).imp id Store.Evolves.continues
  cases happens with
  | pass key => exact (coherent_reconcile coherent key).imp id Store.Evolves.continues
  | @appear shared unused unreported =>
    exact coherent.appear unused (Store.puts_insert ..) rfl unreported
  | @create shared unreported =>
    rcases world.sharedVolumes.perform_create shared with same | ⟨unused, puts⟩
    · exact turned (.of_same fun _ => congrArg (Store.object? · _) same)
    · exact coherent.appear unused puts rfl unreported
  | edit key spec =>
    rcases world.sharedVolumes.mutate_cases key fun shared => { shared with spec } with
      ⟨-, same⟩ | ⟨present, found, puts⟩
    · exact turned (.of_same same)
    · exact turned (puts.turns found (.revised rfl rfl id))
  | delete key =>
    rcases world.sharedVolumes.perform_delete key with same | ⟨present, found, ⟨-, drops⟩ | ⟨-, puts⟩⟩
    · exact turned (.of_same fun _ => congrArg (Store.object? · _) same)
    · exact turned drops.turns
    · exact turned (puts.turns found (.revised rfl rfl fun _ => rfl))
  | faults | dependents => exact turned (.of_same fun _ => rfl)

theorem Reachable.coherent (reached : Reachable (LifecycleEvent settings) world) :
    world.sharedVolumes.Coherent := by
  induction reached with
  | start => exact ⟨Store.wellFiled_empty, fun key shared stored => by simp at stored⟩
  | next _ happens coherent => exact (happens.coherent coherent).1

/-- A run from one world to another all along which a SharedVolume is stored under a key: from what it was
at first to what it is in the end. -/
inductive Lasts (event : World → World → Prop) (key : ObjectKey) (former : SharedVolume) (start : World) :
    SharedVolume → World → Prop where
  | start (stored : start.sharedVolumes.object? key = some former) : Lasts event key former start former start
  | next {shared later : SharedVolume} {world after : World} (lasts : Lasts event key former start shared world)
      (happens : event world after) (stored : after.sharedVolumes.object? key = some later) :
      Lasts event key former start later after

theorem Lasts.stored {event : World → World → Prop} {key : ObjectKey} {former shared : SharedVolume}
    {start : World} (lasts : Lasts event key former start shared world) :
    world.sharedVolumes.object? key = some shared := by
  cases lasts <;> assumption

/-- While a SharedVolume is stored, its statuses follow one another. -/
theorem Lasts.follows {key : ObjectKey} {former shared : SharedVolume} {start : World}
    (lasts : Lasts (LifecycleEvent settings) key former start shared world)
    (coherent : start.sharedVolumes.Coherent) :
    world.sharedVolumes.Coherent ∧ former.reported.Follows shared.reported := by
  induction lasts with
  | start => exact ⟨coherent, .refl _⟩
  | next lasts happens stored ih =>
    obtain ⟨coherent', continues⟩ := happens.coherent ih.1
    exact ⟨coherent', ih.2.trans (continues key _ _ lasts.stored stored)⟩

/-- In every reachable world the parts of each status fit together, and from there on the statuses of a
SharedVolume follow one another for as long as it is stored. -/
theorem status_lifecycle {settings : Settings} {world : World}
    (reached : Reachable (LifecycleEvent settings) world) :
    (∀ key shared, world.sharedVolumes.object? key = some shared →
        shared.key = key ∧ shared.Coherent) ∧
      ∀ key former later after, Lasts (LifecycleEvent settings) key former world later after →
        former.reported.Follows later.reported := by
  have coherent := reached.coherent
  refine ⟨fun key shared stored => ?_, fun key former later after lasts => ?_⟩
  · exact ⟨coherent.filed key shared stored, coherent.coherent key shared stored⟩
  · exact (lasts.follows coherent).2

theorem Reachable.imp {event other : World → World → Prop}
    (implies : ∀ world after, event world after → other world after) (reached : Reachable event world) :
    Reachable other world := by
  induction reached with
  | start => exact .start
  | next _ happens reached => exact reached.next (implies _ _ happens)

theorem Lasts.withFaults {key : ObjectKey} {former shared : SharedVolume} {start : World}
    (lasts : Lasts (LifecycleEvent settings) key former start shared world) (faults : Faults) :
    Lasts (LifecycleEvent settings) key former start shared (world.withFaults faults) :=
  lasts.next (.faults faults) lasts.stored

/-- The sample world after three passes and the deletion of the sample. -/
def leavingWorld : World :=
  { sampleWorld 3 with sharedVolumes := ((sampleWorld 3).sharedVolumes.perform (.delete sample.key)).2 }

/-- The sample is ready when it is deleted. A pass that fails to delete the claim leaves the reference to it,
but says that the sample is being deleted. -/
theorem status_lifecycle_sample : ∃ former later : SharedVolume,
    (sampleWorld 3).sharedVolumes.object? sample.key = some former ∧
      (leavingWorld.attempt {} sample.key { claims := (· == .delete) }).sharedVolumes.object? sample.key =
        some later ∧
      former.Coherent ∧ former.reported = PassM.readyStatus "pvc-a-b" ∧
      later.reported.phase = some .deleting ∧
      later.reported.claimRef = some (claimReference "pvc-a-b") := by
  have ready : ((sampleWorld 3).sharedVolumes.object? sample.key).map SharedVolume.reported =
      some (PassM.readyStatus "pvc-a-b") := by
    decide +kernel
  have leaves : (leavingWorld.sharedVolumes.object? sample.key).isSome := by
    decide +kernel
  have deleting : ((leavingWorld.attempt {} sample.key { claims := (· == .delete) }).sharedVolumes.object?
      sample.key).map (fun shared => shared.reported.phase) = some (some .deleting) := by
    decide +kernel
  obtain ⟨former, stored, reported⟩ := Option.map_eq_some_iff.mp ready
  obtain ⟨shared, present⟩ := Option.isSome_iff_exists.mp leaves
  obtain ⟨later, stored', phase⟩ := Option.map_eq_some_iff.mp deleting
  have reached : Reachable (LifecycleEvent {}) (sampleWorld 3) :=
    (sampleWorld_reachable 3).imp fun _ _ => .of_userEvent
  have deleted : Lasts (LifecycleEvent {}) sample.key former (sampleWorld 3) shared leavingWorld :=
    .next (.start stored) (.delete sample.key) present
  have attempted : Lasts (LifecycleEvent {}) sample.key former (sampleWorld 3) later
      (leavingWorld.attempt {} sample.key { claims := (· == .delete) }) :=
    .next (deleted.withFaults _) (.pass sample.key) stored'
  have referred : former.reported.claimRef = some (claimReference "pvc-a-b") := by
    rw [reported]
    rfl
  obtain ⟨coherent, follows⟩ := status_lifecycle reached
  exact ⟨former, later, stored, stored', (coherent sample.key former stored).2, reported, phase,
    (follows _ _ _ _ attempted).claim _ referred⟩

end World

end SharedMount
