import SharedMount.Proofs.Reconcile.Removal
import SharedMount.Proofs.Run.Reachable

/-! # Deleting a SharedVolume

While a SharedVolume is being deleted, passes for it may fail at any call and be taken up again from
whatever they left. `Retiring` is what such passes keep, call by call: the finalizer of the operator goes
last, other finalizers stay, and the volume is not touched before the claim is out of the way.
-/

namespace SharedMount

namespace World

/-- The claim of an owner is out of the way, and so is its volume unless it is another owner's. -/
structure Cleared (world : World) (key : ObjectKey) : Prop where
  claim : world.claims.Leaving (claimKey key)
  volume (volume : PersistentVolume) (stored : world.volumes.object? (volumeKey key) = some volume) :
    volume.metadata.isDeleting = true ∨ ¬FreeFor key volume

/-- The deletion of a SharedVolume is under way, with some finalizers of others: it is stored with the
mark and with these finalizers, or it is gone and there were none. -/
structure Retiring (key : ObjectKey) (others : List String) (world : World) : Prop where
  gone (absent : world.sharedVolumes.object? key = none) : others = []
  stored (shared : SharedVolume) (held : world.sharedVolumes.object? key = some shared) :
    shared.isDeleting = true ∧ shared.otherFinalizers = others ∧
      (shared.hasFinalizer = true ∨ others ≠ [])

namespace Retiring

variable {settings : Settings} {start world : World} {key : ObjectKey} {others : List String}

theorem puts (retiring : Retiring key others world) {shared updated : SharedVolume}
    {after : Store SharedVolume} (held : world.sharedVolumes.object? key = some shared)
    (puts : world.sharedVolumes.Puts after key updated)
    (mark : updated.isDeleting = shared.isDeleting)
    (finalizers : updated.otherFinalizers = shared.otherFinalizers)
    (left : shared.hasFinalizer = true ∨ others ≠ [] → updated.hasFinalizer = true ∨ others ≠ []) :
    Retiring key others { world with sharedVolumes := after } where
  gone absent := absurd (absent.symm.trans puts.object?_self) (by simp)
  stored other stored := by
    obtain rfl := puts.eq_of_object?_self stored
    obtain ⟨marked, same, finalizer⟩ := retiring.stored shared held
    exact ⟨mark.trans marked, finalizers.trans same, left finalizer⟩

/-- The SharedVolume cannot be one that is to stay. -/
theorem not_stays (retiring : Retiring key others world) {shared : SharedVolume}
    (held : world.sharedVolumes.object? key = some shared) : shared.isDeleting ≠ false := by
  rw [(retiring.stored shared held).1]
  simp

end Retiring

/-- What is true all along a pass that works on the deletion: the finalizer is there until all is cleared,
and the volumes are as at the start until the claim is out of the way. -/
structure Progress (start : World) (key : ObjectKey) (others : List String) (world : World) : Prop where
  retiring : Retiring key others world
  released : world.Registered key ∨ world.Cleared key
  ordered : world.volumes = start.volumes ∨ world.claims.Leaving (claimKey key)

namespace Progress

variable {settings : Settings} {start world : World} {key : ObjectKey} {others : List String}

private theorem release (progress : Progress start key others world) {shared : SharedVolume}
    (retires : world.Retires key shared) (own : shared.key = key) (cleared : world.Cleared key) :
    Progress start key others { world with sharedVolumes :=
      (world.sharedVolumes.perform (.replace (PassM.withoutFinalizer shared))).2 } := by
  subst own
  have merged : Store.merged (PassM.withoutFinalizer shared) shared = PassM.withoutFinalizer shared :=
    merged_eq_self rfl rfl
  obtain ⟨marked, same, -⟩ := progress.retiring.stored shared retires.held
  rcases world.sharedVolumes.perform_replace (PassM.withoutFinalizer shared) with
    unchanged | ⟨present, found, ⟨finishes, drops⟩ | ⟨stays, puts⟩⟩
  · rwa [unchanged]
  · have bare : others = [] := by
      rw [← same, ← SharedVolume.finalizerList_withoutFinalizer]
      exact finishes.2
    refine ⟨⟨fun _ => bare, fun other stored => ?_⟩, .inr ⟨cleared.claim, cleared.volume⟩,
      progress.ordered⟩
    exact absurd (drops.object?_self.symm.trans stored) (by simp)
  · obtain rfl := Option.some.inj (retires.held.symm.trans found)
    rw [merged] at puts
    have more : others ≠ [] := by
      rw [← same, ← SharedVolume.finalizerList_withoutFinalizer]
      exact fun bare => stays ⟨marked, bare⟩
    exact ⟨progress.retiring.puts retires.held puts rfl
      (SharedVolume.otherFinalizers_withoutFinalizer shared) fun _ => .inr more,
      .inr ⟨cleared.claim, cleared.volume⟩, progress.ordered⟩

private theorem report (progress : Progress start key others world) {shared : SharedVolume}
    {status : SharedVolumeStatus} (held : world.sharedVolumes.object? key = some shared)
    (own : shared.key = key) :
    Progress start key others { world with sharedVolumes := (world.sharedVolumes.perform
      (.replaceStatus { shared with status := some status })).2 } := by
  subst own
  rcases world.sharedVolumes.perform_replaceStatus { shared with status := some status } with
    unchanged | ⟨present, found, puts⟩
  · rwa [unchanged]
  · obtain rfl := Option.some.inj (held.symm.trans found)
    refine ⟨progress.retiring.puts held puts rfl rfl fun left => left, ?_, progress.ordered⟩
    rcases progress.released with ⟨other, stored, finalizer⟩ | cleared
    · obtain rfl := Option.some.inj (held.symm.trans stored)
      exact .inl ⟨_, puts.object?_self, finalizer⟩
    · exact .inr ⟨cleared.claim, cleared.volume⟩

private theorem deleteClaim (progress : Progress start key others world) {shared : SharedVolume}
    (retires : world.Retires key shared) : Progress start key others
      { world with claims := (world.claims.perform (.delete (claimKey key))).2 } := by
  refine ⟨⟨progress.retiring.gone, progress.retiring.stored⟩,
    .inl ⟨shared, retires.held, retires.registered⟩, progress.ordered.imp id fun leaving => ?_⟩
  rcases world.claims.perform_delete (claimKey key) with
    unchanged | ⟨present, found, ⟨-, drops⟩ | ⟨-, puts⟩⟩
  · rwa [unchanged]
  · exact .of_missing drops.object?_self
  · refine .of_stored puts.object?_self ?_
    rw [Store.metadata_stamp, Store.metadata_marked]
    rfl

/-- Permitted calls keep up the progress of a deletion. -/
theorem perform (progress : Progress start key others world) (kept : world.WellKept settings)
    {call : OperatorCall} (permitted : Permitted settings key start world call) :
    Progress start key others ((World.perform call).run world).2 := by
  have same : ∀ roster, Progress start key others { world with roster } := fun _ =>
    ⟨⟨progress.retiring.gone, progress.retiring.stored⟩,
      progress.released.imp id fun cleared => ⟨cleared.claim, cleared.volume⟩, progress.ordered⟩
  cases permitted with
  | readShared | readVolume | readClaim => exact progress
  | revert held stays => exact absurd stays (progress.retiring.not_stays held)
  | register held stays => exact absurd stays (progress.retiring.not_stays held)
  | release retires claim volume =>
    exact progress.release retires (kept.sharedVolumes _ _ retires.held) ⟨claim, volume⟩
  | report held => exact progress.report held (kept.sharedVolumes _ _ held)
  | reportReady serves => exact absurd serves.stays (progress.retiring.not_stays serves.held)
  | takeVolume | takeClaim | recordVolume | recordClaim | dismiss => exact same _
  | createVolume serves => exact absurd serves.stays (progress.retiring.not_stays serves.held)
  | replaceVolume serves => exact absurd serves.stays (progress.retiring.not_stays serves.held)
  | deleteVolume retires claim =>
    exact ⟨⟨progress.retiring.gone, progress.retiring.stored⟩,
      .inl ⟨_, retires.held, retires.registered⟩, .inr claim⟩
  | createClaim serves => exact absurd serves.stays (progress.retiring.not_stays serves.held)
  | replaceClaim serves => exact absurd serves.stays (progress.retiring.not_stays serves.held)
  | deleteClaim retires => exact progress.deleteClaim retires

end Progress

/-! ## Attempts -/

/-- The world after a pass with some operations made to fail. -/
def attempt (settings : Settings) (key : ObjectKey) (world : World) (faults : Faults) : World :=
  ((world.withFaults faults).reconcile settings key).2

/-- What is there between two passes of a deletion. -/
structure Underway (settings : Settings) (key : ObjectKey) (others : List String) (world : World) :
    Prop where
  kept : world.WellKept settings
  retiring : Retiring key others world
  released : world.Registered key ∨ world.Cleared key

namespace Underway

variable {settings : Settings} {world : World} {key : ObjectKey} {others : List String}

theorem withFaults (underway : Underway settings key others world) (faults : Faults) :
    Underway settings key others (world.withFaults faults) where
  kept := ⟨underway.kept.sharedVolumes, underway.kept.volumes, underway.kept.claims,
    underway.kept.volumeUnits, underway.kept.claimUnits⟩
  retiring := ⟨underway.retiring.gone, underway.retiring.stored⟩
  released := underway.released.imp id fun cleared => ⟨cleared.claim, cleared.volume⟩

/-- A pass makes progress, wherever it breaks off. -/
theorem progress (underway : Underway settings key others world) :
    (world.reconcile settings key).2.WellKept settings ∧
      Progress world key others (world.reconcile settings key).2 :=
  (reconcile_permitted underway.kept key).invariant
    (fun during => during.WellKept settings ∧ Progress world key others during)
    (fun _ _ during permitted =>
      ⟨during.1.perform permitted, during.2.perform during.1 permitted⟩)
    ⟨underway.kept, underway.retiring, underway.released, .inl rfl⟩

theorem attempt (underway : Underway settings key others world) (faults : Faults) :
    Underway settings key others (world.attempt settings key faults) := by
  obtain ⟨kept, progress⟩ := (underway.withFaults faults).progress
  exact ⟨kept, progress.retiring, progress.released⟩

theorem attempts (underway : Underway settings key others world) (faults : List Faults) :
    Underway settings key others (faults.foldl (World.attempt settings key) world) := by
  induction faults generalizing world with
  | nil => exact underway
  | cons first rest ih => exact ih (underway.attempt first)

/-- A pass that gets to see the SharedVolume drops the units of its owner. -/
theorem dismisses (underway : Underway settings key others world)
    (readable : world.sharedVolumes.failing .get = false) (registered : world.Registered key) :
    (world.reconcile settings key).2.roster.volumes.unit? key = none ∧
      (world.reconcile settings key).2.roster.claims.unit? key = none := by
  obtain ⟨shared, held, finalizer⟩ := registered
  obtain rfl : shared.key = key := underway.kept.sharedVolumes _ _ held
  have leaves := (underway.retiring.stored shared held).1
  have meets : (SharedMount.reconcile settings shared.key).Meets (fun _ _ => True)
      (fun _ after => after.roster.volumes.unit? shared.key = none ∧
        after.roster.claims.unit? shared.key = none) world := by
    rw [SharedMount.reconcile, OperatorProgram.meets_bind, OperatorProgram.meets_onSharedVolumes,
      StoreProgram.meets_get]
    refine ⟨trivial, ?_⟩
    rw [Store.get_eq_ok_iff.mpr ⟨readable, held⟩]
    have pass : (PassM.pass settings).Meets (fun _ _ => True)
        (fun _ _ after => after.roster.volumes.unit? shared.key = none ∧
          after.roster.claims.unit? shared.key = none) shared world := by
      rw [PassM.pass, PassM.meets_bind, PassM.meets_get]
      simp only [leaves, ↓reduceIte]
      exact PassM.retire_dismisses held finalizer
    exact (Program.meets_bind ((PassM.pass settings).perform shared) _).mpr pass
  exact meets.run

/-- Once nothing fails any more, the next pass completes the deletion. -/
theorem completes (underway : Underway settings key others world) (works : world.Working) :
    (world.reconcile settings key).1 = .ok .settled ∧
      PassM.Released key others (world.reconcile settings key).2 := by
  have meets : (SharedMount.reconcile settings key).Meets (fun _ _ => True)
      (fun result after => result = .ok .settled ∧ PassM.Released key others after) world := by
    rw [SharedMount.reconcile, OperatorProgram.meets_bind, OperatorProgram.meets_onSharedVolumes,
      StoreProgram.meets_get]
    refine ⟨trivial, ?_⟩
    rw [Store.get_eq_ok_iff.mpr ⟨works.sharedVolumes .get, rfl⟩]
    cases found : world.sharedVolumes.object? key with
    | none =>
      refine (OperatorProgram.meets_bind (OperatorProgram.onRoster (.dismiss key)) _).mpr
        ⟨trivial, rfl, ?_, iff_of_true found (underway.retiring.gone found)⟩
      exact fun shared stored => absurd (found.symm.trans stored) (by simp)
    | some shared =>
      obtain rfl : shared.key = key := underway.kept.sharedVolumes _ _ found
      obtain ⟨leaves, rfl, left⟩ := underway.retiring.stored shared found
      have pass : (PassM.pass settings).Meets (fun _ _ => True)
          (fun result _ after => result = .ok .settled ∧
            PassM.Released shared.key shared.otherFinalizers after) shared world := by
        rw [PassM.pass, PassM.meets_bind, PassM.meets_get]
        simp only [leaves, ↓reduceIte]
        exact PassM.retire_succeeds works found leaves left
      exact (Program.meets_bind ((PassM.pass settings).perform shared) _).mpr pass
  exact meets.run

end Underway

/-- A world where a registered SharedVolume is being deleted is one where its deletion is under way. -/
theorem underway_of_retires {settings : Settings} {world : World} {key : ObjectKey}
    {shared : SharedVolume} (kept : world.WellKept settings) (retires : world.Retires key shared) :
    Underway settings key shared.otherFinalizers world where
  kept := kept
  retiring := {
    gone := fun absent => absurd (absent.symm.trans retires.held) (by simp)
    stored := by
      intro other stored
      obtain rfl := Option.some.inj (retires.held.symm.trans stored)
      exact ⟨retires.leaves, rfl, .inl retires.registered⟩ }
  released := .inl ⟨shared, retires.held, retires.registered⟩

/-- What a pass over a SharedVolume that is being deleted and registered may have done, with whatever
operations made to fail. -/
structure SafelyAttempted (key : ObjectKey) (shared : SharedVolume) (faults : Faults)
    (before after : World) : Prop where
  /-- The finalizer of the operator is gone only if the claim is absent or being deleted, and the volume is
  absent, being deleted or labelled for another owner. -/
  released : ¬after.Registered key →
    (∀ claim, after.claims.object? (claimKey key) = some claim → claim.metadata.isDeleting = true) ∧
      ∀ volume, after.volumes.object? (volumeKey key) = some volume →
        volume.metadata.isDeleting = true ∨ ∃ other, owner? volume = some other ∧ other ≠ key
  /-- While the claim is there to stay, the volumes are as they were. -/
  ordered : ∀ claim, after.claims.object? (claimKey key) = some claim →
    claim.metadata.isDeleting = false → after.volumes = (before.withFaults faults).volumes
  /-- Unless the SharedVolume could not be fetched, no unit of its owner is left. -/
  dismissed : faults.sharedVolumes .get = false →
    after.roster.volumes.unit? key = none ∧ after.roster.claims.unit? key = none
  /-- The finalizers of others stay, in their order. -/
  others : ∀ later, after.sharedVolumes.object? key = some later →
    later.otherFinalizers = shared.otherFinalizers

/-- Deletion is safe under every fault and completes after faults: in every reachable world with a
registered SharedVolume that is being deleted, a pass does nothing out of turn whatever fails; and after
any number of such passes, one pass without faults succeeds, releases the finalizer of the operator, and
lets the SharedVolume go exactly if there is no finalizer of others. -/
theorem deletion_is_safe_and_completes {settings : Settings} {world : World} {key : ObjectKey}
    {shared : SharedVolume} (reached : Reachable (Event settings) world)
    (stored : world.sharedVolumes.object? key = some shared) (leaves : shared.isDeleting = true)
    (registered : shared.hasFinalizer = true) :
    (∀ faults, SafelyAttempted key shared faults world (world.attempt settings key faults)) ∧
      ∀ attempts : List Faults,
        let final := ((attempts.foldl (attempt settings key) world).withFaults {}).reconcile settings key
        final.1 = .ok .settled ∧ ¬final.2.Registered key ∧
          (final.2.sharedVolumes.object? key = none ↔ shared.otherFinalizers = []) := by
  have underway := underway_of_retires reached.wellKept ⟨stored, leaves, registered⟩
  refine ⟨fun faults => ?_, fun attempts => ?_⟩
  · have before := underway.withFaults faults
    obtain ⟨-, progress⟩ := before.progress
    exact {
      released := by
        intro unregistered
        obtain ⟨claim, volume⟩ := progress.released.resolve_left unregistered
        refine ⟨claim, fun object found => (volume object found).imp id fun foreign => ?_⟩
        simpa [FreeFor] using foreign
      ordered := by
        intro claim found stays
        rcases progress.ordered with same | leaving
        · exact same
        · exact absurd stays (leaving.not_stays found)
      dismissed := fun readable => before.dismisses readable ⟨shared, stored, registered⟩
      others := fun later found => (progress.retiring.stored later found).2.1 }
  · have working : (World.withFaults {} (attempts.foldl (attempt settings key) world)).Working :=
      ⟨fun _ => rfl, fun _ => rfl, fun _ => rfl⟩
    obtain ⟨succeeds, unregistered, gone⟩ := ((underway.attempts attempts).withFaults {}).completes working
    refine ⟨succeeds, ?_, gone⟩
    rintro ⟨later, found, finalizer⟩
    exact absurd ((unregistered later found).symm.trans finalizer) (by simp)

/-- The sample world after four passes and the deletion of the sample. -/
def deletedWorld : World :=
  { sampleWorld 4 with sharedVolumes := ((sampleWorld 4).sharedVolumes.perform (.delete sample.key)).2 }

/-- The sample is registered when it is deleted: a pass that fails to delete the claim is safe, and the
pass after it lets the sample go. -/
theorem deletion_is_safe_and_completes_sample : ∃ shared : SharedVolume,
    deletedWorld.sharedVolumes.object? sample.key = some shared ∧ shared.isDeleting = true ∧
      shared.hasFinalizer = true ∧
      SafelyAttempted sample.key shared { claims := (· == .delete) } deletedWorld
        (deletedWorld.attempt {} sample.key { claims := (· == .delete) }) ∧
      ((((deletedWorld.attempt {} sample.key { claims := (· == .delete) }).withFaults {}).reconcile {}
        sample.key).2.sharedVolumes.object? sample.key = none) := by
  have marked : (deletedWorld.sharedVolumes.object? sample.key).map
      (fun shared => (shared.isDeleting, shared.hasFinalizer, shared.otherFinalizers)) =
        some (true, true, []) := by
    decide +kernel
  obtain ⟨shared, stored, same⟩ := Option.map_eq_some_iff.mp marked
  obtain ⟨leaves, rest⟩ := Prod.mk.inj same
  obtain ⟨registered, bare⟩ := Prod.mk.inj rest
  have reached : Reachable (Event {}) deletedWorld :=
    (sampleWorld_reachable 4).of_userEvents.next (.sharedVolumes (.call (.delete sample.key)))
  obtain ⟨safe, completes⟩ := deletion_is_safe_and_completes reached stored leaves registered
  obtain ⟨-, -, gone⟩ := completes [{ claims := (· == .delete) }]
  simp only [List.foldl_cons, List.foldl_nil] at gone
  exact ⟨shared, stored, leaves, registered, safe _, gone.mpr bare⟩

end World

end SharedMount
