import SharedMount.Proofs.Reconcile.Permitted
import SharedMount.Proofs.Reconcile.Steps

/-! # Passes do what they may do

Every call of a pass is permitted. The pass is taken apart along its definition; each part says what it
leaves of the facts that the parts after it rely on.
-/

namespace SharedMount

namespace PassM

variable {settings : Settings} {start world : World} {shared : SharedVolume}

/-! ## Establishing -/

private theorem establishVolume_permitted (kept : world.WellKept settings)
    (serves : world.Serves shared.key shared) (since : world.volumes = start.volumes)
    (free : ∀ volume, world.volumes.object? (volumeKey shared.key) = some volume →
      FreeFor shared.key volume) :
    (withVolumeUnit settings Upkeep.establish).Meets (Permitted settings shared.key start)
      (fun result shared' world' => shared' = shared ∧ world'.sharedVolumes = world.sharedVolumes ∧
        world'.claims = world.claims ∧
        (result = .ok () →
          (∃ volume, world'.volumes.object? (volumeKey shared.key) = some volume ∧
              FreeFor shared.key volume) ∨
            start.volumes.Terminating (volumeKey shared.key)))
      shared world := by
  have mayTake : Permitted settings shared.key start world (.roster (.volume shared settings)) :=
    .takeVolume serves.held serves.registered
  rw [meets_withVolumeUnit]
  refine ⟨mayTake, ?_⟩
  have taken := kept.perform mayTake
  have listed := world.roster.unit?_volume shared settings
  have key := taken.key_volumeUnit listed
  have wantedKey := taken.key_wanted_volumeUnit listed
  have wantedFree := taken.freeFor_wanted_volumeUnit listed
  have serving : ∀ volumes, { world with
      roster := (world.roster.volume shared settings).2
      volumes }.Serves shared.key shared :=
    fun _ => ⟨serves.held, serves.stays, serves.registered, serves.valid⟩
  refine (Upkeep.meets_establish wantedKey ?_ ?_ ?_).imp ?_
  · rw [key]
    exact .readVolume
  · intro missing
    exact .createVolume (serving _) listed (key ▸ missing)
  · intro stored found differs
    rw [key] at found
    exact .replaceVolume (serving _) listed found (free stored found) differs
  · intro result volumes outcome
    cases result with
    | error failure => exact ⟨rfl, rfl, rfl, by simp⟩
    | ok unit =>
      obtain ⟨latest, same, filed, present⟩ := outcome.seen kept.volumes wantedKey
      rw [key] at filed present
      have stored : volumes.object? (volumeKey shared.key) = some latest ∧ FreeFor shared.key latest ∨
          start.volumes.Terminating (volumeKey shared.key) := by
        rcases present with ⟨stored, found | labels⟩ | terminating
        · exact .inl ⟨stored, free latest found⟩
        · exact .inl ⟨stored, by rw [FreeFor, labels]; exact wantedFree⟩
        · exact .inr (since ▸ terminating)
      refine ⟨.recordVolume (fun none => absurd (same.symm.trans none) (by simp)) ?_, rfl, rfl, rfl,
        fun _ => stored.imp_left fun own => ⟨latest, own⟩⟩
      intro volume recorded
      obtain rfl : latest = volume := Option.some.inj (same.symm.trans recorded)
      exact ⟨filed, stored⟩

private theorem establishClaim_permitted (kept : world.WellKept settings)
    (serves : world.Serves shared.key shared) (since : world.claims = start.claims) :
    (withClaimUnit settings Upkeep.establish).Meets (Permitted settings shared.key start)
      (fun result shared' world' => shared' = shared ∧ world'.sharedVolumes = world.sharedVolumes ∧
        world'.volumes = world.volumes ∧
        (result = .ok () → (∃ claim, world'.claims.object? (claimKey shared.key) = some claim) ∨
          start.claims.Terminating (claimKey shared.key)))
      shared world := by
  have mayTake : Permitted settings shared.key start world (.roster (.claim shared settings)) :=
    .takeClaim serves.held serves.registered
  rw [meets_withClaimUnit]
  refine ⟨mayTake, ?_⟩
  have taken := kept.perform mayTake
  have listed := world.roster.unit?_claim shared settings
  have key := taken.key_claimUnit listed
  have wantedKey := taken.key_wanted_claimUnit listed
  have serving : ∀ claims, { world with
      roster := (world.roster.claim shared settings).2
      claims }.Serves shared.key shared :=
    fun _ => ⟨serves.held, serves.stays, serves.registered, serves.valid⟩
  refine (Upkeep.meets_establish wantedKey ?_ ?_ ?_).imp ?_
  · rw [key]
    exact .readClaim
  · intro missing
    exact .createClaim (serving _) listed (key ▸ missing)
  · intro stored found differs
    rw [key] at found
    exact .replaceClaim (serving _) listed found differs
  · intro result claims outcome
    cases result with
    | error failure => exact ⟨rfl, rfl, rfl, by simp⟩
    | ok unit =>
      obtain ⟨latest, same, filed, present⟩ := outcome.seen kept.claims wantedKey
      rw [key] at filed present
      have stored : claims.object? (claimKey shared.key) = some latest ∨
          start.claims.Terminating (claimKey shared.key) :=
        present.imp And.left fun terminating => since ▸ terminating
      refine ⟨.recordClaim (fun none => absurd (same.symm.trans none) (by simp)) ?_, rfl, rfl, rfl,
        fun _ => stored.imp_left fun found => ⟨latest, found⟩⟩
      intro claim recorded
      obtain rfl : latest = claim := Option.some.inj (same.symm.trans recorded)
      exact ⟨filed, stored⟩

/-- Establishing both: with success, both are there. -/
private theorem provision_permitted (kept : world.WellKept settings)
    (serves : world.Serves shared.key shared) (volumes : world.volumes = start.volumes)
    (claims : world.claims = start.claims)
    (free : ∀ volume, world.volumes.object? (volumeKey shared.key) = some volume →
      FreeFor shared.key volume) :
    (provision settings).Meets (Permitted settings shared.key start)
      (fun result shared' world' => shared' = shared ∧ world'.sharedVolumes = world.sharedVolumes ∧
        (result = .ok () →
          ((∃ volume, world'.volumes.object? (volumeKey shared.key) = some volume ∧
              FreeFor shared.key volume) ∨
            start.volumes.Terminating (volumeKey shared.key)) ∧
          ((∃ claim, world'.claims.object? (claimKey shared.key) = some claim) ∨
            start.claims.Terminating (claimKey shared.key))))
      shared world := by
  rw [provision, meets_bind]
  refine ((establishVolume_permitted kept serves volumes free).keeping
    (fun _ _ kept permitted => kept.perform permitted) kept).imp ?_
  rintro result shared' world' ⟨⟨rfl, sharedVolumes', claims', volume⟩, kept'⟩
  cases result with
  | error failure => exact ⟨rfl, sharedVolumes', by simp⟩
  | ok value =>
    have serves' : world'.Serves shared'.key shared' :=
      ⟨sharedVolumes' ▸ serves.held, serves.stays, serves.registered, serves.valid⟩
    refine (establishClaim_permitted kept' serves' (claims'.trans claims)).imp ?_
    rintro result shared'' world'' ⟨rfl, sharedVolumes'', volumes'', claim⟩
    refine ⟨rfl, sharedVolumes''.trans sharedVolumes', fun succeeded => ⟨?_, claim succeeded⟩⟩
    rw [volumes'']
    exact volume rfl

/-- Looking for drift of the spec: a pass only goes on if the volume is not another owner's. -/
private theorem revertDrift_permitted (held : world.sharedVolumes.object? shared.key = some shared)
    (stays : shared.isDeleting = false) (since : world.volumes = start.volumes) :
    revertDrift.Meets (Permitted settings shared.key start)
      (fun result shared' world' => result = .ok false → shared' = shared ∧ world' = world ∧
        ∀ volume, world.volumes.object? (volumeKey shared.key) = some volume →
          FreeFor shared.key volume)
      shared world := by
  rw [revertDrift, meets_bind, meets_get]
  simp only
  rw [meets_bind, meets_fetchVolume]
  refine ⟨.readVolume, ?_⟩
  cases works : world.volumes.failing .get with
  | true =>
    rw [Store.get, Store.check_of_failing works]
    exact fun continues => absurd continues (by simp)
  | false =>
    rw [Store.get_eq_ok_iff.mpr ⟨works, rfl⟩]
    cases found : world.volumes.object? (volumeKey shared.key) with
    | none =>
      simp only
      rw [meets_pure]
      exact fun _ => ⟨rfl, rfl, fun _ stored => absurd stored (by simp)⟩
    | some volume =>
      simp only
      cases labelled : otherOwner? volume shared with
      | some other =>
        simp only
        rw [meets_bind]
        refine meets_reportFailure (.report held (by decide)) held ?_
        intro result shared' world' reported
        simp
      | none =>
        have free := otherOwner?_eq_none_iff.mp labelled
        simp only
        cases read : SharedVolumeSpec.ofVolume volume with
        | error fault =>
          simp only
          rw [meets_pure]
          refine fun _ => ⟨rfl, rfl, ?_⟩
          rintro _ ⟨⟩
          exact free
        | ok spec =>
          simp only
          split
          · rw [meets_pure]
            refine fun _ => ⟨rfl, rfl, ?_⟩
            rintro _ ⟨⟩
            exact free
          · rw [meets_bind]
            exact meets_replace (.revert held stays since found free read) held rfl rfl
              (fun _ _ => by simp) (fun _ _ _ => by simp) (fun _ _ _ => by simp)

private theorem registerCleanup_permitted (held : world.sharedVolumes.object? shared.key = some shared)
    (stays : shared.isDeleting = false) :
    registerCleanup.Meets (Permitted settings shared.key start)
      (fun result shared' world' => result = .ok false → shared' = shared ∧ world' = world ∧
        shared.hasFinalizer = true)
      shared world := by
  rw [registerCleanup, meets_bind, meets_get]
  simp only
  split
  · rename_i registered
    exact fun _ => ⟨rfl, rfl, registered⟩
  · rename_i unregistered
    rw [meets_bind]
    exact meets_replace (.register held stays (by simpa using unregistered)) held rfl rfl
      (fun _ _ => by simp) (fun _ _ _ => by simp) (fun _ _ _ => by simp)

private theorem serve_permitted (kept : world.WellKept settings)
    (held : world.sharedVolumes.object? shared.key = some shared) (stays : shared.isDeleting = false)
    (registered : shared.hasFinalizer = true) (volumes : world.volumes = start.volumes)
    (claims : world.claims = start.claims)
    (free : ∀ volume, world.volumes.object? (volumeKey shared.key) = some volume →
      FreeFor shared.key volume) :
    (serve settings).Meets (Permitted settings shared.key start) (fun _ _ _ => True) shared world := by
  rw [serve, meets_bind, meets_get]
  simp only
  cases valid : shared.spec.faultText? with
  | some message =>
    simp only
    rw [meets_bind]
    exact meets_reportFailure (.report held (by decide)) held fun _ _ _ _ => trivial
  | none =>
    simp only
    rw [meets_bind, meets_attempt]
    refine (provision_permitted kept ⟨held, stays, registered, valid⟩ volumes claims free).imp ?_
    rintro result shared' world' ⟨rfl, sharedVolumes', present⟩
    have held' : world'.sharedVolumes.object? shared'.key = some shared' := sharedVolumes' ▸ held
    cases result with
    | error failure =>
      simp only
      rw [meets_bind]
      exact meets_reportFailure (.report held' (by decide)) held' fun _ _ _ _ => trivial
    | ok value =>
      obtain ⟨volume, claim⟩ := present rfl
      simp only
      rw [meets_bind]
      refine (meets_reportReady (.reportReady ⟨held', stays, registered, valid⟩ volume claim)
        held').imp ?_
      intro result _ _ _
      cases result <;> trivial

private theorem advance_permitted (kept : world.WellKept settings)
    (held : world.sharedVolumes.object? shared.key = some shared) (stays : shared.isDeleting = false)
    (volumes : world.volumes = start.volumes) (claims : world.claims = start.claims) :
    (advance settings).Meets (Permitted settings shared.key start) (fun _ _ _ => True) shared world := by
  rw [advance, meets_bind]
  refine (revertDrift_permitted held stays volumes).imp ?_
  intro result shared' world' unchanged
  rcases result with failure | _ | _
  · trivial
  · obtain ⟨rfl, rfl, free⟩ := unchanged rfl
    simp only [Bool.false_eq_true, ↓reduceIte]
    rw [meets_bind]
    refine (registerCleanup_permitted held stays).imp ?_
    intro result shared'' world'' unchanged
    rcases result with failure | _ | _
    · trivial
    · obtain ⟨rfl, rfl, registered⟩ := unchanged rfl
      simp only [Bool.false_eq_true, ↓reduceIte]
      rw [meets_bind, meets_get]
      simp only
      split
      · rw [meets_bind]
        refine (meets_report (.report held (by decide)) held).imp ?_
        intro result _ _ _
        cases result <;> trivial
      · exact serve_permitted kept held stays registered volumes claims free
    · trivial
  · trivial

/-! ## Removing -/

private theorem withdrawClaim_permitted (kept : world.WellKept settings)
    (retires : world.Retires shared.key shared) :
    (withClaimUnit settings Upkeep.withdraw).Meets (Permitted settings shared.key start)
      (fun result shared' world' => shared' = shared ∧ world'.sharedVolumes = world.sharedVolumes ∧
        world'.volumes = world.volumes ∧
        (result = .ok () → world'.claims.Leaving (claimKey shared.key)))
      shared world := by
  have mayTake : Permitted settings shared.key start world (.roster (.claim shared settings)) :=
    .takeClaim retires.held retires.registered
  rw [meets_withClaimUnit]
  refine ⟨mayTake, ?_⟩
  have listed := world.roster.unit?_claim shared settings
  have key := (kept.perform mayTake).key_claimUnit listed
  refine (Upkeep.meets_withdraw ?_ ?_).imp ?_
  · rw [key]
    exact .readClaim
  · rw [key]
    exact fun _ => .deleteClaim ⟨retires.held, retires.leaves, retires.registered⟩
  · intro result claims outcome
    cases result with
    | error failure => exact ⟨rfl, rfl, rfl, by simp⟩
    | ok unit =>
      obtain ⟨cleared, leaving⟩ := outcome.leaving
      rw [key] at leaving
      refine ⟨.recordClaim (fun _ => retires.leaving) ?_, rfl, rfl, rfl, fun _ => leaving⟩
      intro claim recorded
      rw [cleared] at recorded
      cases recorded

private theorem withdrawVolume_permitted (kept : world.WellKept settings)
    (retires : world.Retires shared.key shared) (claim : world.claims.Leaving (claimKey shared.key))
    (free : ∀ volume, world.volumes.object? (volumeKey shared.key) = some volume →
      FreeFor shared.key volume) :
    (withVolumeUnit settings Upkeep.withdraw).Meets (Permitted settings shared.key start)
      (fun result shared' world' => shared' = shared ∧ world'.sharedVolumes = world.sharedVolumes ∧
        world'.claims = world.claims ∧
        (result = .ok () → world'.volumes.Leaving (volumeKey shared.key)))
      shared world := by
  have mayTake : Permitted settings shared.key start world (.roster (.volume shared settings)) :=
    .takeVolume retires.held retires.registered
  rw [meets_withVolumeUnit]
  refine ⟨mayTake, ?_⟩
  have listed := world.roster.unit?_volume shared settings
  have key := (kept.perform mayTake).key_volumeUnit listed
  refine (Upkeep.meets_withdraw ?_ ?_).imp ?_
  · rw [key]
    exact .readVolume
  · rw [key]
    exact fun _ => .deleteVolume ⟨retires.held, retires.leaves, retires.registered⟩ claim free
  · intro result volumes outcome
    cases result with
    | error failure => exact ⟨rfl, rfl, rfl, by simp⟩
    | ok unit =>
      obtain ⟨cleared, leaving⟩ := outcome.leaving
      rw [key] at leaving
      refine ⟨.recordVolume (fun _ => retires.leaving) ?_, rfl, rfl, rfl, fun _ => leaving⟩
      intro volume recorded
      rw [cleared] at recorded
      cases recorded

/-- Removing both: with success, neither is to stay, unless the volume is another owner's. -/
private theorem removeDependents_permitted (kept : world.WellKept settings)
    (retires : world.Retires shared.key shared) :
    (removeDependents settings).Meets (Permitted settings shared.key start)
      (fun result shared' world' => shared' = shared ∧ world'.sharedVolumes = world.sharedVolumes ∧
        (result = .ok () → world'.claims.Leaving (claimKey shared.key) ∧
          ∀ volume, world'.volumes.object? (volumeKey shared.key) = some volume →
            volume.metadata.isDeleting = true ∨ ¬FreeFor shared.key volume))
      shared world := by
  rw [removeDependents, meets_bind]
  refine ((withdrawClaim_permitted kept retires).keeping
    (fun _ _ kept permitted => kept.perform permitted) kept).imp ?_
  rintro result shared' world' ⟨⟨rfl, sharedVolumes', volumes', claim⟩, kept'⟩
  cases result with
  | error failure => exact ⟨rfl, sharedVolumes', by simp⟩
  | ok value =>
    have retires' : world'.Retires shared'.key shared' :=
      ⟨sharedVolumes' ▸ retires.held, retires.leaves, retires.registered⟩
    simp only
    rw [meets_bind, meets_get]
    simp only
    rw [meets_bind, meets_fetchVolume]
    refine ⟨.readVolume, ?_⟩
    cases works : world'.volumes.failing .get with
    | true =>
      rw [Store.get, Store.check_of_failing works]
      exact ⟨rfl, sharedVolumes', by simp⟩
    | false =>
      rw [Store.get_eq_ok_iff.mpr ⟨works, rfl⟩]
      simp only
      split
      · rename_i foreign
        rw [meets_pure]
        refine ⟨rfl, sharedVolumes', fun _ => ⟨claim rfl, ?_⟩⟩
        intro volume found
        rw [found, Option.bind_some] at foreign
        refine .inr fun free => ?_
        rw [otherOwner?_eq_none_iff.mpr free] at foreign
        cases foreign
      · rename_i own
        have free : ∀ volume, world'.volumes.object? (volumeKey shared'.key) = some volume →
            FreeFor shared'.key volume := by
          intro volume found
          rw [found, Option.bind_some] at own
          exact otherOwner?_eq_none_iff.mp (by simpa using own)
        refine (withdrawVolume_permitted kept' retires' (claim rfl) free).imp ?_
        rintro result shared'' world'' ⟨rfl, sharedVolumes'', claims'', volume⟩
        refine ⟨rfl, sharedVolumes''.trans sharedVolumes', fun succeeded => ⟨?_, ?_⟩⟩
        · exact claims'' ▸ claim rfl
        · exact fun found stored => .inl (volume succeeded found stored)

private theorem cleanUp_permitted {key : ObjectKey} (kept : world.WellKept settings)
    (own : shared.key = key) (held : world.sharedVolumes.object? key = some shared)
    (leaves : shared.isDeleting = true) :
    (cleanUp settings).Meets (Permitted settings key start) (fun _ _ _ => True) shared world := by
  subst own
  rw [cleanUp, meets_bind, meets_get]
  simp only
  split
  · rename_i registered
    rw [meets_bind, meets_attempt]
    refine (removeDependents_permitted kept ⟨held, leaves, registered⟩).imp ?_
    rintro result shared' world' ⟨rfl, sharedVolumes', removed⟩
    have held' : world'.sharedVolumes.object? shared'.key = some shared' := sharedVolumes' ▸ held
    simp only
    rw [meets_bind, meets_dismiss]
    refine ⟨.dismiss (.of_stored held' leaves), ?_⟩
    simp only
    rw [meets_bind, meets_ofResult]
    cases result with
    | error failure => trivial
    | ok value =>
      obtain ⟨claim, volume⟩ := removed rfl
      rw [meets_mapFailure]
      refine meets_replace (.release ⟨held', leaves, registered⟩ claim volume ?_ ?_) held' rfl rfl
        (fun _ _ => trivial) (fun _ _ _ => trivial) (fun _ _ _ => trivial)
      · exact Shelf.unit?_dismiss_self ..
      · exact Shelf.unit?_dismiss_self ..
  · trivial

private theorem retire_permitted (kept : world.WellKept settings)
    (held : world.sharedVolumes.object? shared.key = some shared) (leaves : shared.isDeleting = true) :
    (retire settings).Meets (Permitted settings shared.key start) (fun _ _ _ => True) shared world := by
  rw [retire, meets_bind, meets_bestEffort]
  have first : (report .deleting "").Meets (Permitted settings shared.key start)
      (Reported { shared.status.getD {} with phase := some .deleting, message := "" } shared world)
      shared world :=
    meets_report (.report held (by decide)) held
  refine (first.keeping (fun _ _ kept permitted => kept.perform permitted) kept).imp ?_
  rintro result shared' world' ⟨reported, kept'⟩
  simp only
  rw [meets_bind]
  have cleaned : (cleanUp settings).Meets (Permitted settings shared.key start) (fun _ _ _ => True)
      shared' world' := by
    cases reported with
    | kept => exact cleanUp_permitted kept' rfl held leaves
    | failed => exact cleanUp_permitted kept' rfl held leaves
    | written puts => exact cleanUp_permitted kept' rfl puts.object?_self leaves
  refine cleaned.imp ?_
  intro result _ _ _
  cases result <;> trivial

end PassM

/-- Every call of a pass is permitted. -/
theorem reconcile_permitted {settings : Settings} {world : World} (kept : world.WellKept settings)
    (key : ObjectKey) :
    (reconcile settings key).Meets (Permitted settings key world) (fun _ _ => True) world := by
  rw [reconcile, OperatorProgram.meets_bind, OperatorProgram.meets_onSharedVolumes,
    StoreProgram.meets_get]
  refine ⟨.readShared, ?_⟩
  cases works : world.sharedVolumes.failing .get with
  | true =>
    rw [Store.get, Store.check_of_failing works]
    trivial
  | false =>
    rw [Store.get_eq_ok_iff.mpr ⟨works, rfl⟩]
    cases found : world.sharedVolumes.object? key with
    | none =>
      simp only
      refine (OperatorProgram.meets_bind (OperatorProgram.onRoster (.dismiss key)) _).mpr
        ⟨.dismiss ?_, trivial⟩
      intro shared stored
      rw [found] at stored
      cases stored
    | some shared =>
      obtain rfl : shared.key = key := kept.sharedVolumes _ _ found
      have pass : (PassM.pass settings).Meets (Permitted settings shared.key world)
          (fun _ _ _ => True) shared world := by
        rw [PassM.pass, PassM.meets_bind, PassM.meets_get]
        simp only
        split
        · rename_i leaves
          exact PassM.retire_permitted kept found leaves
        · rename_i stays
          exact PassM.advance_permitted kept found (by simpa using stays) rfl rfl
      exact (Program.meets_bind ((PassM.pass settings).perform shared) _).mpr
        (pass.imp fun _ _ _ _ => trivial)

end SharedMount
