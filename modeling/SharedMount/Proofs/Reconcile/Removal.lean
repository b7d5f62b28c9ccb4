import SharedMount.Proofs.Reconcile.Steps
import SharedMount.Proofs.Upkeep.Outcomes

/-! # What removing comes to

A pass over a SharedVolume that is being deleted drops the units of its owner, however it ends. Where no
operation is made to fail, it succeeds, and the finalizer of the operator is gone for good.
-/

namespace SharedMount

namespace SharedVolume

/-- The finalizers of others. -/
def otherFinalizers (shared : SharedVolume) : List String :=
  shared.metadata.finalizerList.filter (· ≠ cleanupFinalizer)

theorem finalizerList_withoutFinalizer (shared : SharedVolume) :
    (PassM.withoutFinalizer shared).metadata.finalizerList = shared.otherFinalizers := by
  cases present : shared.metadata.finalizers with
  | none => simp [PassM.withoutFinalizer, otherFinalizers, Metadata.finalizerList, present]
  | some finalizers => simp [PassM.withoutFinalizer, otherFinalizers, Metadata.finalizerList, present]

theorem otherFinalizers_withoutFinalizer (shared : SharedVolume) :
    (PassM.withoutFinalizer shared).otherFinalizers = shared.otherFinalizers := by
  rw [otherFinalizers, finalizerList_withoutFinalizer, otherFinalizers, List.filter_filter]
  simp

theorem hasFinalizer_withoutFinalizer (shared : SharedVolume) :
    (PassM.withoutFinalizer shared).hasFinalizer = false := by
  rw [hasFinalizer, finalizerList_withoutFinalizer, otherFinalizers]
  simp

end SharedVolume

/-- No operation of any store is made to fail. -/
structure World.Working (world : World) : Prop where
  sharedVolumes (operation : Operation) : world.sharedVolumes.failing operation = false
  volumes (operation : Operation) : world.volumes.failing operation = false
  claims (operation : Operation) : world.claims.failing operation = false

namespace World.Working

variable {world : World} {operation : Operation}

theorem no_shared_fault (working : world.Working) : world.sharedVolumes.failing operation ≠ true :=
  Bool.eq_false_iff.mp (working.sharedVolumes operation)

theorem no_volume_fault (working : world.Working) : world.volumes.failing operation ≠ true :=
  Bool.eq_false_iff.mp (working.volumes operation)

theorem no_claim_fault (working : world.Working) : world.claims.failing operation ≠ true :=
  Bool.eq_false_iff.mp (working.claims operation)

theorem not_faulty (working : world.Working) (reading : Operation) :
    ¬(world.volumes.failing reading = true ∨ ∃ operation, world.sharedVolumes.failing operation = true) := by
  rintro (fails | ⟨operation, fails⟩)
  · exact working.no_volume_fault fails
  · exact working.no_shared_fault fails

end World.Working

namespace PassM

variable {settings : Settings} {shared : SharedVolume} {world : World}

/-! ## The units are dropped -/

private theorem replace_roster {updated : SharedVolume} (holds : Roster → Prop)
    (initial : holds world.roster) :
    (PassM.replace updated).Meets (fun _ _ => True) (fun _ _ world' => holds world'.roster) shared
      world := by
  rw [PassM.replace, meets_bind, meets_ofProgram, OperatorProgram.meets_onSharedVolumes,
    StoreProgram.meets_replace]
  refine ⟨trivial, ?_⟩
  cases (world.sharedVolumes.perform (.replace updated)).1 <;> exact initial

private theorem cleanUp_dismisses {key : ObjectKey} (own : shared.key = key)
    (registered : shared.hasFinalizer = true) :
    (cleanUp settings).Meets (fun _ _ => True)
      (fun _ _ world' => world'.roster.volumes.unit? key = none ∧
        world'.roster.claims.unit? key = none) shared world := by
  subst own
  rw [cleanUp, meets_bind, meets_get]
  simp only [registered, ↓reduceIte]
  rw [meets_bind, meets_attempt]
  refine (meets_trivial (removeDependents settings) shared world).imp ?_
  intro result shared' world' _
  simp only
  rw [meets_bind, meets_dismiss]
  have dropped : (world'.roster.dismiss shared.key).volumes.unit? shared.key = none ∧
      (world'.roster.dismiss shared.key).claims.unit? shared.key = none :=
    ⟨Shelf.unit?_dismiss_self .., Shelf.unit?_dismiss_self ..⟩
  refine ⟨trivial, ?_⟩
  simp only
  rw [meets_bind, meets_ofResult]
  cases result with
  | error failure => exact dropped
  | ok value =>
    simp only
    rw [meets_mapFailure]
    exact replace_roster (fun roster => roster.volumes.unit? shared.key = none ∧
      roster.claims.unit? shared.key = none) dropped

/-- However a pass over a registered SharedVolume that is being deleted ends, its units are dropped. -/
theorem retire_dismisses (held : world.sharedVolumes.object? shared.key = some shared)
    (registered : shared.hasFinalizer = true) :
    (retire settings).Meets (fun _ _ => True)
      (fun _ _ world' => world'.roster.volumes.unit? shared.key = none ∧
        world'.roster.claims.unit? shared.key = none) shared world := by
  rw [retire, meets_bind, meets_bestEffort]
  refine (meets_report trivial held).imp ?_
  intro result shared' world' reported
  simp only
  rw [meets_bind]
  have cleaned : (cleanUp settings).Meets (fun _ _ => True)
      (fun _ _ world' => world'.roster.volumes.unit? shared.key = none ∧
        world'.roster.claims.unit? shared.key = none) shared' world' := by
    cases reported with
    | kept => exact cleanUp_dismisses rfl registered
    | failed => exact cleanUp_dismisses rfl registered
    | written puts => exact cleanUp_dismisses rfl registered
  refine cleaned.imp ?_
  intro result _ _ dropped
  cases result <;> exact dropped

/-! ## Without faults all of it succeeds -/

private theorem withdrawClaim_succeeds (works : ∀ operation, world.claims.failing operation = false) :
    (withClaimUnit settings Upkeep.withdraw).Meets (fun _ _ => True)
      (fun result shared' world' => result = .ok () ∧ shared' = shared ∧
        world'.sharedVolumes = world.sharedVolumes ∧ world'.volumes = world.volumes) shared world := by
  rw [meets_withClaimUnit]
  refine ⟨trivial, (Upkeep.meets_withdraw trivial fun _ => trivial).imp ?_⟩
  intro result claims outcome
  cases outcome with
  | failed failure faulty =>
    obtain ⟨operation, fails⟩ := faulty
    rw [works] at fails
    cases fails
  | missing => exact ⟨trivial, rfl, rfl, rfl, rfl⟩
  | removed => exact ⟨trivial, rfl, rfl, rfl, rfl⟩
  | marked => exact ⟨trivial, rfl, rfl, rfl, rfl⟩

private theorem withdrawVolume_succeeds (works : ∀ operation, world.volumes.failing operation = false) :
    (withVolumeUnit settings Upkeep.withdraw).Meets (fun _ _ => True)
      (fun result shared' world' => result = .ok () ∧ shared' = shared ∧
        world'.sharedVolumes = world.sharedVolumes) shared world := by
  rw [meets_withVolumeUnit]
  refine ⟨trivial, (Upkeep.meets_withdraw trivial fun _ => trivial).imp ?_⟩
  intro result volumes outcome
  cases outcome with
  | failed failure faulty =>
    obtain ⟨operation, fails⟩ := faulty
    rw [works] at fails
    cases fails
  | missing => exact ⟨trivial, rfl, rfl, rfl⟩
  | removed => exact ⟨trivial, rfl, rfl, rfl⟩
  | marked => exact ⟨trivial, rfl, rfl, rfl⟩

private theorem removeDependents_succeeds (works : world.Working) :
    (removeDependents settings).Meets (fun _ _ => True)
      (fun result shared' world' => result = .ok () ∧ shared' = shared ∧
        world'.sharedVolumes = world.sharedVolumes) shared world := by
  rw [removeDependents, meets_bind]
  refine (withdrawClaim_succeeds works.claims).imp ?_
  rintro result shared' world' ⟨rfl, rfl, sharedVolumes, volumes⟩
  simp only
  rw [meets_bind, meets_get]
  simp only
  rw [meets_bind, meets_fetchVolume]
  refine ⟨trivial, ?_⟩
  have readable : world'.volumes.failing .get = false := volumes ▸ works.volumes .get
  rw [Store.get_eq_ok_iff.mpr ⟨readable, rfl⟩]
  simp only
  split
  · rw [meets_pure]
    exact ⟨rfl, rfl, sharedVolumes⟩
  · refine (withdrawVolume_succeeds fun operation => volumes ▸ works.volumes operation).imp ?_
    rintro result shared'' world'' ⟨rfl, rfl, same⟩
    exact ⟨rfl, rfl, same.trans sharedVolumes⟩

/-- What is left of a SharedVolume once the operator is through with its deletion: it does not carry the
finalizer of the operator, and it is gone unless there are finalizers of others. -/
def Released (key : ObjectKey) (others : List String) (world : World) : Prop :=
  (∀ shared, world.sharedVolumes.object? key = some shared → shared.hasFinalizer = false) ∧
    (world.sharedVolumes.object? key = none ↔ others = [])

private theorem cleanUp_succeeds {key : ObjectKey} {others : List String} (works : world.Working)
    (own : shared.key = key) (same : shared.otherFinalizers = others)
    (held : world.sharedVolumes.object? key = some shared) (leaves : shared.isDeleting = true)
    (left : shared.hasFinalizer = true ∨ others ≠ []) :
    (cleanUp settings).Meets (fun _ _ => True)
      (fun result _ world' => result = .ok () ∧ Released key others world') shared world := by
  subst own same
  rw [cleanUp, meets_bind, meets_get]
  simp only
  split
  · rw [meets_bind, meets_attempt]
    refine (removeDependents_succeeds works).imp ?_
    rintro result shared' world' ⟨rfl, rfl, sharedVolumes⟩
    simp only
    rw [meets_bind, meets_dismiss]
    refine ⟨trivial, ?_⟩
    simp only
    rw [meets_bind, meets_ofResult]
    simp only
    rw [meets_mapFailure]
    have merged : Store.merged (withoutFinalizer shared') shared' = withoutFinalizer shared' :=
      merged_eq_self rfl rfl
    refine meets_replace trivial (sharedVolumes ▸ held) rfl rfl ?_ ?_ ?_
    · intro failure fails
      rw [sharedVolumes, works.sharedVolumes] at fails
      cases fails
    · intro after finishes drops
      refine ⟨rfl, fun other stored => absurd (drops.object?_self.symm.trans stored) (by simp), ?_⟩
      have bare : shared'.otherFinalizers = [] := by
        rw [← SharedVolume.finalizerList_withoutFinalizer]
        exact finishes.2
      exact iff_of_true drops.object?_self bare
    · intro after stays puts
      rw [merged] at puts
      refine ⟨rfl, fun other stored => ?_, ?_⟩
      · obtain rfl := puts.eq_of_object?_self stored
        exact SharedVolume.hasFinalizer_withoutFinalizer shared'
      · refine iff_of_false (fun gone => absurd (gone.symm.trans puts.object?_self) (by simp)) ?_
        rw [← SharedVolume.finalizerList_withoutFinalizer]
        exact fun bare => stays ⟨leaves, bare⟩
  · rename_i unregistered
    rw [meets_pure]
    refine ⟨rfl, fun other stored => ?_, ?_⟩
    · obtain rfl := Option.some.inj (held.symm.trans stored)
      simpa using unregistered
    · exact iff_of_false (fun gone => absurd (gone.symm.trans held) (by simp))
        (left.resolve_left unregistered)

/-- Without faults, a pass over a SharedVolume that is being deleted succeeds, and the operator is through
with it. -/
theorem retire_succeeds (works : world.Working)
    (held : world.sharedVolumes.object? shared.key = some shared) (leaves : shared.isDeleting = true)
    (left : shared.hasFinalizer = true ∨ shared.otherFinalizers ≠ []) :
    (retire settings).Meets (fun _ _ => True)
      (fun result _ world' => result = .ok .settled ∧
        Released shared.key shared.otherFinalizers world') shared world := by
  rw [retire, meets_bind, meets_bestEffort]
  refine (meets_report trivial held).imp ?_
  intro result shared' world' reported
  simp only
  rw [meets_bind]
  have cleaned : (cleanUp settings).Meets (fun _ _ => True)
      (fun result _ world' => result = .ok () ∧ Released shared.key shared.otherFinalizers world')
      shared' world' := by
    cases reported with
    | kept => exact cleanUp_succeeds works rfl rfl held leaves left
    | failed => exact cleanUp_succeeds works rfl rfl held leaves left
    | @written after puts =>
      have working : World.Working { world with sharedVolumes := after } :=
        ⟨fun operation => puts.failing ▸ works.sharedVolumes operation, works.volumes, works.claims⟩
      exact cleanUp_succeeds working rfl rfl puts.object?_self leaves left
  refine cleaned.imp ?_
  rintro result _ _ ⟨rfl, released⟩
  exact ⟨rfl, released⟩

end PassM

end SharedMount
