import SharedMount.Proofs.Reconcile.Advancing
import SharedMount.Proofs.Reconcile.Removal

/-! # Removing again

For an owner without units, and where no finalizers hold the claim or the volume, removing what depends on a
SharedVolume takes it away or fails, and after that it ends in the same way and changes no store however often
it is done. Units are built for it anew each time.
-/

namespace SharedMount

theorem Roster.lacks_dismiss (roster : Roster) (owner : ObjectKey) : (roster.dismiss owner).Lacks owner :=
  ⟨Shelf.unit?_dismiss_self .., Shelf.unit?_dismiss_self ..⟩

namespace PassM

variable {settings : Settings} {shared : SharedVolume} {world : World}

/-! ## The claim and the volume -/

private theorem withdrawClaim_spends (unlisted : world.roster.claims.unit? shared.key = none)
    (bare : world.claims.Bare (claimKey shared.key)) :
    (withClaimUnit settings Upkeep.withdraw).Meets (fun _ _ => True) (fun result shared' world' =>
      shared' = shared ∧ (claimUpkeep shared settings).Spent world'.claims result ∧
        ∃ claims shelf, world' = { world with claims, roster := { world.roster with claims := shelf } })
      shared world := by
  have fresh : (world.roster.claim shared settings).1.upkeep = claimUpkeep shared settings :=
    Shelf.upkeep_take_of_none unlisted _
  rw [meets_withClaimUnit, fresh]
  refine ⟨trivial, (Upkeep.meets_withdraw_bare bare).imp ?_⟩
  rintro (failure | unit) claims ⟨spent, -, -⟩
  · exact ⟨rfl, spent, _, _, rfl⟩
  · exact ⟨trivial, rfl, spent, _, _, rfl⟩

private theorem withdrawClaim_again {result : Except Failure Unit}
    (spent : (claimUpkeep shared settings).Spent world.claims result) (roster : Roster)
    (unlisted : roster.claims.unit? shared.key = none) :
    (withClaimUnit settings Upkeep.withdraw).Meets (fun _ _ => True) (fun result' shared' world' =>
      result' = result ∧ shared' = shared ∧
        ∃ shelf, world' = { world with roster := { roster with claims := shelf } })
      shared { world with roster } := by
  have fresh : (roster.claim shared settings).1.upkeep = claimUpkeep shared settings :=
    Shelf.upkeep_take_of_none unlisted _
  obtain ⟨_, outcome, rfl⟩ := spent
  rw [meets_withClaimUnit, fresh]
  refine ⟨trivial, (StoreProgram.outcome_eq_iff.mp outcome).imp ?_⟩
  rintro (failure | unit) _ ⟨rfl, rfl⟩
  · exact ⟨rfl, rfl, _, rfl⟩
  · exact ⟨trivial, rfl, rfl, _, rfl⟩

private theorem withdrawVolume_spends (unlisted : world.roster.volumes.unit? shared.key = none)
    (bare : world.volumes.Bare (volumeKey shared.key)) :
    (withVolumeUnit settings Upkeep.withdraw).Meets (fun _ _ => True) (fun result shared' world' =>
      shared' = shared ∧ (volumeUpkeep shared settings).Spent world'.volumes result ∧
        world'.volumes.failing = world.volumes.failing ∧
        (world'.volumes = world.volumes ∨ world'.volumes.object? (volumeKey shared.key) = none) ∧
        ∃ volumes shelf, world' = { world with volumes, roster := { world.roster with volumes := shelf } })
      shared world := by
  have fresh : (world.roster.volume shared settings).1.upkeep = volumeUpkeep shared settings :=
    Shelf.upkeep_take_of_none unlisted _
  rw [meets_withVolumeUnit, fresh]
  refine ⟨trivial, (Upkeep.meets_withdraw_bare bare).imp ?_⟩
  rintro (failure | unit) volumes ⟨spent, failing, left⟩
  · exact ⟨rfl, spent, failing, left, _, _, rfl⟩
  · exact ⟨trivial, rfl, spent, failing, left, _, _, rfl⟩

private theorem withdrawVolume_again {result : Except Failure Unit}
    (spent : (volumeUpkeep shared settings).Spent world.volumes result) (roster : Roster)
    (unlisted : roster.volumes.unit? shared.key = none) :
    (withVolumeUnit settings Upkeep.withdraw).Meets (fun _ _ => True) (fun result' shared' world' =>
      result' = result ∧ shared' = shared ∧
        ∃ shelf, world' = { world with roster := { roster with volumes := shelf } })
      shared { world with roster } := by
  have fresh : (roster.volume shared settings).1.upkeep = volumeUpkeep shared settings :=
    Shelf.upkeep_take_of_none unlisted _
  obtain ⟨_, outcome, rfl⟩ := spent
  rw [meets_withVolumeUnit, fresh]
  refine ⟨trivial, (StoreProgram.outcome_eq_iff.mp outcome).imp ?_⟩
  rintro (failure | unit) _ ⟨rfl, rfl⟩
  · exact ⟨rfl, rfl, _, rfl⟩
  · exact ⟨trivial, rfl, rfl, _, rfl⟩

/-- For an owner without units, removing what depends on a SharedVolume ends with a result and changes nothing
but the roster. -/
def Removed (settings : Settings) (shared : SharedVolume) (world : World) (result : Except Failure Unit) :
    Prop :=
  ∀ roster : Roster, roster.Lacks shared.key →
    (removeDependents settings).Meets (fun _ _ => True) (fun result' shared' world' =>
      result' = result ∧ shared' = shared ∧ ∃ roster', world' = { world with roster := roster' })
      shared { world with roster }

section Removed

variable {result : Except Failure Unit}

private theorem removed_of_claim_failed {failure : Failure}
    (claim : (claimUpkeep shared settings).Spent world.claims (.error failure)) :
    Removed settings shared world (.error failure) := by
  intro roster lacks
  rw [removeDependents, meets_bind]
  refine (withdrawClaim_again claim roster lacks.claim).imp ?_
  rintro _ _ _ ⟨rfl, rfl, shelf, rfl⟩
  exact ⟨rfl, rfl, _, rfl⟩

variable (claim : (claimUpkeep shared settings).Spent world.claims (.ok ()))
include claim

/-- With the claim gone, reading the volume decides what else is to be removed. -/
private theorem removed_of_read
    (left : ∀ roster : Roster, roster.volumes.unit? shared.key = none →
      (do
        let volume ← fetchVolume (volumeKey shared.key)
        if (volume.bind (otherOwner? · shared)).isSome then return
        else withVolumeUnit settings Upkeep.withdraw : PassM Unit).Meets (fun _ _ => True)
        (fun result' shared' world' =>
          result' = result ∧ shared' = shared ∧ ∃ roster', world' = { world with roster := roster' })
        shared { world with roster }) :
    Removed settings shared world result := by
  intro roster lacks
  rw [removeDependents, meets_bind]
  refine (withdrawClaim_again claim roster lacks.claim).imp ?_
  rintro _ _ _ ⟨rfl, rfl, shelf, rfl⟩
  simp only
  rw [meets_bind, meets_get]
  exact left { roster with claims := shelf } lacks.volume

private theorem removed_of_unreadable (fails : world.volumes.failing .get = true) :
    Removed settings shared world
      (.error (.internal ("injected " ++ Operation.get.faultName ++ " failure"))) := by
  refine removed_of_read claim fun roster _ => ?_
  rw [meets_bind, meets_fetchVolume, Store.get, Store.check_of_failing fails]
  exact ⟨trivial, rfl, rfl, _, rfl⟩

variable (readable : world.volumes.failing .get = false)
include readable

private theorem removed_of_foreign
    (foreign : ((world.volumes.object? (volumeKey shared.key)).bind (otherOwner? · shared)).isSome = true) :
    Removed settings shared world (.ok ()) := by
  refine removed_of_read claim fun roster _ => ?_
  rw [meets_bind, meets_fetchVolume, Store.get_eq_ok_iff.mpr ⟨readable, rfl⟩]
  refine ⟨trivial, ?_⟩
  simp only [foreign, ↓reduceIte]
  exact ⟨rfl, rfl, _, rfl⟩

private theorem removed_of_volume
    (own : ((world.volumes.object? (volumeKey shared.key)).bind (otherOwner? · shared)).isSome = false)
    (volume : (volumeUpkeep shared settings).Spent world.volumes result) :
    Removed settings shared world result := by
  refine removed_of_read claim fun roster unlisted => ?_
  rw [meets_bind, meets_fetchVolume, Store.get_eq_ok_iff.mpr ⟨readable, rfl⟩]
  refine ⟨trivial, ?_⟩
  simp only [own, Bool.false_eq_true, ↓reduceIte]
  refine (withdrawVolume_again volume roster unlisted).imp ?_
  rintro _ _ _ ⟨rfl, rfl, shelf, rfl⟩
  exact ⟨rfl, rfl, _, rfl⟩

end Removed

/-- After removing what depends on a SharedVolume, however that ended, nothing is left to be removed. -/
private theorem meets_removeDependents (unlisted : world.roster.Lacks shared.key)
    (bareClaim : world.claims.Bare (claimKey shared.key))
    (bareVolume : world.volumes.Bare (volumeKey shared.key)) :
    (removeDependents settings).Meets (fun _ _ => True) (fun result shared' world' =>
      shared' = shared ∧ world'.sharedVolumes = world.sharedVolumes ∧
        Removed settings shared world' result) shared world := by
  rw [removeDependents, meets_bind]
  refine (withdrawClaim_spends unlisted.claim bareClaim).imp ?_
  rintro (failure | ⟨⟩) _ _ ⟨rfl, claim, claims, shelf, rfl⟩
  · exact ⟨rfl, rfl, removed_of_claim_failed claim⟩
  simp only
  rw [meets_bind, meets_get]
  simp only
  rw [meets_bind, meets_fetchVolume]
  refine ⟨trivial, ?_⟩
  cases readable : world.volumes.failing .get with
  | true =>
    rw [Store.get, Store.check_of_failing readable]
    exact ⟨rfl, rfl, removed_of_unreadable claim readable⟩
  | false =>
    rw [Store.get_eq_ok_iff.mpr ⟨readable, rfl⟩]
    simp only
    split
    · rename_i foreign
      exact ⟨rfl, rfl, removed_of_foreign claim readable foreign⟩
    · rename_i own
      refine (withdrawVolume_spends ?_ ?_).imp ?_
      · exact unlisted.volume
      · exact bareVolume
      rintro result _ world' ⟨rfl, volume, failing, left, volumes, shelf', rfl⟩
      refine ⟨rfl, rfl, removed_of_volume claim (failing ▸ readable) ?_ volume⟩
      rcases left with rfl | gone
      · simpa using own
      · simp only [gone, Option.bind_none, Option.isSome_none]

/-! ## The whole of it -/

/-- For an owner without units, a task ends with a result and changes nothing but the roster, in which the
owner is without units again. -/
def StillUnlisted {α : Type} (task : PassM α) (shared : SharedVolume) (world : World)
    (result : Except Failure α) : Prop :=
  ∀ roster : Roster, roster.Lacks shared.key →
    task.Meets (fun _ _ => True) (fun result' shared' world' => result' = result ∧ shared' = shared ∧
      ∃ roster' : Roster, roster'.Lacks shared.key ∧ world' = { world with roster := roster' })
      shared { world with roster }

theorem meets_replace_of_failing {allowed : World → OperatorCall → Prop}
    {wanted : Except Failure Unit → SharedVolume → World → Prop} {updated : SharedVolume}
    (permitted : allowed world (.sharedVolumes (.replace updated)))
    (fails : world.sharedVolumes.failing .replace = true)
    (failed : wanted (.error (.internal ("injected " ++ Operation.replace.faultName ++ " failure")))
      shared world) : (PassM.replace updated).Meets allowed wanted shared world := by
  have refused : world.sharedVolumes.perform (.replace updated) = (.error _, world.sharedVolumes) :=
    Store.replace_eq_error_iff.mpr ⟨rfl, .inl (Store.check_of_failing fails)⟩
  rw [PassM.replace, meets_bind, meets_ofProgram, OperatorProgram.meets_onSharedVolumes,
    StoreProgram.meets_replace, refused]
  exact ⟨permitted, failed⟩

private theorem cleanUp_unregistered (unregistered : shared.hasFinalizer = false) :
    StillUnlisted (cleanUp settings) shared world (.ok ()) := by
  intro roster lacks
  rw [cleanUp, meets_bind, meets_get]
  simp only [unregistered, Bool.false_eq_true, ↓reduceIte]
  exact ⟨rfl, rfl, roster, lacks, rfl⟩

private theorem cleanUp_unremoved {failure : Failure} (registered : shared.hasFinalizer = true)
    (removed : Removed settings shared world (.error failure)) :
    StillUnlisted (cleanUp settings) shared world (.error failure) := by
  intro roster lacks
  rw [cleanUp, meets_bind, meets_get]
  simp only [registered, ↓reduceIte]
  rw [meets_bind, meets_attempt]
  refine (removed roster lacks).imp ?_
  rintro _ _ _ ⟨rfl, rfl, roster', rfl⟩
  simp only
  rw [meets_bind, meets_dismiss]
  exact ⟨trivial, rfl, rfl, _, roster'.lacks_dismiss _, rfl⟩

private theorem cleanUp_unreleased (registered : shared.hasFinalizer = true)
    (removed : Removed settings shared world (.ok ()))
    (fails : world.sharedVolumes.failing .replace = true) :
    StillUnlisted (cleanUp settings) shared world (.error (.finalizer
      (Failure.internal ("injected " ++ Operation.replace.faultName ++ " failure")).message)) := by
  intro roster lacks
  rw [cleanUp, meets_bind, meets_get]
  simp only [registered, ↓reduceIte]
  rw [meets_bind, meets_attempt]
  refine (removed roster lacks).imp ?_
  rintro _ _ _ ⟨rfl, rfl, roster', rfl⟩
  simp only
  rw [meets_bind, meets_dismiss]
  refine ⟨trivial, ?_⟩
  simp only
  rw [meets_bind, meets_ofResult, meets_mapFailure]
  exact meets_replace_of_failing trivial fails ⟨rfl, rfl, _, roster'.lacks_dismiss _, rfl⟩

private theorem still_retire {result : Except Failure Unit}
    (told : Told .deleting "" shared world.sharedVolumes)
    (still : StillUnlisted (cleanUp settings) shared world result) :
    StillUnlisted (retire settings) shared world (result.map fun _ => .settled) := by
  intro roster lacks
  have told' : Told .deleting "" shared { world with roster }.sharedVolumes := told
  rw [retire, meets_bind]
  refine told'.still.imp ?_
  rintro _ _ _ ⟨rfl, rfl, rfl⟩
  simp only
  rw [meets_bind]
  refine (still roster lacks).imp ?_
  rintro (failure | ⟨⟩) _ _ ⟨rfl, rfl, roster', lacks', rfl⟩
  · exact ⟨rfl, rfl, roster', lacks', rfl⟩
  · exact ⟨rfl, rfl, roster', lacks', rfl⟩

/-- What work on the deletion of a SharedVolume leaves: it is gone, or the same work would end in the same
way once more and change nothing. The owner has no units in any case. -/
structure Retired (settings : Settings) (shared : SharedVolume) (world : World)
    (result : Except Failure Verdict) (shared' : SharedVolume) (world' : World) : Prop where
  lacks : world'.roster.Lacks shared.key
  failing : world'.sharedVolumes.failing = world.sharedVolumes.failing
  rests : result = .ok .settled ∧ world'.sharedVolumes.object? shared.key = none ∨
    shared'.key = shared.key ∧ shared'.isDeleting = true ∧
      world'.sharedVolumes.object? shared.key = some shared' ∧
      StillUnlisted (retire settings) shared' world' result

private theorem meets_cleanUp (told : Told .deleting "" shared world.sharedVolumes)
    (held : world.sharedVolumes.object? shared.key = some shared) (leaves : shared.isDeleting = true)
    (unlisted : world.roster.Lacks shared.key) (bareClaim : world.claims.Bare (claimKey shared.key))
    (bareVolume : world.volumes.Bare (volumeKey shared.key)) :
    (cleanUp settings).Meets (fun _ _ => True) (fun result =>
      Retired settings shared world (result.map fun _ => .settled)) shared world := by
  rw [cleanUp, meets_bind, meets_get]
  simp only
  cases registered : shared.hasFinalizer with
  | false =>
    simp only [Bool.false_eq_true, ↓reduceIte]
    rw [meets_pure]
    exact ⟨unlisted, rfl, .inr ⟨rfl, leaves, held,
      still_retire told (cleanUp_unregistered registered)⟩⟩
  | true =>
    simp only [↓reduceIte]
    rw [meets_bind, meets_attempt]
    refine (meets_removeDependents unlisted bareClaim bareVolume).imp ?_
    rintro result shared world' ⟨rfl, sharedVolumes, removed⟩
    have held' := sharedVolumes ▸ held
    have told' := sharedVolumes ▸ told
    simp only
    rw [meets_bind, meets_dismiss]
    refine ⟨trivial, ?_⟩
    simp only
    rw [meets_bind, meets_ofResult]
    rcases result with failure | ⟨⟩
    · exact ⟨world'.roster.lacks_dismiss _, congrArg _ sharedVolumes, .inr ⟨rfl, leaves, held',
        still_retire told' (cleanUp_unremoved registered removed)⟩⟩
    simp only
    rw [meets_mapFailure]
    cases fails : world'.sharedVolumes.failing .replace with
    | true =>
      exact meets_replace_of_failing trivial fails ⟨world'.roster.lacks_dismiss _, congrArg _ sharedVolumes,
        .inr ⟨rfl, leaves, held', still_retire told' (cleanUp_unreleased registered removed fails)⟩⟩
    | false =>
      refine meets_replace trivial held' rfl rfl ?_ ?_ ?_
      · exact fun failure faulty => absurd (fails.symm.trans faulty) (by simp)
      · intro after _ drops
        exact ⟨world'.roster.lacks_dismiss _, drops.failing.trans (congrArg _ sharedVolumes),
          .inl ⟨rfl, drops.object?_self⟩⟩
      · intro after _ puts
        have merged : Store.merged (withoutFinalizer shared) shared = withoutFinalizer shared :=
          merged_eq_self rfl rfl
        rw [merged] at puts ⊢
        have told'' : Told .deleting "" (world'.sharedVolumes.stamp (withoutFinalizer shared)) after :=
          told'.imp id fun fails => puts.failing ▸ fails
        exact ⟨world'.roster.lacks_dismiss _, puts.failing.trans (congrArg _ sharedVolumes),
          .inr ⟨rfl, leaves, puts.object?_self, still_retire told''
            (cleanUp_unregistered (SharedVolume.hasFinalizer_withoutFinalizer shared))⟩⟩

theorem meets_retire (settings : Settings) (held : world.sharedVolumes.object? shared.key = some shared)
    (leaves : shared.isDeleting = true) (unlisted : world.roster.Lacks shared.key)
    (bareClaim : world.claims.Bare (claimKey shared.key))
    (bareVolume : world.volumes.Bare (volumeKey shared.key)) :
    (retire settings).Meets (fun _ _ => True) (Retired settings shared world) shared world := by
  rw [retire, meets_bind, meets_bestEffort]
  refine (meets_report trivial held).imp ?_
  intro result shared₁ world₁ reported
  have told := reported.told
  have held₁ := reported.held held
  obtain ⟨version, status, rfl⟩ := reported.restated
  obtain ⟨sharedVolumes, failing, rfl⟩ := reported.store
  simp only
  rw [meets_bind]
  refine (meets_cleanUp told held₁ leaves unlisted bareClaim bareVolume).imp ?_
  rintro (failure | ⟨⟩) shared' world' ⟨lacks, failing', rests⟩
  · exact ⟨lacks, failing'.trans failing, rests⟩
  · exact ⟨lacks, failing'.trans failing, rests⟩

end PassM

end SharedMount
