import SharedMount.Proofs.Program.Outcome
import SharedMount.Proofs.Upkeep.Outcomes

/-! # Whether an established object exists

Establishing writes the object wanted over the stored one, and the finalizers of the stored one are not among what it
keeps. So it may take the last finalizer off an object that is being deleted, and succeed by making it go away.
`Forfeits` says exactly when a unit succeeds without an object under its key.
-/

namespace SharedMount.Upkeep

variable {K : Type} [Resource K] {unit : Upkeep K} {store after : Store K} {stored present : K}

/-- The unit would make its object under another key than its own, or write an object without finalizers over one that
is being deleted. -/
def Forfeits (unit : Upkeep K) (store : Store K) : Prop :=
  match store.object? unit.key with
  | none => Resource.key unit.wanted ≠ unit.key
  | some stored => Resource.key unit.wanted = unit.key ∧ unit.accepts stored = false ∧
      (Resource.metadata stored).isDeleting = true ∧ (Resource.metadata unit.wanted).finalizerList = []

instance (unit : Upkeep K) (store : Store K) : Decidable (unit.Forfeits store) :=
  match found : store.object? unit.key with
  | none => decidable_of_iff (Resource.key unit.wanted ≠ unit.key) (by rw [Forfeits, found])
  | some stored => decidable_of_iff (Resource.key unit.wanted = unit.key ∧ unit.accepts stored = false ∧
      (Resource.metadata stored).isDeleting = true ∧ (Resource.metadata unit.wanted).finalizerList = [])
      (by rw [Forfeits, found])

private theorem isSome_of_created {written : K} (missing : store.object? unit.key = none)
    (puts : store.Puts after (Resource.key unit.wanted) written) :
    (after.object? unit.key).isSome ↔ ¬unit.Forfeits store := by
  simp only [Forfeits, missing, puts.object?, Decidable.not_not]
  by_cases own : Resource.key unit.wanted = unit.key <;> simp [own]

private theorem isSome_of_accepted (found : store.object? unit.key = some stored)
    (accepts : unit.accepts stored = true) : (store.object? unit.key).isSome ↔ ¬unit.Forfeits store := by
  simp [Forfeits, found, accepts]

/-- The object wanted is written over what is stored under its own key, which need not be the key of the unit. -/
private theorem isSome_of_replaced (found : store.object? unit.key = some stored)
    (differs : unit.accepts stored = false) (there : store.object? (Resource.key unit.wanted) = some present)
    (written : (Store.Finishes unit.wanted present ∧ store.Drops after (Resource.key unit.wanted)) ∨
      ¬Store.Finishes unit.wanted present ∧ ∃ object, store.Puts after (Resource.key unit.wanted) object) :
    (after.object? unit.key).isSome ↔ ¬unit.Forfeits store := by
  simp only [Forfeits, found, differs, true_and]
  by_cases own : Resource.key unit.wanted = unit.key
  · rw [own] at there written
    obtain rfl := Option.some.inj (there.symm.trans found)
    rcases written with ⟨finishes, drops⟩ | ⟨stays, object, puts⟩
    · simpa [drops.object?_self, own] using Store.finishes_iff.mp finishes
    · simpa [puts.object?_self, own] using mt Store.finishes_iff.mpr stays
  · have kept : after.object? unit.key = some stored := by
      rcases written with ⟨-, drops⟩ | ⟨-, object, puts⟩
      · rw [drops.object?_of_ne own, found]
      · rw [puts.object?_of_ne own, found]
    simp [kept, own]

variable [StatusKind K]

/-- A unit that succeeds leaves an object under its key, unless it forfeits it. -/
theorem meets_establish_isSome (unit : Upkeep K) (store : Store K) :
    unit.establish.Meets (fun _ _ => True) (fun result after =>
      result.toOption.isSome → ((after.object? unit.key).isSome ↔ ¬unit.Forfeits store)) store := by
  rw [establish, StoreProgram.meets_bind, StoreProgram.meets_get]
  refine ⟨trivial, ?_⟩
  cases works : store.failing .get with
  | true =>
    rw [Store.get, Store.check_of_failing works]
    exact fun succeeds => absurd succeeds (by simp [Except.toOption])
  | false =>
    rw [Store.get_eq_ok_iff.mpr ⟨works, rfl⟩]
    cases found : store.object? unit.key with
    | none =>
      simp only
      rw [StoreProgram.meets_bind, StoreProgram.meets_create]
      refine ⟨trivial, ?_⟩
      rcases store.create_cases (Resource.withVersion none unit.wanted) with
        ⟨failure, result⟩ | ⟨after, result, -, -, puts⟩ <;> rw [result]
      · exact fun succeeds => absurd succeeds (by simp [Except.toOption])
      · rw [Resource.key_withVersion] at puts
        exact fun _ => isSome_of_created found puts
    | some stored =>
      simp only
      cases accepts : unit.accepts stored with
      | true => exact fun _ => isSome_of_accepted found accepts
      | false =>
        simp only [Bool.false_eq_true, ↓reduceIte]
        rw [StoreProgram.meets_bind, StoreProgram.meets_replace]
        refine ⟨trivial, ?_⟩
        have sent : Resource.key (unit.replacement stored) = Resource.key unit.wanted :=
          Resource.key_withVersion ..
        have same (present : K) :
            Store.Finishes (unit.replacement stored) present ↔ Store.Finishes unit.wanted present := by
          rw [Store.finishes_iff, replacement, Resource.withVersion, Resource.metadata_mapMetadata]
          rfl
        rcases store.replace_cases (unit.replacement stored) with
          ⟨failure, result⟩ | ⟨present, after, there, -, change⟩
        · rw [← replacement, result]
          exact fun succeeds => absurd succeeds (by simp [Except.toOption])
        · rw [sent] at there change
          rw [← replacement]
          rcases change with ⟨finishes, drops, result⟩ | ⟨stays, puts, result⟩ <;> rw [result]
          · exact fun _ => isSome_of_replaced found accepts there (.inl ⟨(same present).mp finishes, drops⟩)
          · exact fun _ => isSome_of_replaced found accepts there (.inr ⟨mt (same present).mpr stays, _, puts⟩)

end SharedMount.Upkeep
