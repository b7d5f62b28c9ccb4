import SharedMount.Proofs.Store.Writes

/-! # How a store changes

A call leaves a store as it is, puts one object under one key, or drops what is there. `Puts` and `Drops`
say what that does to the view of the store; beyond them nobody needs to know how a store is built.
`WellFiled` is what all calls keep: objects are stored under their own identity.
-/

namespace SharedMount.Store

variable {K : Type}

/-- An object was put under a key, and nothing else is different. -/
structure Puts (before after : Store K) (key : ObjectKey) (object : K) : Prop where
  object? (other : ObjectKey) :
    after.object? other = if key = other then some object else before.object? other
  failing : after.failing = before.failing

/-- What was under a key is gone, and nothing else is different. -/
structure Drops (before after : Store K) (key : ObjectKey) : Prop where
  object? (other : ObjectKey) :
    after.object? other = if key = other then none else before.object? other
  failing : after.failing = before.failing

section Views

variable {before after : Store K} {key other : ObjectKey} {object : K}

theorem Puts.object?_self (puts : Puts before after key object) : after.object? key = some object := by
  rw [puts.object?, if_pos rfl]

theorem Puts.eq_of_object?_self (puts : Puts before after key object) {found : K}
    (stored : after.object? key = some found) : object = found :=
  Option.some.inj (puts.object?_self.symm.trans stored)

theorem Puts.object?_of_ne (puts : Puts before after key object) (differ : key ≠ other) :
    after.object? other = before.object? other := by
  rw [puts.object?, if_neg differ]

theorem Drops.object?_self (drops : Drops before after key) : after.object? key = none := by
  rw [drops.object?, if_pos rfl]

theorem Drops.object?_of_ne (drops : Drops before after key) (differ : key ≠ other) :
    after.object? other = before.object? other := by
  rw [drops.object?, if_neg differ]

/-- What is stored after a write is the object written, or was there before. -/
theorem Puts.object?_eq_some (puts : Puts before after key object) {found : K}
    (stored : after.object? other = some found) :
    other = key ∧ found = object ∨ before.object? other = some found := by
  rw [puts.object?] at stored
  split at stored
  · rename_i same
    exact .inl ⟨same.symm, (Option.some.inj stored).symm⟩
  · exact .inr stored

/-- What is stored after a removal was there before, under another key. -/
theorem Drops.object?_eq_some (drops : Drops before after key) {found : K}
    (stored : after.object? other = some found) : key ≠ other ∧ before.object? other = some found := by
  rw [drops.object?] at stored
  split at stored
  · cases stored
  · rename_i differ
    exact ⟨differ, stored⟩

/-- Nothing that was stored is gone after a write. -/
theorem Puts.not_gone (puts : Puts before after key object) {former : K}
    (stored : before.object? other = some former) : after.object? other ≠ none := by
  rw [puts.object?, stored]
  split <;> exact Option.some_ne_none _

/-- A removal takes nothing away but what was under its key. -/
theorem Drops.eq_of_gone (drops : Drops before after key) {former : K}
    (stored : before.object? other = some former) (gone : after.object? other = none) : key = other := by
  rw [drops.object?] at gone
  split at gone
  · assumption
  · cases stored.symm.trans gone

theorem puts_put (store : Store K) (key : ObjectKey) (object : K) (writes : WriteCounts) :
    Puts store { store.put key object with writes } key object :=
  ⟨fun other => by rw [object?_writes, object?_put], rfl⟩

theorem drops_remove (store : Store K) (key : ObjectKey) (writes : WriteCounts) :
    Drops store { store.remove key with writes } key :=
  ⟨fun other => by rw [object?_writes, object?_remove], rfl⟩

end Views

variable {M : Type} [ObjectMeta M] [ObjectKind K M]

/-- Every object is stored under its own identity. -/
def WellFiled (store : Store K) : Prop :=
  ∀ key object, store.object? key = some object → Resource.key object = key

theorem wellFiled_empty : WellFiled ({} : Store K) := by
  intro key object stored
  rw [object?_empty] at stored
  cases stored

theorem WellFiled.puts {before after : Store K} {key : ObjectKey} {object : K}
    (filed : before.WellFiled) (puts : Puts before after key object) (own : Resource.key object = key) :
    after.WellFiled := by
  intro other found stored
  rcases puts.object?_eq_some stored with ⟨rfl, rfl⟩ | stored
  · exact own
  · exact filed _ _ stored

theorem WellFiled.drops {before after : Store K} {key : ObjectKey} (filed : before.WellFiled)
    (drops : Drops before after key) : after.WellFiled :=
  fun _ _ stored => filed _ _ (drops.object?_eq_some stored).2

section Deletion

variable [Resource K]

/-- An object that is filed under a key is being deleted. -/
def Terminating (store : Store K) (key : ObjectKey) : Prop :=
  ∃ object, store.object? key = some object ∧ (Resource.metadata object).isDeleting = true

instance (store : Store K) (key : ObjectKey) : Decidable (store.Terminating key) :=
  decidable_of_iff ((store.object? key).any fun object => (Resource.metadata object).isDeleting)
    (by rw [Option.any_eq_true, Terminating])

/-- Nothing that is filed under a key is to stay. -/
def Leaving (store : Store K) (key : ObjectKey) : Prop :=
  ∀ object, store.object? key = some object → (Resource.metadata object).isDeleting = true

theorem Leaving.of_missing {store : Store K} {key : ObjectKey} (missing : store.object? key = none) :
    store.Leaving key := by
  intro object stored
  rw [missing] at stored
  cases stored

theorem Leaving.of_stored {store : Store K} {key : ObjectKey} {object : K}
    (stored : store.object? key = some object)
    (marked : (Resource.metadata object).isDeleting = true) : store.Leaving key := by
  intro other found
  obtain rfl := Option.some.inj (stored.symm.trans found)
  exact marked

theorem Terminating.leaving {store : Store K} {key : ObjectKey} (terminating : store.Terminating key) :
    store.Leaving key := by
  obtain ⟨object, stored, marked⟩ := terminating
  exact .of_stored stored marked

/-- What is stored and to stay is not leaving. -/
theorem Leaving.not_stays {store : Store K} {key : ObjectKey} {object : K} (leaving : store.Leaving key)
    (stored : store.object? key = some object) : (Resource.metadata object).isDeleting ≠ false := by
  rw [leaving object stored]
  simp

theorem finishes_iff {object present : K} : Finishes object present ↔
    (Resource.metadata present).isDeleting = true ∧ (Resource.metadata object).finalizerList = [] :=
  Iff.rfl

/-- Only what is being deleted can go by being replaced. -/
theorem Finishes.not_stays {object present : K} (finishes : Finishes object present) :
    (Resource.metadata present).isDeleting ≠ false := by
  rw [(finishes_iff.mp finishes).1]
  simp

end Deletion

/-! ## Calls -/

section Calls

variable {M : Type} [ObjectMeta M] [ObjectKind K M] {store : Store K} {key : ObjectKey} {object present : K}

/-- Creation fails, or it stores the object with a new version where nothing was. -/
theorem create_cases (store : Store K) (object : K) :
    (∃ failure, store.perform (.create object) = (.error failure, store)) ∨
      ∃ after, store.perform (.create object) = (.ok (store.stamp object), after) ∧
        Resource.version? object = none ∧ store.object? (Resource.key object) = none ∧
        Puts store after (Resource.key object) (store.stamp object) := by
  rcases result : store.perform (.create object) with ⟨failure | stored, after⟩
  · obtain ⟨rfl, -⟩ := create_eq_error_iff.mp result
    exact .inl ⟨failure, rfl⟩
  · obtain ⟨-, version, missing, rfl, rfl⟩ := create_eq_ok_iff.mp result
    exact .inr ⟨_, rfl, version, missing, puts_put ..⟩

theorem create_of_working (works : store.failing .create = false) (version : Resource.version? object = none)
    (missing : store.object? (Resource.key object) = none) :
    ∃ after, store.perform (.create object) = (.ok (store.stamp object), after) ∧
      Puts store after (Resource.key object) (store.stamp object) :=
  ⟨_, create_eq_ok_iff.mpr ⟨works, version, missing, rfl, rfl⟩, puts_put ..⟩

theorem create_of_failing (fails : store.failing .create = true) (object : K) :
    ∃ failure, store.perform (.create object) = (.error failure, store) :=
  ⟨_, create_eq_error_iff.mpr ⟨rfl, .inl (check_of_failing fails)⟩⟩

/-- Creation is refused where something is stored. -/
theorem create_of_taken (works : store.failing .create = false) (version : Resource.version? object = none)
    (taken : store.object? (Resource.key object) = some present) :
    store.perform (.create object) = (.error (conflict K (Resource.key object) "already exists"), store) :=
  create_eq_error_iff.mpr ⟨rfl, .inr ⟨works, .inr ⟨version, by simp [taken], rfl⟩⟩⟩

/-- Deletion fails, or it removes an object without finalizers, or marks one that has some. -/
theorem delete_cases (store : Store K) (key : ObjectKey) :
    (∃ failure, store.perform (.delete key) = (.error failure, store)) ∨
      ∃ present after, store.perform (.delete key) = (.ok (), after) ∧
        store.object? key = some present ∧
        (Resource.finalizerList present = [] ∧ Drops store after key ∨
          Resource.finalizerList present ≠ [] ∧ Puts store after key (store.stamp (marked present))) := by
  rcases result : store.perform (.delete key) with ⟨failure | ⟨⟨⟩⟩, after⟩
  · obtain ⟨rfl, -⟩ := delete_eq_error_iff.mp result
    exact .inl ⟨failure, rfl⟩
  · obtain ⟨-, present, found, left⟩ := delete_eq_ok_iff.mp result
    refine .inr ⟨present, after, rfl, found, ?_⟩
    by_cases bare : Resource.finalizerList present = []
    · rw [if_pos bare] at left
      subst left
      exact .inl ⟨bare, drops_remove ..⟩
    · rw [if_neg bare] at left
      subst left
      exact .inr ⟨bare, puts_put ..⟩

theorem delete_of_working (works : store.failing .delete = false) (found : store.object? key = some present) :
    ∃ after, store.perform (.delete key) = (.ok (), after) ∧
      (Resource.finalizerList present = [] ∧ Drops store after key ∨
        Resource.finalizerList present ≠ [] ∧ Puts store after key (store.stamp (marked present))) := by
  rcases delete_cases store key with ⟨failure, result⟩ | ⟨other, after, result, same, change⟩
  · rw [delete_eq_ok_iff.mpr ⟨works, present, found, rfl⟩] at result
    cases result
  · cases found.symm.trans same
    exact ⟨after, result, change⟩

theorem delete_of_failing (fails : store.failing .delete = true) (key : ObjectKey) :
    store.perform (.delete key) =
      (.error (.internal ("injected " ++ Operation.delete.faultName ++ " failure")), store) :=
  delete_eq_error_iff.mpr ⟨rfl, .inl (check_of_failing fails)⟩

theorem perform_create (store : Store K) (object : K) :
    (store.perform (.create object)).2 = store ∨ store.object? (Resource.key object) = none ∧
      Puts store (store.perform (.create object)).2 (Resource.key object) (store.stamp object) := by
  rcases create_cases store object with ⟨_, result⟩ | ⟨after, result, -, missing, puts⟩
  · exact .inl (congrArg Prod.snd result)
  · have left : (store.perform (.create object)).2 = after := congrArg Prod.snd result
    exact .inr ⟨missing, left ▸ puts⟩

theorem perform_delete (store : Store K) (key : ObjectKey) :
    (store.perform (.delete key)).2 = store ∨ ∃ present, store.object? key = some present ∧
      (Resource.finalizerList present = [] ∧ Drops store (store.perform (.delete key)).2 key ∨
        Resource.finalizerList present ≠ [] ∧
          Puts store (store.perform (.delete key)).2 key (store.stamp (marked present))) := by
  rcases delete_cases store key with ⟨_, result⟩ | ⟨present, after, result, found, change⟩
  · exact .inl (congrArg Prod.snd result)
  · have left : (store.perform (.delete key)).2 = after := congrArg Prod.snd result
    exact .inr ⟨present, found, left ▸ change⟩

variable [StatusCarrier K]

/-- Replacing fails, or it puts the merged object over the present one of the same version, or takes
the present one away because that finishes its deletion. -/
theorem replace_cases (store : Store K) (object : K) :
    (∃ failure, store.perform (.replace object) = (.error failure, store)) ∨
      ∃ present after, store.object? (Resource.key object) = some present ∧
        Resource.version? object = Resource.version? present ∧
        (Finishes object present ∧ Drops store after (Resource.key object) ∧
            store.perform (.replace object) = (.ok (merged object present : K), after) ∨
          ¬Finishes object present ∧
            Puts store after (Resource.key object) (store.stamp (merged object present)) ∧
            store.perform (.replace object) = (.ok (store.stamp (merged object present)), after)) := by
  rcases result : store.perform (.replace object) with ⟨failure | stored, after⟩
  · obtain ⟨rfl, -⟩ := replace_eq_error_iff.mp result
    exact .inl ⟨failure, rfl⟩
  · obtain ⟨-, present, current, sent, left⟩ := replace_eq_ok_iff.mp result
    obtain ⟨found, version⟩ := current_eq_ok_iff.mp current
    refine .inr ⟨present, after, found, version, ?_⟩
    by_cases finishes : Finishes object present
    · rw [if_pos finishes] at sent left
      subst sent left
      exact .inl ⟨finishes, drops_remove .., rfl⟩
    · rw [if_neg finishes] at sent left
      subst sent left
      exact .inr ⟨finishes, puts_put .., rfl⟩

/-- Storing a status fails, or it gives the status to the present object of the same version. -/
theorem replaceStatus_cases (store : Store K) (object : K) :
    (∃ failure, store.perform (.replaceStatus object) = (.error failure, store)) ∨
      ∃ present after, store.object? (Resource.key object) = some present ∧
        Resource.version? object = Resource.version? present ∧
        Puts store after (Resource.key object) (store.stamp (StatusCarrier.takeStatus present object)) ∧
        store.perform (.replaceStatus object) =
          (.ok (store.stamp (StatusCarrier.takeStatus present object)), after) := by
  rcases result : store.perform (.replaceStatus object) with ⟨failure | stored, after⟩
  · obtain ⟨rfl, -⟩ := replaceStatus_eq_error_iff.mp result
    exact .inl ⟨failure, rfl⟩
  · obtain ⟨-, present, current, rfl, rfl⟩ := replaceStatus_eq_ok_iff.mp result
    obtain ⟨found, version⟩ := current_eq_ok_iff.mp current
    exact .inr ⟨present, _, found, version, puts_put .., rfl⟩

/-- Writing over an object is refused where nothing is stored. -/
theorem replace_of_missing (works : store.failing .replace = false)
    (missing : store.object? (Resource.key object) = none) :
    store.perform (.replace object) = (.error (notFound K (Resource.key object)), store) :=
  replace_eq_error_iff.mpr ⟨rfl, .inr ⟨works, current_eq_error_iff.mpr (.inl ⟨missing, rfl⟩)⟩⟩

/-- Writing over an object is refused where it has another version than the one sent. -/
theorem replace_of_outdated (works : store.failing .replace = false)
    (found : store.object? (Resource.key object) = some present)
    (outdated : Resource.version? object ≠ Resource.version? present) :
    store.perform (.replace object) =
      (.error (conflict K (Resource.key object) "the object has been modified"), store) :=
  replace_eq_error_iff.mpr ⟨rfl, .inr ⟨works, current_eq_error_iff.mpr (.inr ⟨present, found, outdated, rfl⟩)⟩⟩

theorem replace_of_failing (fails : store.failing .replace = true) (object : K) :
    ∃ failure, store.perform (.replace object) = (.error failure, store) :=
  ⟨_, replace_eq_error_iff.mpr ⟨rfl, .inl (check_of_failing fails)⟩⟩

theorem replace_of_working (works : store.failing .replace = false)
    (found : store.object? (Resource.key object) = some present)
    (version : Resource.version? object = Resource.version? present) :
    ∃ after,
      Finishes object present ∧ Drops store after (Resource.key object) ∧
          store.perform (.replace object) = (.ok (merged object present : K), after) ∨
        ¬Finishes object present ∧
          Puts store after (Resource.key object) (store.stamp (merged object present)) ∧
          store.perform (.replace object) = (.ok (store.stamp (merged object present)), after) := by
  rcases replace_cases store object with ⟨failure, result⟩ | ⟨other, after, same, -, change⟩
  · rw [replace_eq_ok_iff.mpr
      ⟨works, present, current_eq_ok_iff.mpr ⟨found, version⟩, rfl, rfl⟩] at result
    cases result
  · cases found.symm.trans same
    exact ⟨after, change⟩

theorem perform_replace (store : Store K) (object : K) :
    (store.perform (.replace object)).2 = store ∨
      ∃ present, store.object? (Resource.key object) = some present ∧
        (Finishes object present ∧
            Drops store (store.perform (.replace object)).2 (Resource.key object) ∨
          ¬Finishes object present ∧
            Puts store (store.perform (.replace object)).2 (Resource.key object)
              (store.stamp (merged object present))) := by
  rcases replace_cases store object with
    ⟨_, result⟩ | ⟨present, after, found, -, ⟨finishes, drops, result⟩ | ⟨stays, puts, result⟩⟩
  · exact .inl (congrArg Prod.snd result)
  · have left : (store.perform (.replace object)).2 = after := congrArg Prod.snd result
    exact .inr ⟨present, found, .inl ⟨finishes, left ▸ drops⟩⟩
  · have left : (store.perform (.replace object)).2 = after := congrArg Prod.snd result
    exact .inr ⟨present, found, .inr ⟨stays, left ▸ puts⟩⟩

theorem perform_replaceStatus (store : Store K) (object : K) :
    (store.perform (.replaceStatus object)).2 = store ∨
      ∃ present, store.object? (Resource.key object) = some present ∧
        Puts store (store.perform (.replaceStatus object)).2 (Resource.key object)
          (store.stamp (StatusCarrier.takeStatus present object)) := by
  rcases replaceStatus_cases store object with ⟨_, result⟩ | ⟨present, after, found, -, puts, result⟩
  · exact .inl (congrArg Prod.snd result)
  · have left : (store.perform (.replaceStatus object)).2 = after := congrArg Prod.snd result
    exact .inr ⟨present, found, left ▸ puts⟩

/-- A call is about one key only. -/
theorem object?_perform_of_ne (store : Store K) (call : StoreCall K) {other : ObjectKey}
    (differ : call.key ≠ other) : (store.perform call).2.object? other = store.object? other := by
  cases call with
  | get key => rfl
  | create object =>
    rcases store.perform_create object with same | ⟨-, puts⟩
    · rw [same]
    · exact puts.object?_of_ne differ
  | replace object =>
    rcases store.perform_replace object with same | ⟨present, -, ⟨-, drops⟩ | ⟨-, puts⟩⟩
    · rw [same]
    · exact drops.object?_of_ne differ
    · exact puts.object?_of_ne differ
  | delete key =>
    rcases store.perform_delete key with same | ⟨present, -, ⟨-, drops⟩ | ⟨-, puts⟩⟩
    · rw [same]
    · exact drops.object?_of_ne differ
    · exact puts.object?_of_ne differ
  | replaceStatus object =>
    rcases store.perform_replaceStatus object with same | ⟨present, -, puts⟩
    · rw [same]
    · exact puts.object?_of_ne differ

/-- Calls keep objects under their identities. -/
theorem WellFiled.perform {store : Store K} (filed : store.WellFiled) (call : StoreCall K) :
    (store.perform call).2.WellFiled := by
  cases call with
  | get key => exact filed
  | create object =>
    rcases perform_create store object with same | ⟨-, puts⟩
    · rwa [same]
    · exact filed.puts puts (key_stamp ..)
  | replace object =>
    rcases perform_replace store object with same | ⟨present, -, ⟨-, drops⟩ | ⟨-, puts⟩⟩
    · rwa [same]
    · exact filed.drops drops
    · exact filed.puts puts (by rw [key_stamp, key_merged])
  | delete key =>
    rcases perform_delete store key with same | ⟨present, found, ⟨-, drops⟩ | ⟨-, puts⟩⟩
    · rwa [same]
    · exact filed.drops drops
    · exact filed.puts puts (by rw [key_stamp, key_marked, filed _ _ found])
  | replaceStatus object =>
    rcases perform_replaceStatus store object with same | ⟨present, found, puts⟩
    · rwa [same]
    · exact filed.puts puts (by rw [key_stamp, StatusCarrier.key_takeStatus, filed _ _ found])

end Calls

end SharedMount.Store
