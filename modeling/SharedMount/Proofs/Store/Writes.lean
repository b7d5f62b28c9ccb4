import SharedMount.Proofs.Store.Execution

/-! # What the calls of a store do

Every call is characterized by when it succeeds and by the store that it then leaves; a call that fails
leaves the store as it was, and is characterized by the reasons for it. Documents do not occur here any
more: `StatusCarrier` stands for them.
-/

namespace SharedMount.Store

section Views

variable {K : Type} {store : Store K} {key : ObjectKey}

@[simp] theorem object?_writes (store : Store K) (writes : WriteCounts) (key : ObjectKey) :
    ({ store with writes } : Store K).object? key = store.object? key := rfl

@[simp] theorem object?_empty (key : ObjectKey) : ({} : Store K).object? key = none := by
  simp [object?]

theorem check_of_working {operation : Operation} (works : store.failing operation = false) :
    store.check operation = .ok () := by
  simp [check, works]

theorem check_of_failing {operation : Operation} (fails : store.failing operation = true) :
    store.check operation = .error (.internal ("injected " ++ operation.faultName ++ " failure")) := by
  simp [check, fails]

theorem check_eq_error_iff {operation : Operation} {failure : Failure} : store.check operation = .error failure ↔
    store.failing operation = true ∧ failure = .internal ("injected " ++ operation.faultName ++ " failure") := by
  cases fails : store.failing operation with
  | true => simp [check_of_failing fails, eq_comm]
  | false => simp [check_of_working fails]

/-- Reading succeeds exactly when it is not made to fail. -/
theorem get_eq_ok_iff {found : Option K} :
    store.get key = .ok found ↔ store.failing .get = false ∧ store.object? key = found := by
  cases fails : store.failing .get with
  | true => simp [get, check_of_failing fails, bind, Except.bind]
  | false => simp [get, check_of_working fails, bind, Except.bind, pure, Except.pure]

end Views

variable {K M : Type} [ObjectMeta M] [ObjectKind K M] {store after : Store K} {key : ObjectKey}
  {object present stored : K} {failure : Failure}

@[simp] theorem key_stamp (store : Store K) (object : K) :
    Resource.key (store.stamp object) = Resource.key object :=
  Resource.key_withVersion ..

@[simp] theorem key_marked (object : K) : Resource.key (marked object) = Resource.key object :=
  Resource.key_withDeletionTime ..

theorem current_eq_ok_iff : store.current object = .ok present ↔
    store.object? (Resource.key object) = some present ∧
      Resource.version? object = Resource.version? present := by
  unfold current
  cases found : store.object? (Resource.key object) with
  | none => simp
  | some other =>
    by_cases same : Resource.version? object = Resource.version? other
    · simp only [same, ↓reduceIte, Except.ok.injEq, Option.some.injEq]
      constructor
      · rintro rfl; exact ⟨rfl, rfl⟩
      · exact And.left
    · simp only [same, ↓reduceIte, reduceCtorEq, Option.some.injEq, false_iff, not_and]
      rintro rfl
      exact same

theorem current_eq_error_iff : store.current object = .error failure ↔
    store.object? (Resource.key object) = none ∧ failure = notFound K (Resource.key object) ∨
      ∃ present, store.object? (Resource.key object) = some present ∧
        Resource.version? object ≠ Resource.version? present ∧
        failure = conflict K (Resource.key object) "the object has been modified" := by
  unfold current
  cases found : store.object? (Resource.key object) with
  | none => simp [eq_comm]
  | some present =>
    by_cases same : Resource.version? object = Resource.version? present
    · simp [same]
    · simp [same, eq_comm]

/-- Creation succeeds exactly with a new identity and without a version, and stores what was sent. -/
theorem create_eq_ok_iff : store.perform (.create object) = (.ok stored, after) ↔
    store.failing .create = false ∧ Resource.version? object = none ∧
      store.object? (Resource.key object) = none ∧ stored = store.stamp object ∧
      after = { store.put (Resource.key object) (store.stamp object) with
        writes := { store.writes with creates := store.writes.creates + 1 } } := by
  change store.execute (create object) = (.ok stored, after) ↔ _
  rw [execute_create]
  cases fails : store.failing .create with
  | true => simp [check_of_failing fails]
  | false =>
    cases version : Resource.version? object with
    | some _ => simp [check_of_working fails]
    | none =>
      cases found : store.object? (Resource.key object) <;>
        simp [check_of_working fails, @eq_comm _ after, @eq_comm _ stored]

theorem create_eq_error_iff : store.perform (.create object) = (.error failure, after) ↔
    after = store ∧ (store.check .create = .error failure ∨ store.failing .create = false ∧
      (Resource.version? object ≠ none ∧
          failure = .internal "resourceVersion should not be set on objects to be created" ∨
        Resource.version? object = none ∧ store.object? (Resource.key object) ≠ none ∧
          failure = conflict K (Resource.key object) "already exists")) := by
  change store.execute (create object) = (.error failure, after) ↔ _
  rw [execute_create]
  cases fails : store.failing .create with
  | true => simp [check_of_failing fails, and_comm, @eq_comm _ after]
  | false =>
    cases version : Resource.version? object <;> cases found : store.object? (Resource.key object) <;>
      simp [check_of_working fails, and_comm, @eq_comm _ after, @eq_comm _ failure]

/-- Deletion succeeds exactly on a stored object, and marks it if it has finalizers. -/
theorem delete_eq_ok_iff : store.perform (.delete key) = (.ok (), after) ↔
    store.failing .delete = false ∧ ∃ present, store.object? key = some present ∧
      after = { (if Resource.finalizerList present = [] then store.remove key
        else store.put key (store.stamp (marked present))) with
        writes := { store.writes with deletes := store.writes.deletes + 1 } } := by
  change store.execute (delete key) = (.ok (), after) ↔ _
  rw [execute_delete]
  cases fails : store.failing .delete with
  | true => simp [check_of_failing fails]
  | false => cases found : store.object? key <;> simp [check_of_working fails, @eq_comm _ after]

theorem delete_eq_error_iff : store.perform (.delete key) = (.error failure, after) ↔
    after = store ∧ (store.check .delete = .error failure ∨
      store.failing .delete = false ∧ store.object? key = none ∧ failure = notFound K key) := by
  change store.execute (delete key) = (.error failure, after) ↔ _
  rw [execute_delete]
  cases fails : store.failing .delete with
  | true => simp [check_of_failing fails, and_comm, @eq_comm _ after]
  | false =>
    cases found : store.object? key <;>
      simp [check_of_working fails, and_comm, @eq_comm _ after, @eq_comm _ failure]

variable [StatusCarrier K]

attribute [simp] StatusCarrier.key_takeStatus

@[simp] theorem key_merged (object present : K) :
    Resource.key (merged object present) = Resource.key object := by
  rw [merged, Resource.key_withDeletionTime, StatusCarrier.key_takeStatus]

/-- Replacing succeeds exactly over the version that was sent. -/
theorem replace_eq_ok_iff : store.perform (.replace object) = (.ok stored, after) ↔
    store.failing .replace = false ∧ ∃ present, store.current object = .ok present ∧
      stored = (if Finishes object present then merged object present
        else store.stamp (merged object present)) ∧
      after = { (if Finishes object present then store.remove (Resource.key object)
        else store.put (Resource.key object) (store.stamp (merged object present))) with
        writes := { store.writes with updates := store.writes.updates + 1 } } := by
  change store.execute (replace object) = (.ok stored, after) ↔ _
  rw [execute_replace]
  cases fails : store.failing .replace with
  | true => simp [check_of_failing fails]
  | false => cases found : store.current object <;> simp [check_of_working fails, @eq_comm _ after, @eq_comm _ stored]

theorem replace_eq_error_iff : store.perform (.replace object) = (.error failure, after) ↔
    after = store ∧ (store.check .replace = .error failure ∨
      store.failing .replace = false ∧ store.current object = .error failure) := by
  change store.execute (replace object) = (.error failure, after) ↔ _
  rw [execute_replace]
  cases fails : store.failing .replace with
  | true => simp [check_of_failing fails, and_comm, @eq_comm _ after]
  | false => cases found : store.current object <;> simp [check_of_working fails, and_comm, @eq_comm _ after]

/-- Storing a status succeeds exactly over the version that was sent. -/
theorem replaceStatus_eq_ok_iff : store.perform (.replaceStatus object) = (.ok stored, after) ↔
    store.failing .replaceStatus = false ∧ ∃ present, store.current object = .ok present ∧
      stored = store.stamp (StatusCarrier.takeStatus present object) ∧
      after = { store.put (Resource.key object)
          (store.stamp (StatusCarrier.takeStatus present object)) with
        writes := { store.writes with statusUpdates := store.writes.statusUpdates + 1 } } := by
  change store.execute (replaceStatus object) = (.ok stored, after) ↔ _
  rw [execute_replaceStatus]
  cases fails : store.failing .replaceStatus with
  | true => simp [check_of_failing fails]
  | false => cases found : store.current object <;> simp [check_of_working fails, @eq_comm _ after, @eq_comm _ stored]

theorem replaceStatus_eq_error_iff : store.perform (.replaceStatus object) = (.error failure, after) ↔
    after = store ∧ (store.check .replaceStatus = .error failure ∨
      store.failing .replaceStatus = false ∧ store.current object = .error failure) := by
  change store.execute (replaceStatus object) = (.error failure, after) ↔ _
  rw [execute_replaceStatus]
  cases fails : store.failing .replaceStatus with
  | true => simp [check_of_failing fails, and_comm, @eq_comm _ after]
  | false => cases found : store.current object <;> simp [check_of_working fails, and_comm, @eq_comm _ after]

/-- A call that fails leaves the store as it was. -/
theorem perform_of_error {call : StoreCall K} (failed : (store.perform call).1 = .error failure) :
    (store.perform call).2 = store := by
  have result : store.perform call = (.error failure, (store.perform call).2) := Prod.ext failed rfl
  cases call with
  | get key => rfl
  | create object => exact (create_eq_error_iff.mp result).1
  | delete key => exact (delete_eq_error_iff.mp result).1
  | replace object => exact (replace_eq_error_iff.mp result).1
  | replaceStatus object => exact (replaceStatus_eq_error_iff.mp result).1

/-! ## Metadata after writes -/

section Metadata

variable {K : Type} [Resource K]

theorem metadata_stamp (store : Store K) (object : K) : Resource.metadata (store.stamp object) =
    { Resource.metadata object with resourceVersion := some (toString (store.version + 1)) } := by
  rw [stamp, Resource.withVersion, Resource.metadata_mapMetadata]
  rfl

theorem metadata_marked (object : K) : Resource.metadata (marked object) =
    { Resource.metadata object with deletionTimestamp := some markedTime } := by
  rw [marked, Resource.withDeletionTime, Resource.metadata_mapMetadata]
  rfl

theorem metadata_merged [StatusKind K] (object present : K) : Resource.metadata (merged object present) =
    { Resource.metadata object with
      deletionTimestamp := (Resource.metadata present).deletionTimestamp } := by
  rw [merged, Resource.withDeletionTime, Resource.metadata_mapMetadata, StatusKind.metadata_takeStatus]
  rfl

end Metadata

end SharedMount.Store
