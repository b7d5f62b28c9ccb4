import SharedMount.Proofs.Codec.Status

/-! # Operations of a store, executed

An operation runs step by step, and a step that fails leaves what the steps before it have changed. One lemma for each
kind of step and one for their sequence execute an operation; then one equation for each operation tells what it gives
and the store after it. Each of the failures that can occur at all comes before the first change.
-/

namespace SharedMount

namespace Store

/-! ## Steps -/

section Steps

variable {K α β : Type} (store : Store K)

theorem execute_bind (action : StoreAction K α) (next : α → StoreAction K β) :
    store.execute (action >>= next) =
      match store.execute action with
      | (.ok value, after) => after.execute (next value)
      | (.error failure, after) => (.error failure, after) := by
  rcases result : store.execute action with ⟨_ | value, after⟩
  all_goals
    change action store = _ at result
    change (match action store with | (value, after) => ExceptT.bindCont next value after) = _
    rw [result]
    rfl

@[simp] theorem execute_pure (value : α) : store.execute (pure value) = (.ok value, store) := rfl

@[simp] theorem execute_getThe : store.execute (getThe (Store K)) = (.ok store, store) := rfl

@[simp] theorem execute_ofExcept (result : Except Failure α) :
    store.execute (MonadExcept.ofExcept result) = (result, store) := by
  cases result <;> rfl

@[simp] theorem execute_permit (operation : Operation) :
    store.execute (permit operation) = (store.check operation, store) := by
  rw [permit, execute_bind, execute_getThe]
  exact execute_ofExcept ..

@[simp] theorem execute_takeVersion : store.execute takeVersion =
    (.ok (toString (store.version + 1)), { store with version := store.version + 1 }) := rfl

@[simp] theorem execute_count (counted : WriteCounts → WriteCounts) :
    store.execute (count counted) = (.ok (), { store with writes := counted store.writes }) := rfl

@[simp] theorem execute_file (key : ObjectKey) (object : K) :
    store.execute (file key object) = (.ok (), { store with objects := store.objects.insert key object }) := rfl

@[simp] theorem execute_discard (key : ObjectKey) : store.execute (discard key) = (.ok (), store.remove key) := rfl

theorem execute_alter {store : Store K} {key : ObjectKey} {object : K} (found : store.object? key = some object)
    (edit : K → K) : store.execute (alter key edit) =
      (.ok (), { store with objects := store.objects.insert key (edit object) }) := by
  rw [alter, execute_bind, execute_getThe]
  simp only [found, execute_file]

variable {M : Type} [ObjectMeta M] [ObjectKind K M]

@[simp] theorem execute_fetch (object : K) : store.execute (fetch object) = (store.current object, store) := by
  rw [fetch, execute_bind, execute_getThe]
  exact execute_ofExcept ..

/-- The time at which objects are marked is a point in time, so it can always be told. -/
@[simp] theorem execute_deletionTime :
    store.execute (deletionTime K) = (.ok ObjectMeta.deletionMark, store) := by
  rw [deletionTime, ObjectMeta.time?_deletionMark, execute_pure]

end Steps

/-! ## Operations -/

variable {K M : Type} [ObjectMeta M] [ObjectKind K M]

theorem execute_create (store : Store K) (object : K) : store.execute (create object) =
    match store.check .create with
    | .error failure => (.error failure, store)
    | .ok () =>
        if (Resource.version? object).isSome then
          (.error (.internal "resourceVersion should not be set on objects to be created"), store)
        else if (store.object? (Resource.key object)).isSome then
          (.error (conflict K (Resource.key object) "already exists"), store)
        else
          (.ok (store.stamp object), { store.put (Resource.key object) (store.stamp object) with
            writes := { store.writes with creates := store.writes.creates + 1 } }) := by
  rw [create, execute_bind, execute_permit]
  cases store.check .create with
  | error failure => rfl
  | ok _ =>
    cases Resource.version? object with
    | some version => rfl
    | none =>
      simp only [Option.isSome_none, Bool.false_eq_true, ↓reduceIte, execute_bind, execute_getThe]
      cases (store.object? (Resource.key object)).isSome <;> rfl

/-- An object as deletion leaves it when it has finalizers. -/
def marked (object : K) : K :=
  Resource.withDeletionTime (some ObjectMeta.deletionMark) object

theorem execute_delete (store : Store K) (key : ObjectKey) : store.execute (delete key) =
    match store.check .delete, store.object? key with
    | .error failure, _ => (.error failure, store)
    | .ok (), none => (.error (notFound K key), store)
    | .ok (), some present =>
        (.ok (), { (if Resource.finalizerList present = [] then store.remove key
          else store.put key (store.stamp (marked present))) with
          writes := { store.writes with deletes := store.writes.deletes + 1 } }) := by
  rw [delete, execute_bind, execute_permit]
  cases store.check .delete with
  | error failure => rfl
  | ok _ =>
    simp only [execute_bind, execute_getThe]
    cases found : store.object? key with
    | none => rfl
    | some present =>
      simp only [execute_bind, execute_count]
      by_cases bare : Resource.finalizerList present = []
      · simp only [bare, List.isEmpty_nil, ↓reduceIte, execute_discard]
        rfl
      · have finalized : (Resource.finalizerList present).isEmpty = false := by simpa using bare
        simp only [bare, finalized, Bool.false_eq_true, ↓reduceIte]
        -- the write is counted already, but the time can be told and nothing fails any more
        simp only [execute_bind, execute_deletionTime, execute_takeVersion]
        exact execute_alter (by exact found) _

variable [StatusCarrier K]

/-- What replacing a stored object by another one comes to: status and deletion mark stay. -/
def merged (object present : K) : K :=
  Resource.withDeletionTime (Resource.deletionTime? present) (StatusCarrier.takeStatus object present)

/-- Whether replacing the present object by another one finishes its deletion. -/
def Finishes (object present : K) : Prop :=
  (Resource.deletionTime? present).isSome = true ∧ Resource.finalizerList object = []

instance (object present : K) : Decidable (Finishes object present) :=
  inferInstanceAs (Decidable (_ ∧ _))

theorem deletionTime?_merged (object present : K) :
    Resource.deletionTime? (merged object present) = Resource.deletionTime? present := by
  rw [merged, Resource.deletionTime?, Resource.withDeletionTime, Resource.metadata_mapMetadata,
    ObjectMeta.deletionTime?_withDeletionTime]

theorem finalizerList_merged (object present : K) :
    Resource.finalizerList (merged object present) = Resource.finalizerList object := by
  rw [merged, Resource.finalizerList, Resource.withDeletionTime, Resource.metadata_mapMetadata,
    ObjectMeta.finalizerList_withDeletionTime, ← Resource.finalizerList, StatusCarrier.finalizerList_takeStatus]

theorem execute_replace (store : Store K) (object : K) :
    store.execute (replace object) =
      match store.check .replace, store.current object with
      | .error failure, _ | .ok (), .error failure => (.error failure, store)
      | .ok (), .ok present =>
          (.ok (if Finishes object present then merged object present else store.stamp (merged object present) : K),
            { (if Finishes object present then store.remove (Resource.key object)
              else store.put (Resource.key object) (store.stamp (merged object present))) with
              writes := { store.writes with updates := store.writes.updates + 1 } }) := by
  rw [replace, execute_bind, execute_permit]
  cases store.check .replace with
  | error failure => rfl
  | ok _ =>
    simp only [execute_bind, execute_fetch]
    cases store.current object with
    | error failure => rfl
    | ok present =>
      simp only [execute_ofExcept, StatusCarrier.withStatusOf_eq, execute_count]
      rw [← merged, deletionTime?_merged, finalizerList_merged]
      have last : ((Resource.deletionTime? present).isSome && (Resource.finalizerList object).isEmpty) =
          decide (Finishes object present) := by
        rw [Bool.eq_iff_iff, decide_eq_true_eq]
        simp [Finishes]
      by_cases finishes : Finishes object present
      · simp only [last, finishes, decide_true, ↓reduceIte, execute_bind, execute_discard, execute_pure]
        rfl
      · simp only [last, finishes, decide_false, Bool.false_eq_true, ↓reduceIte, execute_bind, execute_takeVersion,
          execute_file, execute_pure]
        rfl

theorem execute_replaceStatus (store : Store K) (object : K) :
    store.execute (replaceStatus object) =
      match store.check .replaceStatus, store.current object with
      | .error failure, _ | .ok (), .error failure => (.error failure, store)
      | .ok (), .ok present =>
          (.ok (store.stamp (StatusCarrier.takeStatus present object)),
            { store.put (Resource.key object) (store.stamp (StatusCarrier.takeStatus present object)) with
              writes := { store.writes with statusUpdates := store.writes.statusUpdates + 1 } }) := by
  rw [replaceStatus, execute_bind, execute_permit]
  cases store.check .replaceStatus with
  | error failure => rfl
  | ok _ =>
    simp only [execute_bind, execute_fetch]
    cases store.current object with
    | error failure => rfl
    | ok present =>
      simp only [execute_ofExcept, StatusCarrier.withStatusOf_eq, execute_takeVersion, execute_file, execute_count,
        execute_pure]
      rfl

end Store

end SharedMount
