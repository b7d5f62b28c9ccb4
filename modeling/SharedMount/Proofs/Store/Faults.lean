import SharedMount.Proofs.Store.Writes

/-! # Calls and failing operations

What a call does depends only on whether its own operation is made to fail: that others fail, or work again,
is not noticed.
-/

namespace SharedMount.Store

variable {K : Type} {store : Store K} {failing : Operation → Bool}

theorem check_failing {operation : Operation} (same : failing operation = store.failing operation) :
    ({ store with failing } : Store K).check operation = store.check operation := by
  simp [check, same]

variable {M : Type} [ObjectMeta M] [ObjectKind K M] [StatusCarrier K]

theorem perform_failing {call : StoreCall K} (same : failing call.operation = store.failing call.operation) :
    ({ store with failing } : Store K).perform call =
      ((store.perform call).1, { (store.perform call).2 with failing }) := by
  have check : ({ store with failing } : Store K).check call.operation = store.check call.operation :=
    check_failing same
  have found (key : ObjectKey) : ({ store with failing } : Store K).object? key = store.object? key := rfl
  have current (object : K) : ({ store with failing } : Store K).current object = store.current object := rfl
  cases call with
  | get key =>
    simp only [StoreCall.operation] at check
    simp only [perform, get, check]
    rfl
  | create object =>
    simp only [StoreCall.operation] at check
    simp only [perform, execute_create, check, found]
    cases store.check .create with
    | error failure => rfl
    | ok _ => cases Resource.version? object <;> cases store.object? (Resource.key object) <;> rfl
  | delete key =>
    simp only [StoreCall.operation] at check
    simp only [perform, execute_delete, check, found]
    cases store.check .delete with
    | error failure => rfl
    | ok _ =>
      cases store.object? key with
      | none => rfl
      | some present =>
        by_cases bare : Resource.finalizerList present = []
        · simp only [bare, ↓reduceIte]
          rfl
        · simp only [bare, ↓reduceIte]
          rfl
  | replace object =>
    simp only [StoreCall.operation] at check
    simp only [perform, execute_replace, check, current]
    cases store.check .replace with
    | error failure => rfl
    | ok _ =>
      cases store.current object with
      | error failure => rfl
      | ok present =>
        by_cases finishes : Finishes object present
        · simp only [finishes, ↓reduceIte]
          rfl
        · simp only [finishes, ↓reduceIte]
          rfl
  | replaceStatus object =>
    simp only [StoreCall.operation] at check
    simp only [perform, execute_replaceStatus, check, current]
    cases store.check .replaceStatus with
    | error failure => rfl
    | ok _ => cases store.current object <;> rfl

/-- Calls leave alone what fails. -/
theorem failing_perform (store : Store K) (call : StoreCall K) :
    (store.perform call).2.failing = store.failing := by
  have unchanged : store.perform call =
      ((store.perform call).1, { (store.perform call).2 with failing := store.failing }) :=
    perform_failing rfl
  exact congrArg (fun done => done.2.failing) unchanged

/-- A call does not notice that another operation fails. -/
theorem perform_fail (store : Store K) {call : StoreCall K} {operation : Operation}
    (differs : call.operation ≠ operation) : (store.fail operation).perform call =
      ((store.perform call).1, (store.perform call).2.fail operation) := by
  have performed : (store.fail operation).perform call = ((store.perform call).1,
      { (store.perform call).2 with failing := fun other => other = operation || store.failing other }) :=
    perform_failing (by simp [differs])
  rw [performed, fail, failing_perform]

/-- A call that succeeded was not made to fail. -/
theorem working_of_perform {call : StoreCall K} {value : call.Value}
    (succeeded : (store.perform call).1 = .ok value) : store.failing call.operation = false := by
  have result : store.perform call = (.ok value, (store.perform call).2) := Prod.ext succeeded rfl
  cases call with
  | get key => exact (get_eq_ok_iff.mp succeeded).1
  | create object => exact (create_eq_ok_iff.mp result).1
  | replace object => exact (replace_eq_ok_iff.mp result).1
  | delete key => exact (delete_eq_ok_iff.mp result).1
  | replaceStatus object => exact (replaceStatus_eq_ok_iff.mp result).1

end SharedMount.Store
