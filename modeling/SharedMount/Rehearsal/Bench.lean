import SharedMount.Json.MergePatch
import SharedMount.Store.Basic

/-! # Stores under rehearsal

A `Bench` is a store in memory on which trouble can be arranged: for a call to come, a failure of any
kind, or a change that somebody else makes just before the call takes effect. Arrangements wait in a
queue for each operation, and each is used once.
-/

namespace SharedMount

mutual

/-- A step on a store that is not made by the operator. -/
inductive StoreStep (K : Type) where
  /-- Place an object. -/
  | insert (object : K)
  /-- Change an object by a merge patch. -/
  | amend (key : ObjectKey) (patch : Json)
  /-- Take an object away. -/
  | remove (key : ObjectKey)
  /-- Make an operation fail from now on. -/
  | fail (operation : Operation)
  /-- Let an operation work again. -/
  | heal (operation : Operation)
  /-- Start counting writes anew. -/
  | resetWrites
  /-- Make a call of one's own. -/
  | call (call : StoreCall K)
  /-- Arrange trouble for the next call of an operation. -/
  | arrange (operation : Operation) (trouble : Trouble K)

/-- What is arranged to happen at a call of the operator. -/
inductive Trouble (K : Type) where
  /-- The call fails, and nothing else happens. -/
  | refuse (failure : Failure)
  /-- A step is made, and then the call proceeds. -/
  | race (step : StoreStep K)

end

mutual

/-- The number of troubles that a step arranges, those included that come of them. -/
def StoreStep.troubleCount {K : Type} : StoreStep K → Nat
  | .arrange _ trouble => trouble.troubleCount
  | _ => 0

/-- The number of troubles that one amounts to, those included that come of it. -/
def Trouble.troubleCount {K : Type} : Trouble K → Nat
  | .refuse _ => 1
  | .race step => step.troubleCount + 1

end

/-- What a step on a store gives. -/
inductive StepResult (K : Type) where
  /-- Nothing. -/
  | done
  /-- The object that was placed. -/
  | placed (object : K)
  /-- Whether there was an object. -/
  | found (present : Bool)
  /-- The changed document is no object; nothing was changed. -/
  | undecodable
  /-- The object that a call gave. -/
  | gave (object : Option K)
  /-- The call failed. -/
  | failed (failure : Failure)

/-- A store on which trouble may be arranged. -/
structure Bench (K : Type) where
  store : Store K := {}
  troubles : List (Operation × Trouble K) := []

instance {K : Type} : Inhabited (Bench K) := ⟨{}⟩

/-- What a call of one's own gives as the result of a step. -/
def StepResult.ofAnswer {K : Type} : (call : StoreCall K) → call.Answer → StepResult K
  | .get _, .ok object => .gave object
  | .create _, .ok object | .replace _, .ok object | .replaceStatus _, .ok object =>
      .gave (some object)
  | .delete _, .ok () => .gave none
  | .get _, .error failure | .create _, .error failure | .replace _, .error failure
  | .replaceStatus _, .error failure | .delete _, .error failure => .failed failure

/-- The first entry of an operation in a queue, and the queue without it. -/
def takeFirst? {α : Type} (operation : Operation) :
    List (Operation × α) → Option (α × List (Operation × α))
  | [] => none
  | (other, entry) :: rest =>
      if other = operation then some (entry, rest)
      else (takeFirst? operation rest).map fun (found, rest) => (found, (other, entry) :: rest)

namespace Bench

variable {K : Type}

/-- The number of troubles that wait on a bench. -/
def troubleCount (bench : Bench K) : Nat :=
  bench.troubles.foldl (fun total entry => total + entry.2.troubleCount) 0

variable [Resource K]

/-- Change the object under a key by a merge patch of its document. A patch after which the document
is no object of its kind changes nothing, not even the version. -/
def amend (key : ObjectKey) (patch : Json) (store : Store K) : StepResult K × Store K :=
  match store.object? key with
  | none => (.found false, store.mutate key id)
  | some object =>
      match Resource.decode? (K := K) ((Resource.encode object).mergePatch patch) with
      | none => (.undecodable, store)
      | some amended => (.found true, store.mutate key fun _ => amended)

/-- Make a step. -/
def apply (step : StoreStep K) (bench : Bench K) : StepResult K × Bench K :=
  match step with
  | .insert object =>
      let (placed, store) := bench.store.insert object
      (.placed placed, { bench with store })
  | .amend key patch =>
      let (result, store) := amend key patch bench.store
      (result, { bench with store })
  | .remove key =>
      (.found (bench.store.object? key).isSome, { bench with store := bench.store.remove key })
  | .fail operation => (.done, { bench with store := bench.store.fail operation })
  | .heal operation => (.done, { bench with store := bench.store.heal operation })
  | .resetWrites => (.done, { bench with store := bench.store.resetWrites })
  | .call call =>
      let (answer, store) := bench.store.perform call
      (.ofAnswer call answer, { bench with store })
  | .arrange operation trouble =>
      (.done, { bench with troubles := bench.troubles ++ [(operation, trouble)] })

/-- Answer a call of the operator, with the trouble that was arranged for it. -/
def perform (call : StoreCall K) (bench : Bench K) : call.Answer × Bench K :=
  let proceed (bench : Bench K) : call.Answer × Bench K :=
    let (answer, store) := bench.store.perform call
    (answer, { bench with store })
  match takeFirst? call.operation bench.troubles with
  | some (.refuse failure, troubles) => (.error failure, { bench with troubles })
  | some (.race step, troubles) => proceed (apply step { bench with troubles }).2
  | none => proceed bench

end Bench

end SharedMount
