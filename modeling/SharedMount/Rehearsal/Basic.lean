import SharedMount.Rehearsal.Bench
import SharedMount.Reconcile.World

/-! # Rehearsals of the operator

A `Rehearsal` is a world whose stores are benches and in which every call that the operator makes on a
store is put on record, in the order of the calls.
-/

namespace SharedMount

/-- The stores of a rehearsal. -/
inductive Place where
  | sharedVolumes
  | volumes
  | claims
deriving DecidableEq, Inhabited, Repr

/-- The record of a call on a store. -/
structure CallRecord where
  operation : Operation
  key : ObjectKey
deriving DecidableEq, Inhabited, Repr

/-- The record of a call. -/
def CallRecord.ofCall {K : Type} [Resource K] (call : StoreCall K) : CallRecord where
  operation := call.operation
  key := call.key

/-- The world of a rehearsal, with the record of the calls of the operator. -/
structure Rehearsal where
  sharedVolumes : Bench SharedVolume := {}
  volumes : Bench PersistentVolume := {}
  claims : Bench PersistentVolumeClaim := {}
  roster : Roster := {}
  calls : List (Place × CallRecord) := []

instance : Inhabited Rehearsal := ⟨{}⟩

/-- A kind of object that rehearsals have a bench for. -/
class Staged (K : Type) extends ObjectKind K Metadata where
  place : Place
  bench : Rehearsal → Bench K
  withBench : Rehearsal → Bench K → Rehearsal

instance : Staged SharedVolume where
  place := .sharedVolumes
  bench := Rehearsal.sharedVolumes
  withBench rehearsal sharedVolumes := { rehearsal with sharedVolumes }

instance : Staged PersistentVolume where
  place := .volumes
  bench := Rehearsal.volumes
  withBench rehearsal volumes := { rehearsal with volumes }

instance : Staged PersistentVolumeClaim where
  place := .claims
  bench := Rehearsal.claims
  withBench rehearsal claims := { rehearsal with claims }

namespace Rehearsal

/-- The world of a rehearsal without the arrangements and the record. -/
def world (rehearsal : Rehearsal) : World where
  sharedVolumes := rehearsal.sharedVolumes.store
  volumes := rehearsal.volumes.store
  claims := rehearsal.claims.store
  roster := rehearsal.roster

/-- Make a step on the store of a kind. -/
def apply {K : Type} [Staged K] (step : StoreStep K) : StateM Rehearsal (StepResult K) :=
  fun rehearsal =>
    let (result, bench) := (Staged.bench rehearsal).apply step
    (result, Staged.withBench rehearsal bench)

/-- Record a call of the operator on a store and answer it. -/
def serve {K : Type} [Staged K] (call : StoreCall K) : StateM Rehearsal call.Answer :=
  fun rehearsal =>
    let rehearsal :=
      { rehearsal with calls := rehearsal.calls ++ [(Staged.place K, .ofCall call)] }
    let (answer, bench) := (Staged.bench rehearsal).perform call
    (answer, Staged.withBench rehearsal bench)

/-- Answer a call to the roster, which goes on no record. -/
def serveRoster (call : RosterCall) : StateM Rehearsal call.Answer := fun rehearsal =>
  let (answer, roster) := rehearsal.roster.perform call
  (answer, { rehearsal with roster })

/-- Answer a call of the operator by the benches themselves. -/
def perform (call : OperatorCall) : StateM Rehearsal call.Answer :=
  match call with
  | .sharedVolumes call => serve call
  | .volumes call => serve call
  | .claims call => serve call
  | .roster call => serveRoster call

end Rehearsal

end SharedMount
