import SharedMount.Reconcile.Pass

/-! # Waiting after failures

An `Operator` counts, for each SharedVolume, the failures since its last pass that succeeded. A
failure that may go away by itself is met with a delay that doubles with each further failure; after
a conflict the next pass comes promptly; any other failure is tried again at the longest delay. The
operator also keeps a tally of what its passes came to.
-/

namespace SharedMount

/-- The delay after a first failure, in seconds. -/
def firstDelay : Nat := 30

/-- The longest delay after a failure, in seconds. -/
def longestDelay : Nat := 600

/-- The delay in seconds after so many failures in a row. -/
def backoffDelay (failures : Nat) : Nat :=
  min (firstDelay * Nat.pow 2 (min (failures - 1) 5)) longestDelay

/-- What the passes of the operator came to. -/
structure Tally where
  /-- All passes. -/
  passes : Nat := 0
  /-- Passes that failed. -/
  failures : Nat := 0
  /-- Passes that asked for another one at once. -/
  repeats : Nat := 0
  /-- Passes whose duration was recorded. -/
  timed : Nat := 0
deriving DecidableEq, Inhabited, Repr

/-- The operator between its passes. -/
structure Operator where
  settings : Settings := {}
  /-- The failures since the last success, by the displayed key of the SharedVolume. -/
  failures : Std.ExtTreeMap String Nat := ∅
  tally : Tally := {}

instance : Inhabited Operator := ⟨{}⟩

/-- When a SharedVolume is to be passed over again. -/
inductive Followup where
  | after (seconds : Nat)
  | onChange
deriving DecidableEq, Inhabited, Repr

namespace Operator

/-- Take note of the result of a pass. A success clears the failures of its SharedVolume. -/
def conclude (operator : Operator) (key : ObjectKey) (result : Except Failure Verdict) :
    Except Failure Followup × Operator :=
  let tally := { operator.tally with
    passes := operator.tally.passes + 1, timed := operator.tally.timed + 1 }
  match result with
  | .ok verdict =>
      let failures := operator.failures.erase key.display
      match verdict with
      | .again =>
          let tally := { tally with repeats := tally.repeats + 1 }
          (.ok (.after 0), { operator with failures, tally })
      | .settled => (.ok .onChange, { operator with failures, tally })
  | .error failure =>
      (.error failure, { operator with tally := { tally with failures := tally.failures + 1 } })

/-- The delay in seconds after a failure that is the given one in a row. -/
def delayAfter (failure : Failure) (count : Nat) : Nat :=
  if failure.isRetryable then failure.promptDelay?.getD (backoffDelay count) else longestDelay

/-- Count a failure of a SharedVolume; gives the delay in seconds before the next pass. -/
def backOff (operator : Operator) (key : ObjectKey) (failure : Failure) : Nat × Operator :=
  let count := (operator.failures[key.display]?).getD 0 + 1
  (delayAfter failure count,
    { operator with failures := operator.failures.insert key.display count })

/-- Take note of the result of a pass, and of its failure if it failed. -/
def follow (operator : Operator) (key : ObjectKey) (result : Except Failure Verdict) :
    Except Failure Followup × Followup × Operator :=
  match operator.conclude key result with
  | (.ok followup, operator) => (.ok followup, followup, operator)
  | (.error failure, operator) =>
      let (seconds, operator) := operator.backOff key failure
      (.error failure, .after seconds, operator)

end Operator

end SharedMount
