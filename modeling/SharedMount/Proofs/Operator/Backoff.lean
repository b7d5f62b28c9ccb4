import Mathlib.Algebra.Group.Nat.Defs
import Mathlib.Data.List.DropRight
import SharedMount.Operator.Backoff
import SharedMount.Text.Divide

/-! # Failures since the last success

A history lists what the operator was told, one SharedVolume after the other: the result of a pass, or a failure
that it is to wait after. What it has on record for a SharedVolume is the number of failures since the last pass that
succeeded (`failures_after`), as long as no two SharedVolumes are displayed alike, and slashes are all that could
make them so (`ObjectKey.display_inj`). The delays follow from these numbers.
-/

namespace SharedMount

/-! ## Displayed keys -/

namespace ObjectKey

/-- Neither part of a key has a slash. -/
structure Slashless (key : ObjectKey) : Prop where
  name : '/' ∉ key.name.toList
  ns {ns : String} (given : key.ns = some ns) : '/' ∉ ns.toList

/-- Displayed, a key falls into its parts again. -/
private theorem divide?_display {key : ObjectKey} (slashless : key.Slashless) :
    Text.divide? '/' key.display.toList = key.ns.map fun ns => (ns.toList, key.name.toList) := by
  cases given : key.ns with
  | none =>
    rw [display, given, Option.map_none]
    exact Text.divide?_eq_none_iff.mpr slashless.name
  | some ns =>
    rw [display, given, Option.map_some]
    exact Text.divide?_eq_some_iff.mpr ⟨by simp, slashless.ns given⟩

theorem display_inj {key other : ObjectKey} (slashless : key.Slashless) (plain : other.Slashless) :
    key.display = other.display ↔ key = other := by
  refine ⟨fun same => ?_, congrArg display⟩
  have parts := divide?_display slashless
  rw [same, divide?_display plain] at parts
  obtain ⟨ns, name⟩ := key
  obtain ⟨ns', name'⟩ := other
  cases ns <;> cases ns' <;> simp_all [display, String.toList_inj]

end ObjectKey

/-! ## Histories -/

namespace Operator

/-- What the operator is told: how a pass ended, or that it is to wait after a failure. -/
inductive Event where
  | concluded (key : ObjectKey) (result : Except Failure Verdict)
  | failed (key : ObjectKey) (failure : Failure)

namespace Event

/-- The SharedVolume that an event is about. -/
def key : Event → ObjectKey
  | concluded key _ | failed key _ => key

/-- Whether an event is the success of a pass over a SharedVolume. -/
def isSuccess (key : ObjectKey) : Event → Bool
  | concluded other (.ok _) => other = key
  | concluded _ (.error _) | failed .. => false

/-- Whether an event is a failure of a SharedVolume, to wait after. -/
def isFailure (key : ObjectKey) : Event → Bool
  | failed other _ => other = key
  | concluded .. => false

/-- The operator after an event. -/
def apply (operator : Operator) : Event → Operator
  | concluded key result => (operator.conclude key result).2
  | failed key failure => (operator.backOff key failure).2

end Event

/-- The operator after a history. -/
def after (operator : Operator) (history : List Event) : Operator :=
  history.foldl Event.apply operator

/-- The failures of a SharedVolume since the last pass over it that succeeded. -/
def failuresSince (key : ObjectKey) (history : List Event) : Nat :=
  (history.rtakeWhile fun event => !event.isSuccess key).countP (·.isFailure key)

/-- A number as it is put on record: zero is not. -/
def recorded (count : Nat) : Option Nat :=
  if count = 0 then none else some count

@[simp] theorem getD_recorded (count : Nat) : (recorded count).getD 0 = count := by
  cases count <;> rfl

variable {start : Operator} {event : Event} {history other : List Event} {key : ObjectKey} {name : String}

theorem Event.aside_of_ne (differs : event.key ≠ key) :
    event.isSuccess key = false ∧ event.isFailure key = false := by
  cases event with
  | concluded other result => cases result <;> simp_all [Event.key, isSuccess, isFailure]
  | failed other failure => simp_all [Event.key, isSuccess, isFailure]

theorem after_concat (start : Operator) (history : List Event) (event : Event) :
    start.after (history ++ [event]) = event.apply (start.after history) :=
  List.foldl_concat ..

theorem failuresSince_concat (key : ObjectKey) (history : List Event) (event : Event) :
    failuresSince key (history ++ [event]) =
      if event.isSuccess key then 0 else failuresSince key history + (event.isFailure key).toNat := by
  rw [failuresSince, List.rtakeWhile_concat]
  cases event.isSuccess key with
  | true => rfl
  | false =>
    rw [Bool.not_false, if_pos rfl, List.countP_append, List.countP_singleton]
    cases event.isFailure key <;> rfl

theorem failuresSince_concat_of_ne (differs : event.key ≠ key) :
    failuresSince key (history ++ [event]) = failuresSince key history := by
  obtain ⟨success, failure⟩ := Event.aside_of_ne differs
  rw [failuresSince_concat, success, failure]
  rfl

/-- There are no more failures since the last success than in all. -/
theorem failuresSince_le (key : ObjectKey) (history : List Event) :
    failuresSince key history ≤ history.countP (·.isFailure key) :=
  (List.rtakeWhile_suffix _ _).sublist.countP_le

/-- Events about other SharedVolumes do not count. -/
theorem failuresSince_filter (key : ObjectKey) (history : List Event) :
    failuresSince key (history.filter (·.key = key)) = failuresSince key history := by
  induction history using List.reverseRecOn with
  | nil => rfl
  | append_singleton history event ih =>
    by_cases own : event.key = key
    · have kept : [event].filter (·.key = key) = [event] := List.filter_cons_of_pos (by simpa using own)
      rw [List.filter_append, kept, failuresSince_concat, failuresSince_concat, ih]
    · have dropped : [event].filter (·.key = key) = [] := List.filter_cons_of_neg (by simpa using own)
      rw [List.filter_append, dropped, List.append_nil, ih, failuresSince_concat_of_ne own]

/-! ## Records -/

theorem failures_apply_of_ne (operator : Operator) (differs : event.key.display ≠ name) :
    (event.apply operator).failures[name]? = operator.failures[name]? := by
  cases event with
  | concluded key result =>
    have apart : key.display ≠ name := differs
    rcases result with failure | _ | _
    · rfl
    all_goals exact Std.ExtTreeMap.getElem?_erase.trans (by simp [apart])
  | failed key failure =>
    have apart : key.display ≠ name := differs
    exact Std.ExtTreeMap.getElem?_insert.trans (by simp [apart])

/-- What an event does to the record of its SharedVolume. -/
theorem failures_apply_self (operator : Operator) (event : Event) :
    (event.apply operator).failures[event.key.display]? =
      if event.isSuccess event.key then none
      else if event.isFailure event.key then some (operator.failures[event.key.display]?.getD 0 + 1)
      else operator.failures[event.key.display]? := by
  cases event with
  | concluded key result =>
    rcases result with failure | _ | _
    · rfl
    all_goals simp [Event.apply, conclude, Event.key, Event.isSuccess]
  | failed key failure => simp [Event.apply, backOff, Event.key, Event.isSuccess, Event.isFailure]

/-- The record of a SharedVolume is the number of its failures since its last success. -/
theorem failures_after (fresh : start.failures = ∅) (slashless : ∀ event ∈ history, event.key.Slashless)
    (own : key.Slashless) : (start.after history).failures[key.display]? = recorded (failuresSince key history) := by
  induction history using List.reverseRecOn with
  | nil => simp [after, fresh, failuresSince, recorded]
  | append_singleton history event ih =>
    have former := ih fun event listed => slashless event (List.mem_append_left _ listed)
    rw [after_concat]
    by_cases about : event.key = key
    · subst about
      rw [failures_apply_self, failuresSince_concat, former]
      cases event.isSuccess event.key with
      | true => rfl
      | false =>
        cases event.isFailure event.key with
        | false => rfl
        | true =>
          by_cases none : failuresSince event.key history = 0 <;> simp [recorded, none]
    · have plain := slashless event (List.mem_append_right _ (List.mem_singleton_self event))
      have apart : event.key.display ≠ key.display := fun same => about ((ObjectKey.display_inj plain own).mp same)
      rw [failures_apply_of_ne _ apart, former, failuresSince_concat_of_ne about]

end Operator

/-! ## Delays -/

theorem backoffDelay_eq (failures : Nat) : backoffDelay failures = min (30 * 2 ^ (failures - 1)) 600 := by
  rw [backoffDelay, firstDelay, longestDelay, Nat.pow_eq]
  by_cases early : failures - 1 ≤ 5
  · rw [Nat.min_eq_left early]
  · -- from the sixth failure on, both delays are above the longest one
    have late : 2 ^ 5 ≤ 2 ^ (failures - 1) := Nat.pow_le_pow_right (by decide) (by omega)
    rw [Nat.min_eq_right (by omega : 5 ≤ failures - 1)]
    omega

theorem backoffDelay_mono {failures more : Nat} (le : failures ≤ more) :
    backoffDelay failures ≤ backoffDelay more := by
  have powers : 2 ^ (failures - 1) ≤ 2 ^ (more - 1) := Nat.pow_le_pow_right (by decide) (by omega)
  rw [backoffDelay_eq, backoffDelay_eq]
  omega

theorem backoffDelay_bounds (failures : Nat) : 30 ≤ backoffDelay failures ∧ backoffDelay failures ≤ 600 :=
  ⟨backoffDelay_mono (Nat.zero_le failures), Nat.min_le_right _ _⟩

/-- The delay in seconds as it comes of words: a count of 32 bits, less one but not below zero, gives a power that
stops at the largest word of 32 bits, and so many times the first delay is nothing if it does not fit 64 bits. -/
def wordDelay? (failures : UInt32) : Option Nat :=
  let power := min (2 ^ min (failures.toNat - 1) 5) (2 ^ 32 - 1)
  if firstDelay * power < 2 ^ 64 then some (min (firstDelay * power) longestDelay) else none

theorem wordDelay?_eq (failures : UInt32) : wordDelay? failures = some (backoffDelay failures.toNat) := by
  have small : 2 ^ min (failures.toNat - 1) 5 ≤ 2 ^ 5 := Nat.pow_le_pow_right (by decide) (Nat.min_le_right _ _)
  rw [wordDelay?, backoffDelay, firstDelay, Nat.pow_eq]
  rw [Nat.min_eq_left (by omega), if_pos (by omega)]

namespace Operator

theorem delayAfter_eq (failure : Failure) (count : Nat) : delayAfter failure count =
    if failure.isRetryable = false then 600
    else if failure.isConflict then 1 else min (30 * 2 ^ (count - 1)) 600 := by
  rw [delayAfter, Failure.promptDelay?, backoffDelay_eq]
  cases failure.isRetryable <;> cases failure.isConflict <;> rfl

end Operator

/-- Translated, a failure of the API is classified as before. -/
theorem Failure.ofApi_classified (cause : ApiError) (kind name : String) (ns : Option String) :
    (ofApi cause kind name ns).isNotFound = (api cause).isNotFound ∧
      (ofApi cause kind name ns).isConflict = (api cause).isConflict ∧
      (ofApi cause kind name ns).isRetryable = (api cause).isRetryable := by
  cases cause with
  | response response =>
    rw [ofApi]
    by_cases missing : response.code = 404
    · simp [missing, Failure.missing, isNotFound, isConflict, isRetryable, ApiError.hasCode]
    · by_cases outdated : response.code = 409
      · simp [outdated, isNotFound, isConflict, isRetryable, ApiError.hasCode]
      · simp [missing, outdated]
  | _ => exact ⟨rfl, rfl, rfl⟩

namespace Operator

/-- What the operator has on record for a SharedVolume after a history, and how long it waits after one more
failure. -/
structure Bookkeeping (start : Operator) (history : List Event) (key : ObjectKey) : Prop where
  counted : (start.after history).failures[key.display]? = recorded (failuresSince key history)
  /-- What happened to other SharedVolumes makes no difference. -/
  apart {other : List Event} (slashless : ∀ event ∈ other, event.key.Slashless)
    (same : other.filter (·.key = key) = history.filter (·.key = key)) :
    (start.after other).failures[key.display]? = (start.after history).failures[key.display]?
  /-- A word of 32 bits holds the record of a SharedVolume with fewer failures in all. -/
  fits (fewer : history.countP (·.isFailure key) < 2 ^ 32) : failuresSince key history < 2 ^ 32
  waits (failure : Failure) : ∃ count, 1 ≤ count ∧
    count = failuresSince key (history ++ [.failed key failure]) ∧
    ((start.after history).backOff key failure).2.failures[key.display]? = some count ∧
    ((start.after history).backOff key failure).1 =
      if failure.isRetryable = false then 600
      else if failure.isConflict then 1 else min (30 * 2 ^ (count - 1)) 600

/-- Among SharedVolumes without slashes in their keys, the operator has the failures since the last success on record
for each one, whatever happened to the others, and these make the delays. The delays grow with the failures from half
a minute to ten, and words hold all that occurs on the way. A failure of the API is met in the same way whether or not
it was translated. -/
theorem waits_by_failures_since_success {start : Operator} (fresh : start.failures = ∅) {history : List Event}
    (slashless : ∀ event ∈ history, event.key.Slashless) {key : ObjectKey} (own : key.Slashless) :
    Bookkeeping start history key ∧
    (∀ failures more, failures ≤ more → backoffDelay failures ≤ backoffDelay more) ∧
    (∀ failures, backoffDelay failures = min (30 * 2 ^ (failures - 1)) 600 ∧
      30 ≤ backoffDelay failures ∧ backoffDelay failures ≤ 600) ∧
    (∀ failures : UInt32, wordDelay? failures = some (backoffDelay failures.toNat)) ∧
    ∀ cause kind name ns,
      (Failure.ofApi cause kind name ns).isNotFound = (Failure.api cause).isNotFound ∧
      (Failure.ofApi cause kind name ns).isConflict = (Failure.api cause).isConflict ∧
      (Failure.ofApi cause kind name ns).isRetryable = (Failure.api cause).isRetryable ∧
      (start.after history).backOff key (Failure.ofApi cause kind name ns) =
        (start.after history).backOff key (.api cause) := by
  refine ⟨?_, fun _ _ => backoffDelay_mono,
    fun failures => ⟨backoffDelay_eq failures, backoffDelay_bounds failures⟩, wordDelay?_eq,
    fun cause kind name ns => ?_⟩
  · have counted := failures_after fresh slashless own
    constructor
    case counted => exact counted
    case apart =>
      intro other plain same
      rw [failures_after fresh plain own, counted, ← failuresSince_filter key other, same, failuresSince_filter]
    case fits => exact (failuresSince_le key history).trans_lt
    case waits =>
      intro failure
      have since : failuresSince key (history ++ [.failed key failure]) = failuresSince key history + 1 := by
        simp [failuresSince_concat, Event.isSuccess, Event.isFailure]
      have met : ∀ event ∈ history ++ [.failed key failure], event.key.Slashless := by
        intro event listed
        rcases List.mem_append.mp listed with former | last
        · exact slashless event former
        · rw [List.mem_singleton.mp last]
          exact own
      have noted := failures_after fresh met own
      rw [after_concat, since] at noted
      refine ⟨failuresSince key history + 1, by omega, since.symm, noted, ?_⟩
      rw [backOff, counted, getD_recorded, delayAfter_eq]
  · obtain ⟨notFound, conflict, retryable⟩ := Failure.ofApi_classified cause kind name ns
    refine ⟨notFound, conflict, retryable, ?_⟩
    rw [backOff, backOff, delayAfter_eq, delayAfter_eq, conflict, retryable]

/-- A SharedVolume in one namespace and one of the same name in another. -/
def sampleKey (ns : String) : ObjectKey := .namespaced ns "a"

theorem slashless_sampleKey {ns : String} (plain : '/' ∉ ns.toList) : (sampleKey ns).Slashless where
  name := show '/' ∉ "a".toList by decide
  ns given := Option.some.inj given ▸ plain

/-- Both fail twice, and in between there is a success of the first; a pass that failed clears nothing. -/
def sampleHistory : List Event :=
  [.failed (sampleKey "x") (.conflict "SharedVolume" "a" "stale"), .failed (sampleKey "y") (.reconcileFailed ""),
    .concluded (sampleKey "x") (.ok .again), .failed (sampleKey "x") (.validation ""),
    .concluded (sampleKey "y") (.error (.reconcileFailed "")), .failed (sampleKey "y") (.validation "")]

/-- One failure of the first SharedVolume is on record and two of the second, which waits for two minutes after a
third failure if that may go away. -/
theorem waits_by_failures_since_success_sample :
    (({} : Operator).after sampleHistory).failures[(sampleKey "x").display]? = some 1 ∧
      (({} : Operator).after sampleHistory).failures[(sampleKey "y").display]? = some 2 ∧
      ((({} : Operator).after sampleHistory).backOff (sampleKey "y") (.reconcileFailed "")).1 = 120 := by
  have first : (sampleKey "x").Slashless := slashless_sampleKey (by decide)
  have second : (sampleKey "y").Slashless := slashless_sampleKey (by decide)
  have slashless : ∀ event ∈ sampleHistory, event.key.Slashless := by
    simp [sampleHistory, Event.key, first, second]
  have kept := (@waits_by_failures_since_success {} rfl _ slashless _ first).1
  have other := (@waits_by_failures_since_success {} rfl _ slashless _ second).1
  obtain ⟨count, -, since, -, waits⟩ := other.waits (.reconcileFailed "")
  refine ⟨kept.counted.trans (by decide +kernel), other.counted.trans (by decide +kernel), waits.trans ?_⟩
  rw [since]
  decide +kernel

end Operator

end SharedMount
