import SharedMount.Api.Server
import SharedMount.Operator.Backoff

/-! # The operator on a timeline

The operator at work, second by second. It watches the SharedVolumes of one namespace or of all, and
with them the volumes and claims that carry its marker. At the start every SharedVolume that it watches
is due. After a pass the SharedVolume is due again at once, after a delay, or only when an event about
it or about its volume or claim comes in. A SharedVolume that the operator does not know is passed over
in silence.
-/

namespace SharedMount

/-- What the operator watches of one kind. -/
structure Watch where
  plural : String
  /-- The namespace, or nothing for all. -/
  ns : Option String
  selector : String
deriving DecidableEq, Inhabited, Repr

/-- The watches of an operator for a namespace, or for all; volumes belong to no namespace. -/
def watches (ns : Option String) : List Watch :=
  [⟨Api.Endpoint.plural PersistentVolumeClaim, ns, managedSelector⟩,
    ⟨Api.Endpoint.plural PersistentVolume, none, managedSelector⟩,
    ⟨Api.Endpoint.plural SharedVolume, ns, ""⟩]

/-- What an event tells of an object. -/
inductive Notice where
  /-- It is there, new or changed. -/
  | present
  /-- It is gone. -/
  | gone
deriving DecidableEq, Inhabited, Repr

/-- A step on the store of one kind. -/
inductive WorldStep where
  | onSharedVolumes (step : StoreStep SharedVolume)
  | onVolumes (step : StoreStep PersistentVolume)
  | onClaims (step : StoreStep PersistentVolumeClaim)

/-- Something that happens in the cluster, and the event that is sent about an object of that kind. -/
structure Happening where
  second : Nat
  step : WorldStep
  event : Option (Notice × ObjectKey) := none

/-- A call at a time. -/
structure TimedCall where
  second : Nat
  place : Place
  record : CallRecord
deriving DecidableEq, Inhabited, Repr

/-- The operator at work. -/
structure Timeline where
  /-- The namespace that is watched, or nothing for all. -/
  ns : Option String := none
  rehearsal : Rehearsal := {}
  operator : Operator := {}
  /-- The SharedVolumes that the operator knows of. -/
  known : List ObjectKey := []
  /-- When which SharedVolume is due, at most one time for each. -/
  due : List (Nat × ObjectKey) := []
  history : List TimedCall := []

instance : Inhabited Timeline := ⟨{}⟩

/-- The number of troubles that a step arranges. -/
def WorldStep.troubleCount : WorldStep → Nat
  | onSharedVolumes step => step.troubleCount
  | onVolumes step => step.troubleCount
  | onClaims step => step.troubleCount

namespace Rehearsal

/-- The number of troubles that wait in a rehearsal. -/
def troubleCount (rehearsal : Rehearsal) : Nat :=
  rehearsal.sharedVolumes.troubleCount + rehearsal.volumes.troubleCount +
    rehearsal.claims.troubleCount

/-- Make a step on the store that it is for. -/
def applyStep : WorldStep → StateM Rehearsal Unit
  | .onSharedVolumes step => discard (apply step)
  | .onVolumes step => discard (apply step)
  | .onClaims step => discard (apply step)

end Rehearsal

namespace Timeline

/-- Whether an operator for a namespace, or for all, watches another namespace. -/
def covers (ns : Option String) (object : ObjectKey) : Bool :=
  match ns with
  | none => true
  | some ns => object.ns = some ns

/-- The operator at the start: each SharedVolume that it watches is known and due. -/
def start (ns : Option String) (settings : Settings) (rehearsal : Rehearsal) : Timeline :=
  let known := rehearsal.sharedVolumes.store.objects.keys.filter (covers ns)
  { ns, rehearsal, operator := { settings }, known, due := known.map fun key => (0, key) }

/-- Make a SharedVolume due, unless it is due earlier. -/
def schedule (second : Nat) (key : ObjectKey) (timeline : Timeline) : Timeline :=
  let earlier := timeline.due.any fun (other, name) => name = key && other ≤ second
  if earlier then timeline
  else { timeline with due := timeline.due.filter (·.2 ≠ key) ++ [(second, key)] }

/-- Pass over a SharedVolume, if it is known, and schedule what follows. -/
def passOver (second : Nat) (key : ObjectKey) (timeline : Timeline) : Timeline :=
  let timeline := { timeline with due := timeline.due.filter (·.2 ≠ key) }
  if key ∈ timeline.known then
    let client : Api.Client := {}
    let program := reconcile timeline.operator.settings key
    let (result, rehearsal) :=
      (Program.run (Api.perform client) program.run).run { timeline.rehearsal with calls := [] }
    let (_, followup, operator) := timeline.operator.follow key result
    let history := timeline.history ++
      rehearsal.calls.map fun (place, record) => { second, place, record }
    let timeline := { timeline with rehearsal, operator, history }
    match followup with
    | .after seconds => timeline.schedule (second + seconds) key
    | .onChange => timeline
  else timeline

/-- The entry that is due first, the earliest in the queue of several. -/
def next? (timeline : Timeline) : Option (Nat × ObjectKey) :=
  timeline.due.foldl
    (fun best entry =>
      match best with
      | some found => if entry.1 < found.1 then some entry else some found
      | none => some entry)
    none

/-- Let the operator work through all that is due up to a second. The fuel bounds the number of
passes. -/
def workUntil (second : Nat) : Nat → Timeline → Timeline
  | 0, timeline => timeline
  | fuel + 1, timeline =>
      match timeline.next? with
      | some (due, key) =>
          if due ≤ second then workUntil second fuel (timeline.passOver due key) else timeline
      | none => timeline

/-- The object that an event is about, as it is after a step, or before it if the step took it away. -/
def eventObject? {K : Type} [Staged K] (key : ObjectKey) (before after : Rehearsal) : Option K :=
  ((Staged.bench after).store.object? key).or ((Staged.bench before).store.object? key)

/-- Take in an event about a SharedVolume. -/
def noteShared (second : Nat) (notice : Notice) (key : ObjectKey) (timeline : Timeline) :
    Timeline :=
  if covers timeline.ns key then
    let known := timeline.known.filter (· ≠ key)
    match notice with
    | .gone => { timeline with known }
    | .present => { timeline with known := known ++ [key] }.schedule second key
  else timeline

/-- Take in an event about a volume or a claim: its owner is due. -/
def noteDependent {K : Type} [Resource K] (second : Nat) (watched : Bool) (object : K)
    (timeline : Timeline) : Timeline :=
  if watched && isManaged object then
    match route? object with
    | some owner => timeline.schedule second owner
    | none => timeline
  else timeline

/-- Take in the event about an object of the kind that a step was for. -/
def note (second : Nat) (step : WorldStep) (event : Notice × ObjectKey) (before : Rehearsal)
    (timeline : Timeline) : Timeline :=
  let (notice, key) := event
  match step with
  | .onSharedVolumes _ =>
      match eventObject? (K := SharedVolume) key before timeline.rehearsal with
      | some object => timeline.noteShared second notice object.key
      | none => timeline
  | .onVolumes _ =>
      match eventObject? (K := PersistentVolume) key before timeline.rehearsal with
      | some object => timeline.noteDependent second true object
      | none => timeline
  | .onClaims _ =>
      match eventObject? (K := PersistentVolumeClaim) key before timeline.rehearsal with
      | some object => timeline.noteDependent second (covers timeline.ns (Resource.key object)) object
      | none => timeline

/-- Let something happen, and take in the event about it. -/
def happen (happening : Happening) (timeline : Timeline) : Timeline :=
  let before := timeline.rehearsal
  let ((), rehearsal) := (Rehearsal.applyStep happening.step).run before
  let timeline := { timeline with rehearsal }
  match happening.event with
  | some event => timeline.note happening.second happening.step event before
  | none => timeline

/-- The passes that there may be up to the last second. In any second a SharedVolume is passed over
four times at most, since what makes a pass ask for another one at once is done after three; each
trouble may undo what was done. A happening makes one more SharedVolume known at most. -/
def allowance (last : Nat) (happenings : List Happening) (timeline : Timeline) : Nat :=
  let troubles := happenings.foldl (fun total happening => total + happening.step.troubleCount)
    timeline.rehearsal.troubleCount
  (last + 1) * (timeline.known.length + happenings.length) * (4 * (troubles + 1))

/-- Let all that happens up to the last second take place, the operator working in between, and then
work to the end. -/
def run (last : Nat) (happenings : List Happening) (timeline : Timeline) : Timeline :=
  let fuel := timeline.allowance last happenings
  let ordered := happenings.mergeSort fun a b => a.second ≤ b.second
  let after := (ordered.filter (·.second ≤ last)).foldl
    (fun timeline happening => (timeline.workUntil happening.second fuel).happen happening)
    timeline
  after.workUntil last fuel

end Timeline

end SharedMount
