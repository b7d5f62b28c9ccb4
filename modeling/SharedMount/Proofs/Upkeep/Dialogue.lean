import SharedMount.Proofs.Program.Aside
import SharedMount.Proofs.Program.Journal
import SharedMount.Proofs.Upkeep.Outcomes

/-! # What a unit says to a store

A `Dialogue` is what a task of a unit comes to before a store that may answer anything at all: the calls of the
task, each with its answer, and the result. There are four dialogues in which an object is established and four
in which it is withdrawn (`Establishes`, `Withdraws`). In each of them a failure is passed on as it was answered,
and then the unit is listed as it was before.
-/

namespace SharedMount

/-! ## Conversations -/

namespace Program

variable {I : Interface} {σ α : Type}

/-- Whether there are answers with which a program makes these calls and ends so. -/
def Converses : Program I α → List (Entry I) → α → Prop
  | .done value, calls, ends => calls = [] ∧ ends = value
  | .call request next, calls, ends =>
      ∃ answer rest, calls = ⟨request, answer⟩ :: rest ∧ (next answer).Converses rest ends

theorem converses_run (perform : (request : I.Call) → StateM σ (I.Answer request)) (program : Program I α)
    (state : σ) : program.Converses (program.journal perform state) ((program.run perform).run state).1 := by
  induction program generalizing state with
  | done value => exact ⟨rfl, rfl⟩
  | call request next ih => exact ⟨_, _, rfl, ih _ _⟩

/-- The failure that a call to a store was answered with. -/
def Entry.failure? {K : Type} (entry : Entry (storeInterface K)) : Option Failure :=
  match (entry.answer : Except Failure entry.request.Value) with
  | .ok _ => none
  | .error failure => some failure

end Program

/-- The failures that tell that an object does not exist: the one that is named so, and a response of the API
server with status code 404. -/
inductive Failure.Absence : Failure → Prop where
  | notFound (kind name ns : String) : Absence (.notFound kind name ns)
  | response {response : ErrorResponse} (code : response.code = 404) : Absence (.api (.response response))

theorem Failure.isNotFound_iff {failure : Failure} : failure.isNotFound = true ↔ failure.Absence := by
  constructor
  · intro absent
    cases failure with
    | notFound kind name ns => exact .notFound kind name ns
    | api cause =>
      cases cause with
      | response response => exact .response (of_decide_eq_true absent)
      | unfinishedLine | emptyName | invalidPath | undecodable => cases absent
    | conflict | invalidConfig | reconcileFailed | serialization | yaml | validation | finalizer | internal =>
      cases absent
  · rintro (⟨kind, name, ns⟩ | code)
    · rfl
    · exact decide_eq_true code

/-! ## The dialogues of a unit -/

/-- The calls of a task of a unit, with their answers, and the result of the task. -/
structure Dialogue (K : Type) where
  calls : List (Program.Entry (storeInterface K))
  result : Except Failure (Upkeep K)

namespace Dialogue

variable {K σ : Type} {unit : Upkeep K} {dialogue : Dialogue K}
  {calls : List (Program.Entry (storeInterface K))} {result : Except Failure (Upkeep K)}

/-- The dialogue of a task with a store that answers by a performer. -/
def of (perform : (call : StoreCall K) → StateM σ call.Answer) (task : StoreProgram K (Upkeep K))
    (state : σ) : Dialogue K where
  calls := Program.journal (I := storeInterface K) perform task.run state
  result := ((Program.run (I := storeInterface K) perform task.run).run state).1

/-- The dialogues in which an object is withdrawn. -/
inductive Withdraws (unit : Upkeep K) : Dialogue K → Prop where
  | unread (failure : Failure) :
      Withdraws unit ⟨[⟨.get unit.key, .error failure⟩], .error failure⟩
  | missing : Withdraws unit ⟨[⟨.get unit.key, .ok none⟩], .ok { unit with latest := none }⟩
  | deleted (stored : K) {answer : Except Failure Unit}
      (gone : ∀ failure, answer = .error failure → failure.Absence) :
      Withdraws unit
        ⟨[⟨.get unit.key, .ok (some stored)⟩, ⟨.delete unit.key, answer⟩], .ok { unit with latest := none }⟩
  | undeleted (stored : K) {failure : Failure} (stays : ¬failure.Absence) :
      Withdraws unit
        ⟨[⟨.get unit.key, .ok (some stored)⟩, ⟨.delete unit.key, .error failure⟩], .error failure⟩

variable [Resource K]

/-- The dialogues in which an object is established. -/
inductive Establishes (unit : Upkeep K) : Dialogue K → Prop where
  | unread (failure : Failure) :
      Establishes unit ⟨[⟨.get unit.key, .error failure⟩], .error failure⟩
  | accepted {stored : K} (accepts : unit.accepts stored = true) :
      Establishes unit ⟨[⟨.get unit.key, .ok (some stored)⟩], .ok { unit with latest := some stored }⟩
  | created (answer : Except Failure K) :
      Establishes unit
        ⟨[⟨.get unit.key, .ok none⟩, ⟨.create (Resource.withVersion none unit.wanted), answer⟩],
          answer.map fun created => { unit with latest := some created }⟩
  | replaced {stored : K} (differs : unit.accepts stored = false) (answer : Except Failure K) :
      Establishes unit
        ⟨[⟨.get unit.key, .ok (some stored)⟩,
            ⟨.replace (Resource.withVersion (Resource.version? stored) unit.wanted), answer⟩],
          answer.map fun updated => { unit with latest := some updated }⟩

/-- Whatever is answered, establishing is one of its dialogues: case by case, as the answer to the read is a
failure, nothing, or an object. -/
theorem establishes (converses : Program.Converses (I := storeInterface K) unit.establish.run calls result) :
    Establishes unit ⟨calls, result⟩ := by
  obtain ⟨found, rest, rfl, converses⟩ := converses
  rcases found with failure | _ | stored
  · obtain ⟨rfl, rfl⟩ := converses
    exact .unread failure
  · obtain ⟨answer, rest, rfl, converses⟩ := converses
    rcases answer with failure | (created : K) <;> obtain ⟨rfl, rfl⟩ := converses
    · exact .created (.error failure)
    · exact .created (.ok created)
  · change Program.Converses (I := storeInterface K)
      (if unit.accepts stored then pure { unit with latest := some stored }
        else do
          let updated ← StoreProgram.replace (Resource.withVersion (Resource.version? stored) unit.wanted)
          return { unit with latest := some updated } : StoreProgram K (Upkeep K)).run rest result at converses
    cases accepts : unit.accepts stored with
    | true =>
      rw [if_pos accepts] at converses
      obtain ⟨rfl, rfl⟩ := converses
      exact .accepted accepts
    | false =>
      rw [if_neg (by simp [accepts])] at converses
      obtain ⟨answer, rest, rfl, converses⟩ := converses
      rcases answer with failure | (updated : K) <;> obtain ⟨rfl, rfl⟩ := converses
      · exact .replaced accepts (.error failure)
      · exact .replaced accepts (.ok updated)

omit [Resource K] in
/-- Whatever is answered, withdrawing is one of its dialogues. -/
theorem withdraws (converses : Program.Converses (I := storeInterface K) unit.withdraw.run calls result) :
    Withdraws unit ⟨calls, result⟩ := by
  obtain ⟨found, rest, rfl, converses⟩ := converses
  rcases found with failure | _ | stored
  · obtain ⟨rfl, rfl⟩ := converses
    exact .unread failure
  · obtain ⟨rfl, rfl⟩ := converses
    exact .missing
  · obtain ⟨answer, rest, rfl, converses⟩ := converses
    rcases answer with failure | ⟨⟩
    · change Program.Converses (I := storeInterface K)
        (do
          (if failure.isNotFound then pure () else throw failure : StoreProgram K Unit)
          return { unit with latest := none } : StoreProgram K (Upkeep K)).run rest result at converses
      by_cases gone : failure.isNotFound = true
      · rw [if_pos gone] at converses
        obtain ⟨rfl, rfl⟩ := converses
        exact .deleted stored fun _ same => Except.error.inj same ▸ Failure.isNotFound_iff.mp gone
      · rw [if_neg gone] at converses
        obtain ⟨rfl, rfl⟩ := converses
        exact .undeleted stored fun absence => gone (Failure.isNotFound_iff.mpr absence)
    · obtain ⟨rfl, rfl⟩ := converses
      exact .deleted stored nofun

/-! ## What is said in a dialogue -/

/-- A dialogue is a read of the object of the unit and at most one more call, which is no read; it ends in a
failure only if one of the calls was answered with just this failure. -/
structure Plain (unit : Upkeep K) (dialogue : Dialogue K) : Prop where
  brief : ∃ found further, dialogue.calls = ⟨.get unit.key, found⟩ :: further ∧ further.length ≤ 1 ∧
    ∀ entry ∈ further, entry.request.operation ≠ .get
  surfaces {failure : Failure} (failed : dialogue.result = .error failure) :
    ∃ entry ∈ dialogue.calls, entry.failure? = some failure

/-- An object is established: created where none was read, with no version, or written over with the version of
the one that was read and with all labels as defined. No failure is kept back. -/
structure Establishing (unit : Upkeep K) (dialogue : Dialogue K) : Prop extends Plain unit dialogue where
  passes {entry : Program.Entry (storeInterface K)} {failure : Failure} (made : entry ∈ dialogue.calls)
    (failed : entry.failure? = some failure) : dialogue.result = .error failure
  spares (key : ObjectKey) (answer : Except Failure Unit) : ⟨.delete key, answer⟩ ∉ dialogue.calls
  creates {object : K} {answer : Except Failure K} (sent : ⟨.create object, answer⟩ ∈ dialogue.calls) :
    dialogue.calls = [⟨.get unit.key, .ok none⟩, ⟨.create object, answer⟩] ∧ Resource.version? object = none
  replaces {object : K} {answer : Except Failure K} (sent : ⟨.replace object, answer⟩ ∈ dialogue.calls) :
    ∃ stored, dialogue.calls = [⟨.get unit.key, .ok (some stored)⟩, ⟨.replace object, answer⟩] ∧
      Resource.version? object = Resource.version? stored ∧
      ∀ name value, (Resource.metadata unit.definition).label? name = some value →
        (Resource.metadata object).label? name = some value

/-- An object is withdrawn. When it is deleted, its absence is as good as success; when it is read, a failure is a
failure, even if it tells of absence. -/
structure Withdrawing (unit : Upkeep K) (dialogue : Dialogue K) : Prop extends Plain unit dialogue where
  unread {failure : Failure} (answered : ⟨.get unit.key, .error failure⟩ ∈ dialogue.calls) :
    dialogue.result = .error failure
  gone {failure : Failure} (answered : ⟨.delete unit.key, .error failure⟩ ∈ dialogue.calls)
    (absence : failure.Absence) : dialogue.result = .ok { unit with latest := none }
  stays {failure : Failure} (answered : ⟨.delete unit.key, .error failure⟩ ∈ dialogue.calls)
    (other : ¬failure.Absence) : dialogue.result = .error failure

private theorem label?_withVersion_wanted {name value : String} (version : Option String)
    (defined : (Resource.metadata unit.definition).label? name = some value) :
    (Resource.metadata (Resource.withVersion version unit.wanted)).label? name = some value := by
  rw [Resource.withVersion, Resource.metadata_mapMetadata]
  exact (Upkeep.label?_wanted unit name).trans (by rw [defined, Option.some_or])

theorem Establishes.establishing (establishes : Establishes unit dialogue) : Establishing unit dialogue := by
  constructor
  case toPlain =>
    constructor
    case brief => cases establishes <;> exact ⟨_, _, rfl, by simp, by simp [StoreCall.operation]⟩
    case surfaces =>
      intro failure failed
      cases establishes with
      | unread answered => exact ⟨_, List.mem_singleton_self _, congrArg some (Except.error.inj failed)⟩
      | accepted accepts => cases failed
      | created answer | replaced _ answer =>
        cases answer with
        | ok stored => cases failed
        | error answered =>
          exact ⟨_, List.mem_cons_of_mem _ (List.mem_singleton_self _), congrArg some (Except.error.inj failed)⟩
  case passes =>
    intro entry failure made failed
    cases establishes with
    | unread answered =>
      obtain rfl := List.mem_singleton.mp made
      exact congrArg Except.error (Option.some.inj failed)
    | accepted accepts =>
      obtain rfl := List.mem_singleton.mp made
      cases failed
    | created answer | replaced _ answer =>
      rcases made with _ | ⟨_, _ | ⟨_, ⟨⟩⟩⟩
      · cases failed
      · cases answer with
        | ok stored => cases failed
        | error answered => exact congrArg Except.error (Option.some.inj failed)
  case spares =>
    intro key answer made
    cases establishes <;> rcases made with _ | ⟨_, _ | ⟨_, ⟨⟩⟩⟩
  case creates =>
    intro object answer sent
    cases establishes <;> rcases sent with _ | ⟨_, _ | ⟨_, ⟨⟩⟩⟩
    case created => exact ⟨rfl, Resource.version?_withVersion ..⟩
  case replaces =>
    intro object answer sent
    cases establishes <;> rcases sent with _ | ⟨_, _ | ⟨_, ⟨⟩⟩⟩
    case replaced => exact ⟨_, rfl, Resource.version?_withVersion .., fun _ _ => label?_withVersion_wanted _⟩

omit [Resource K] in
theorem Withdraws.withdrawing (withdraws : Withdraws unit dialogue) : Withdrawing unit dialogue := by
  constructor
  case toPlain =>
    constructor
    case brief => cases withdraws <;> exact ⟨_, _, rfl, by simp, by simp [StoreCall.operation]⟩
    case surfaces =>
      intro failure failed
      cases withdraws with
      | unread answered => exact ⟨_, List.mem_singleton_self _, congrArg some (Except.error.inj failed)⟩
      | missing | deleted => cases failed
      | undeleted =>
        exact ⟨_, List.mem_cons_of_mem _ (List.mem_singleton_self _), congrArg some (Except.error.inj failed)⟩
  case unread =>
    intro failure answered
    cases withdraws <;> rcases answered with _ | ⟨_, _ | ⟨_, ⟨⟩⟩⟩
    case unread => rfl
  case gone =>
    intro failure answered absence
    cases withdraws <;> rcases answered with _ | ⟨_, _ | ⟨_, ⟨⟩⟩⟩
    case deleted => rfl
    case undeleted stays => exact absurd absence stays
  case stays =>
    intro failure answered other
    cases withdraws <;> rcases answered with _ | ⟨_, _ | ⟨_, ⟨⟩⟩⟩
    case deleted gone => exact absurd (gone _ rfl) other
    case undeleted => rfl

end Dialogue

/-! ## Units that are listed -/

/-- Calls to the roster are answered by the roster, those to the stores by anything at all. -/
def Roster.answering {σ : Type} (stores : (call : OperatorCall) → StateM σ call.Answer) :
    (call : OperatorCall) → StateM (σ × Roster) call.Answer
  | .roster call => fun (state, roster) =>
      let (answer, roster) := roster.perform call
      (answer, (state, roster))
  | call => fun (state, roster) =>
      let (answer, state) := (stores call).run state
      (answer, (state, roster))

/-- A task that fails leaves the roster as it is once the unit is listed that the task is for: a unit that was
listed before has seen what it had seen before. -/
def PassM.FailsAside (task : PassM Unit) (listed : Roster → SharedVolume → Roster) : Prop :=
  ∀ {σ : Type} (stores : (call : OperatorCall) → StateM σ call.Answer) (state : σ) (roster : Roster)
    (shared : SharedVolume) (failure : Failure),
    let ends := ((task.perform shared).run (Roster.answering stores)).run (state, roster)
    ends.1.1 = .error failure → ends.2.2 = listed roster shared

namespace PassM

/-- Work on a store leaves the roster alone, whatever the stores answer. -/
private theorem meets_answering {σ α : Type} {stores : (call : OperatorCall) → StateM σ call.Answer} {state : σ}
    {roster : Roster} {program : OperatorProgram α}
    (makes : Program.Makes (fun call => ∀ request, call ≠ OperatorCall.roster request) (fun _ => True)
      program.run)
    (shared : SharedVolume) :
    ((ofProgram program).perform shared).Meets (Roster.answering stores) (fun _ _ => True)
      (fun _ final => final.2 = roster) (state, roster) := by
  have kept (final : σ × Roster) (call : OperatorCall) (same : final.2 = roster)
      (apart : ∀ request, call ≠ OperatorCall.roster request) :
      ((Roster.answering stores call).run final).2.2 = roster := by
    cases call with
    | roster request => exact absurd rfl (apart request)
    | sharedVolumes | volumes | claims => exact same
  refine (Program.meets_bind (I := operatorInterface) program.run _).mpr ?_
  exact (makes.meets (fun _ _ _ => trivial) kept rfl).imp fun _ _ same => same.2

/-- A task that takes a unit, works on a store and records what was seen fails only before it records. -/
private theorem failsAside_of {α : Type} (take : SharedVolume → RosterCall)
    (work : (shared : SharedVolume) → (take shared).Answer → OperatorProgram α)
    (record : SharedVolume → α → PassM Unit)
    (makes : ∀ shared unit, Program.Makes (fun call => ∀ request, call ≠ OperatorCall.roster request)
      (fun _ => True) (work shared unit).run)
    (records : ∀ {σ : Type} (stores : (call : OperatorCall) → StateM σ call.Answer) (owner : SharedVolume)
      (seen : α) (shared : SharedVolume) (state : σ × Roster),
      ((record owner seen).perform shared).Meets (Roster.answering stores) (fun _ _ => True)
        (fun result _ => result.1 = .ok ()) state) :
    FailsAside
      (do
        let shared ← get
        let unit ← ofProgram (.onRoster (take shared))
        let seen ← ofProgram (work shared unit)
        record shared seen)
      fun roster shared => (roster.perform (take shared)).2 := by
  intro σ stores state roster shared failure
  have following : Program.Meets (Roster.answering stores) (fun _ _ => True)
      (fun result final => result.1 = .error failure → final.2 = (roster.perform (take shared)).2)
      (PassM.perform (do
        let seen ← ofProgram (work shared (roster.perform (take shared)).1)
        record shared seen) shared) (state, (roster.perform (take shared)).2) := by
    refine (Program.meets_bind (I := operatorInterface) ((ofProgram (work shared _)).perform shared) _).mpr ?_
    refine (meets_answering (makes shared _) shared).imp ?_
    rintro ⟨failed | seen, shared'⟩ final kept
    · exact fun _ => kept
    · exact (records stores shared seen shared' final).imp fun result _ recorded failed =>
        absurd (recorded.symm.trans failed) (by simp)
  exact following.run

theorem withVolumeUnit_failsAside (settings : Settings)
    (work : Upkeep PersistentVolume → StoreProgram PersistentVolume (Upkeep PersistentVolume)) :
    (withVolumeUnit settings work).FailsAside fun roster shared => (roster.volume shared settings).2 :=
  failsAside_of (fun shared => .volume shared settings) (fun _ unit => .onVolumes (work unit))
    (fun owner unit => ofProgram (.onRoster (.recordVolume owner.key unit.latest)))
    (fun _ _ => (Program.makes_any _).embed fun _ _ => by simp) fun _ _ _ _ _ => ⟨trivial, rfl⟩

theorem withClaimUnit_failsAside (settings : Settings)
    (work : Upkeep PersistentVolumeClaim →
      StoreProgram PersistentVolumeClaim (Upkeep PersistentVolumeClaim)) :
    (withClaimUnit settings work).FailsAside fun roster shared => (roster.claim shared settings).2 :=
  failsAside_of (fun shared => .claim shared settings) (fun _ unit => .onClaims (work unit))
    (fun owner unit => ofProgram (.onRoster (.recordClaim owner.key unit.latest)))
    (fun _ _ => (Program.makes_any _).embed fun _ _ => by simp) fun _ _ _ _ _ => ⟨trivial, rfl⟩

end PassM

/-- Whatever a store answers: establishing and withdrawing an object are a read and at most one more call, which
is sent as the answer to the read demands, and never tried again. They fail only with the very failure of one of
these calls, and then the unit stays listed as it was. Only that an object to be deleted is gone is no failure. -/
theorem Upkeep.failures_pass_through :
    (∀ {K σ : Type} [Resource K] (unit : Upkeep K) (perform : (call : StoreCall K) → StateM σ call.Answer)
      (state : σ), Dialogue.Establishing unit (.of perform unit.establish state) ∧
        Dialogue.Withdrawing unit (.of perform unit.withdraw state)) ∧
    ∀ settings,
      (∀ work, (PassM.withVolumeUnit settings work).FailsAside
        fun roster shared => (roster.volume shared settings).2) ∧
      ∀ work, (PassM.withClaimUnit settings work).FailsAside
        fun roster shared => (roster.claim shared settings).2 := by
  refine ⟨fun unit perform state => ⟨?_, ?_⟩, fun settings => ⟨?_, ?_⟩⟩
  · exact (Dialogue.establishes (Program.converses_run perform _ state)).establishing
  · exact (Dialogue.withdraws (Program.converses_run perform _ state)).withdrawing
  · exact PassM.withVolumeUnit_failsAside settings
  · exact PassM.withClaimUnit_failsAside settings

end SharedMount
