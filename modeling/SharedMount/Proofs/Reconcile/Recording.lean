import SharedMount.Proofs.Program.Aside
import SharedMount.Proofs.Program.Journal
import SharedMount.Proofs.Reconcile.Stages
import SharedMount.Rehearsal.Basic

/-! # What a pass puts on record

The journal of a pass over a SharedVolume that is to stay: the volume is fetched, and the rest is the journal
of the work of its stage. Which calls each stage makes, and how many of them are writes, is known whatever is
answered.
-/

namespace SharedMount

/-! ## Kinds of calls -/

namespace OperatorCall

/-- The store that a call is to, and what it is to do there; calls to the roster are to no store. -/
def operation? : OperatorCall → Option (Place × Operation)
  | sharedVolumes call => some (.sharedVolumes, call.operation)
  | volumes call => some (.volumes, call.operation)
  | claims call => some (.claims, call.operation)
  | roster _ => none

/-- Whether a call is a write to a store. -/
def writesTo (place : Place) (call : OperatorCall) : Bool :=
  match call.operation? with
  | some (other, operation) => other = place && operation ≠ .get
  | none => false

/-- Whether a call is a write to any store. -/
def isWrite (call : OperatorCall) : Bool :=
  match call.operation? with
  | some (_, operation) => operation ≠ .get
  | none => false

/-- Whether an answer tells of success; the roster never fails. -/
def succeeds : (call : OperatorCall) → call.Answer → Bool
  | sharedVolumes call, answer => Except.isOk (ε := Failure) (α := call.Value) answer
  | volumes call, answer => Except.isOk (ε := Failure) (α := call.Value) answer
  | claims call, answer => Except.isOk (ε := Failure) (α := call.Value) answer
  | roster _, _ => true

/-- A call that makes no other use of stores than to read, create or replace in one of them. -/
def Establishes (place : Place) (call : OperatorCall) : Prop :=
  ∀ other operation, call.operation? = some (other, operation) →
    other = place ∧ operation ≠ .delete ∧ operation ≠ .replaceStatus

/-- A call that replaces a SharedVolume or its status. -/
def Amends (call : OperatorCall) : Prop :=
  call.operation? = some (.sharedVolumes, .replace) ∨
    call.operation? = some (.sharedVolumes, .replaceStatus)

theorem Establishes.of_operation {place : Place} {operation : Operation} {call : OperatorCall}
    (target : call.operation? = some (place, operation)) (kept : operation ≠ .delete)
    (unreported : operation ≠ .replaceStatus) : call.Establishes place := by
  intro other present found
  obtain ⟨rfl, rfl⟩ := Prod.mk.inj (Option.some.inj (target.symm.trans found))
  exact ⟨rfl, kept, unreported⟩

theorem Establishes.not_writesTo {place other : Place} {call : OperatorCall}
    (establishes : call.Establishes place) (differs : other ≠ place) : call.writesTo other = false := by
  rw [writesTo]
  cases target : call.operation? with
  | none => rfl
  | some pair =>
    obtain ⟨present, operation⟩ := pair
    obtain ⟨rfl, -⟩ := establishes present operation target
    simp [Ne.symm differs]

theorem Amends.not_writesTo {place : Place} {call : OperatorCall} (amends : call.Amends)
    (differs : place ≠ .sharedVolumes) : call.writesTo place = false := by
  rcases amends with target | target <;> simp [writesTo, target, Ne.symm differs]

end OperatorCall

/-! ## Establishing -/

namespace Upkeep

variable {K : Type} [Resource K]

/-- Establishing reads once, and then creates or replaces at most once. -/
theorem makes_establish {kind : StoreCall K → Prop} (unit : Upkeep K) (reads : kind (.get unit.key))
    (creates : ∀ object, kind (.create object)) (replaces : ∀ object, kind (.replace object)) :
    Program.Makes (I := storeInterface K) kind (fun _ => True) unit.establish.run := by
  refine ⟨reads, fun found => ?_⟩
  rcases found with failure | _ | stored
  · trivial
  · refine ⟨creates _, fun created => ?_⟩
    cases created <;> trivial
  · change Program.Makes kind _ (if _ then _ else _ : StoreProgram K (Upkeep K))
    split
    · trivial
    · refine ⟨replaces _, fun updated => ?_⟩
      cases updated <;> trivial

theorem atMost_establish {counts : StoreCall K → Bool} (unit : Upkeep K)
    (reads : counts (.get unit.key) = false) :
    Program.AtMost (I := storeInterface K) counts unit.establish.run 1 := by
  refine ⟨Bool.toNat_le _, fun found => ?_⟩
  rw [reads]
  rcases found with failure | _ | stored
  · trivial
  · refine ⟨Bool.toNat_le _, fun created => ?_⟩
    cases created <;> trivial
  · change Program.AtMost _ (if _ then _ else _ : StoreProgram K (Upkeep K)) _
    split
    · trivial
    · refine ⟨Bool.toNat_le _, fun updated => ?_⟩
      cases updated <;> trivial

end Upkeep

namespace PassM

variable {settings : Settings}

open OperatorCall

theorem atMost_onRoster {place : Place} (call : RosterCall) :
    (ofProgram (.onRoster call)).AtMost (writesTo place) 0 := by
  have asks : (ofProgram (.onRoster call)).Makes (· = .roster call) := makes_onRoster rfl
  exact asks.atMost (by rintro _ rfl; rfl) 0

theorem makes_establishVolume :
    (withVolumeUnit settings Upkeep.establish).Makes (Establishes .volumes) := by
  refine makes_get.bind fun shared => (makes_onRoster nofun).bind fun unit => ?_
  have establishes : Program.Makes (I := storeInterface PersistentVolume)
      (fun call => Establishes .volumes (.volumes call)) (fun _ => True) (Upkeep.establish unit).run :=
    Upkeep.makes_establish unit (.of_operation rfl nofun nofun)
      (fun _ => .of_operation rfl nofun nofun) fun _ => .of_operation rfl nofun nofun
  have embedded : Program.Makes (Establishes .volumes) (fun _ => True)
      (OperatorProgram.onVolumes (Upkeep.establish unit)).run :=
    establishes.embed fun _ made => made
  exact (makes_ofProgram embedded).bind fun unit => makes_onRoster nofun

theorem makes_establishClaim :
    (withClaimUnit settings Upkeep.establish).Makes (Establishes .claims) := by
  refine makes_get.bind fun shared => (makes_onRoster nofun).bind fun unit => ?_
  have establishes : Program.Makes (I := storeInterface PersistentVolumeClaim)
      (fun call => Establishes .claims (.claims call)) (fun _ => True) (Upkeep.establish unit).run :=
    Upkeep.makes_establish unit (.of_operation rfl nofun nofun)
      (fun _ => .of_operation rfl nofun nofun) fun _ => .of_operation rfl nofun nofun
  have embedded : Program.Makes (Establishes .claims) (fun _ => True)
      (OperatorProgram.onClaims (Upkeep.establish unit)).run :=
    establishes.embed fun _ made => made
  exact (makes_ofProgram embedded).bind fun unit => makes_onRoster nofun

theorem atMost_establishVolume :
    (withVolumeUnit settings Upkeep.establish).AtMost (writesTo .volumes) 1 := by
  have establishes (unit : Upkeep PersistentVolume) :
      (ofProgram (.onVolumes unit.establish)).AtMost (writesTo .volumes) 1 :=
    atMost_ofProgram (Program.AtMost.embed (unit.atMost_establish rfl))
  refine atMost_get.after fun shared => (atMost_onRoster _).after fun unit => ?_
  exact (establishes unit).before fun unit => atMost_onRoster _

theorem atMost_establishClaim :
    (withClaimUnit settings Upkeep.establish).AtMost (writesTo .claims) 1 := by
  have establishes (unit : Upkeep PersistentVolumeClaim) :
      (ofProgram (.onClaims unit.establish)).AtMost (writesTo .claims) 1 :=
    atMost_ofProgram (Program.AtMost.embed (unit.atMost_establish rfl))
  refine atMost_get.after fun shared => (atMost_onRoster _).after fun unit => ?_
  exact (establishes unit).before fun unit => atMost_onRoster _

/-- Provisioning writes to the volumes and to the claims at most once each, and to no SharedVolume. -/
theorem atMost_provision (place : Place) : (provision settings).AtMost (writesTo place) 1 := by
  have volumeFree (differs : place ≠ .volumes) (budget : Nat) :
      (withVolumeUnit settings Upkeep.establish).AtMost (writesTo place) budget :=
    makes_establishVolume.atMost (fun _ made => made.not_writesTo differs) budget
  have claimFree (differs : place ≠ .claims) (budget : Nat) :
      (withClaimUnit settings Upkeep.establish).AtMost (writesTo place) budget :=
    makes_establishClaim.atMost (fun _ made => made.not_writesTo differs) budget
  cases place with
  | sharedVolumes => exact (volumeFree (by decide) 0).after fun _ => claimFree (by decide) 1
  | volumes => exact atMost_establishVolume.before fun _ => claimFree (by decide) 0
  | claims => exact (volumeFree (by decide) 0).after fun _ => atMost_establishClaim

theorem provision_free : (provision settings).AtMost (writesTo .sharedVolumes) 0 :=
  (makes_establishVolume.atMost (fun _ made => made.not_writesTo (by decide)) 0).after fun _ =>
    makes_establishClaim.atMost (fun _ made => made.not_writesTo (by decide)) 0

/-! ## The work of a stage -/

theorem makes_report_amends {phase : Phase} {message : String} : (report phase message).Makes Amends :=
  makes_report fun _ _ => .inr rfl

theorem atMost_writeStatus (status : SharedVolumeStatus) (place : Place) :
    (writeStatus status).AtMost (writesTo place) 1 := by
  intro shared
  refine ⟨Bool.toNat_le _, fun answer => ?_⟩
  cases answer <;> trivial

theorem atMost_report (phase : Phase) (message : String) (place : Place) :
    (report phase message).AtMost (writesTo place) 1 := by
  refine atMost_get.after fun shared => ?_
  simp only
  split
  · exact atMost_pure ()
  · exact atMost_writeStatus _ place

theorem atMost_reportReady (claimName : String) (place : Place) :
    (reportReady claimName).AtMost (writesTo place) 1 := by
  refine atMost_get.after fun shared => ?_
  simp only
  split
  · exact atMost_pure ()
  · exact atMost_writeStatus _ place

theorem atMost_replace (updated : SharedVolume) (place : Place) :
    (replace updated).AtMost (writesTo place) 1 := by
  intro shared
  refine ⟨Bool.toNat_le _, fun answer => ?_⟩
  cases answer <;> trivial

end PassM

open OperatorCall PassM

/-- When provisioning has ended, volumes and claims are left alone. -/
theorem Stage.makes_conclude (claimName : String) (result : Except Failure Unit) :
    (conclude claimName result).Makes Amends := by
  rcases result with failure | ⟨⟩
  · exact makes_report_amends.bestEffort.bind fun _ _ => trivial
  · exact (makes_reportReady fun _ => .inr rfl).bind fun _ => makes_pure _

/-- Before a SharedVolume is served, its volume and its claim are left alone. -/
theorem Stage.makes_work {settings : Settings} {stage : Stage} (unserved : stage ≠ .serve) :
    (stage.work settings).Makes Amends := by
  cases stage with
  | stuck failure => exact fun _ => trivial
  | reject text failure => exact makes_report_amends.bestEffort.bind fun _ _ => trivial
  | revert spec =>
    exact makes_get.bind fun shared => (makes_replace (.inl rfl)).bind fun _ => makes_pure _
  | register => exact makes_get.bind fun shared => (makes_replace (.inl rfl)).bind fun _ => makes_pure _
  | notice => exact makes_report_amends.bind fun _ => makes_pure _
  | serve => exact absurd rfl unserved

/-- The work of a stage writes to each store at most once. -/
theorem Stage.atMost_work {settings : Settings} (stage : Stage) (place : Place) :
    (stage.work settings).AtMost (writesTo place) 1 := by
  have reject (text : String) (failure : Failure) : AtMost (writesTo place) (do
      reportFailure text
      throw failure : PassM Verdict) 1 :=
    ((atMost_report _ _ place).attempt.before fun _ => atMost_pure ()).before fun _ => atMost_throw failure
  cases stage with
  | stuck failure => exact atMost_throw failure
  | reject text failure => exact reject text failure
  | revert spec => exact atMost_get.after fun shared => (atMost_replace _ place).before fun _ => atMost_pure _
  | register => exact atMost_get.after fun shared => (atMost_replace _ place).before fun _ => atMost_pure _
  | notice => exact (atMost_report _ _ place).before fun _ => atMost_pure _
  | serve =>
    refine atMost_get.after fun shared => ?_
    by_cases own : place = .sharedVolumes
    · subst own
      refine provision_free.attempt.after fun result => ?_
      rcases result with failure | ⟨⟩
      · exact reject failure.message failure
      · exact (atMost_reportReady _ _).before fun _ => atMost_pure _
    · have free {task : PassM Verdict} (makes : task.Makes Amends) : task.AtMost (writesTo place) 0 :=
        makes.atMost (fun _ amends => amends.not_writesTo own) 0
      exact (atMost_provision place).attempt.before fun result => free (makes_conclude _ result)

/-- No stage deletes anything. -/
theorem Stage.makes_work_undeleting {settings : Settings} (stage : Stage) :
    (stage.work settings).Makes fun call => ∀ place, call.operation? ≠ some (place, .delete) := by
  have amending {task : PassM Verdict} (makes : task.Makes Amends) : task.Makes fun call =>
      ∀ place, call.operation? ≠ some (place, .delete) :=
    makes.imp fun call amends place => by rcases amends with target | target <;> simp [target]
  have establishing {place : Place} {task : PassM Unit} (makes : task.Makes (Establishes place)) :
      task.Makes fun call => ∀ place, call.operation? ≠ some (place, .delete) :=
    makes.imp fun call establishes other target => (establishes other _ target).2.1 rfl
  by_cases served : stage = .serve
  · subst served
    have provisioning : (provision settings).Makes fun call =>
        ∀ place, call.operation? ≠ some (place, .delete) :=
      (establishing makes_establishVolume).bind fun _ => establishing makes_establishClaim
    exact makes_get.bind fun shared => provisioning.attempt.bind fun result =>
      amending (makes_conclude _ result)
  · exact amending (makes_work served)

/-! ## The journal of a pass -/

/-- Whether the answer to a call that was made tells of success. -/
def Program.Entry.succeeded (entry : Program.Entry operatorInterface) : Bool :=
  entry.request.succeeds entry.answer

namespace PassM

variable {settings : Settings} {shared : SharedVolume} {world : World}

/-- The call with which a pass finds out what is to be done. -/
def lookup (shared : SharedVolume) (world : World) : Program.Entry operatorInterface :=
  ⟨.volumes (.get (volumeKey shared.key)), world.volumes.get (volumeKey shared.key)⟩

theorem outcome_pass_of_stays (stays : shared.isDeleting = false) :
    (pass settings).outcome shared world =
      ((Stage.among world.volumes shared).work settings).outcome shared world := by
  rw [outcome, perform_pass_of_stays stays, advance_eq]
  rfl

theorem journal_pass_of_stays (stays : shared.isDeleting = false) :
    (pass settings).journal shared world =
      lookup shared world :: ((Stage.among world.volumes shared).work settings).journal shared world := by
  rw [journal, perform_pass_of_stays stays, advance_eq]
  rfl

end PassM

/-- A pass that cannot fetch its SharedVolume ends there. -/
theorem reconcile_of_unreadable (settings : Settings) (key : ObjectKey) {world : World}
    (fails : world.sharedVolumes.failing .get = true) :
    world.reconcile settings key =
        (.error (.internal ("injected " ++ Operation.get.faultName ++ " failure")), world) ∧
      (reconcile settings key).journal world =
        [⟨.sharedVolumes (.get key), world.sharedVolumes.get key⟩] := by
  have failed : world.sharedVolumes.get key =
      .error (.internal ("injected " ++ Operation.get.faultName ++ " failure")) := by
    rw [Store.get, Store.check_of_failing fails]
    rfl
  constructor
  · change (Program.run (I := operatorInterface) World.perform
      (ExceptT.bindCont _ (world.sharedVolumes.get key))).run world = _
    rw [failed]
    rfl
  · change ⟨.sharedVolumes (.get key), world.sharedVolumes.get key⟩ ::
      Program.journal (I := operatorInterface) World.perform
        (ExceptT.bindCont _ (world.sharedVolumes.get key)) world = _
    rw [failed]
    rfl

/-- A pass that succeeds could fetch its SharedVolume. -/
theorem readable_of_succeeded {settings : Settings} {key : ObjectKey} {world : World} {verdict : Verdict}
    (succeeded : (world.reconcile settings key).1 = .ok verdict) :
    world.sharedVolumes.failing .get = false := by
  cases fails : world.sharedVolumes.failing .get with
  | false => rfl
  | true =>
    rw [(reconcile_of_unreadable settings key fails).1] at succeeded
    cases succeeded

/-- A pass over a SharedVolume that is gone drops its units. -/
theorem reconcile_of_gone (settings : Settings) {key : ObjectKey} {world : World}
    (readable : world.sharedVolumes.failing .get = false) (gone : world.sharedVolumes.object? key = none) :
    world.reconcile settings key = (.ok .settled, { world with roster := world.roster.dismiss key }) ∧
      (reconcile settings key).journal world = [⟨.sharedVolumes (.get key), world.sharedVolumes.get key⟩,
        ⟨.roster (.dismiss key), ()⟩] := by
  have found : world.sharedVolumes.get key = .ok none := Store.get_eq_ok_iff.mpr ⟨readable, gone⟩
  constructor
  · change (Program.run (I := operatorInterface) World.perform
      (ExceptT.bindCont _ (world.sharedVolumes.get key))).run world = _
    rw [found]
    rfl
  · change ⟨.sharedVolumes (.get key), world.sharedVolumes.get key⟩ ::
      Program.journal (I := operatorInterface) World.perform
        (ExceptT.bindCont _ (world.sharedVolumes.get key)) world = _
    rw [found]
    rfl

/-- A pass over a stored SharedVolume fetches it first. -/
theorem journal_reconcile_of_held {settings : Settings} {key : ObjectKey} {shared : SharedVolume}
    {world : World} (readable : world.sharedVolumes.failing .get = false)
    (held : world.sharedVolumes.object? key = some shared) :
    (reconcile settings key).journal world = ⟨.sharedVolumes (.get key), world.sharedVolumes.get key⟩ ::
      (PassM.pass settings).journal shared world := by
  have found : world.sharedVolumes.get key = .ok (some shared) := Store.get_eq_ok_iff.mpr ⟨readable, held⟩
  refine congrArg (List.cons _) ?_
  change Program.journal (I := operatorInterface) World.perform
    (ExceptT.bindCont _ (world.sharedVolumes.get key)) world = _
  rw [found]
  exact (Program.journal_bind ((PassM.pass settings).perform shared) _ world).trans (List.append_nil _)

/-! ## Single calls -/

namespace PassM

variable {shared : SharedVolume} {world : World} {call : StoreCall SharedVolume}

/-- A task makes one call to the store of SharedVolumes, succeeds only with it, and touches no other store. -/
structure Single {α : Type} (task : PassM α) (call : StoreCall SharedVolume) (shared : SharedVolume)
    (world : World) : Prop where
  journal : task.journal shared world =
    [⟨.sharedVolumes call, (world.sharedVolumes.perform call).1⟩]
  succeeded {value : α} : (task.outcome shared world).1 = .ok value →
    OperatorCall.succeeds (.sharedVolumes call) (world.sharedVolumes.perform call).1 = true
  volumes : (task.outcome shared world).2.2.volumes = world.volumes
  claims : (task.outcome shared world).2.2.claims = world.claims

theorem Single.of_get {α : Type} {next : SharedVolume → PassM α}
    (single : Single (next shared) call shared world) : Single (get >>= next) call shared world :=
  ⟨single.journal, single.succeeded, single.volumes, single.claims⟩

/-- Taking up what is stored makes no other call than the one that stores it. -/
private theorem single_set {program : OperatorProgram SharedVolume}
    {answer : Except Failure SharedVolume} {sharedVolumes : Store SharedVolume}
    (outcome : (ofProgram program).outcome shared world = (answer, shared, { world with sharedVolumes }))
    (journal : (ofProgram program).journal shared world =
      [⟨.sharedVolumes call, (world.sharedVolumes.perform call).1⟩])
    (succeeds : OperatorCall.succeeds (.sharedVolumes call) (world.sharedVolumes.perform call).1 =
      answer.isOk) :
    Single (do set (← ofProgram program)) call shared world := by
  refine ⟨(journal_bind_silent fun _ _ _ => rfl).trans journal, ?_, ?_, ?_⟩
  all_goals
    rw [outcome_bind, outcome]
    cases answer
  · exact nofun
  · exact fun _ => succeeds
  all_goals rfl

theorem single_replace (updated shared : SharedVolume) (world : World) :
    Single (replace updated) (.replace updated) shared world :=
  single_set rfl rfl rfl

theorem single_writeStatus (status : SharedVolumeStatus) (shared : SharedVolume) (world : World) :
    Single (writeStatus status) (.replaceStatus { shared with status := some status }) shared world :=
  .of_get (single_set rfl rfl rfl)

/-- A report of something new writes the status. -/
theorem single_report {phase : Phase} {message : String}
    (unsaid : (shared.status.getD {}).phase ≠ some phase) : Single (report phase message) (.replaceStatus
      { shared with status := some { shared.status.getD {} with phase := some phase, message } }) shared
      world := by
  refine .of_get ?_
  simp only [unsaid, false_and, ↓reduceIte]
  exact single_writeStatus _ shared world

/-- After a single call a task may end with any value. -/
theorem Single.pure {task : PassM Unit} (single : Single task call shared world) {α : Type} (value : α) :
    Single (do
      task
      return value) call shared world := by
  obtain ⟨journal, succeeded, volumes, claims⟩ := single
  refine ⟨(journal_bind_silent fun _ _ _ => rfl).trans journal, ?_, ?_, ?_⟩
  all_goals
    rw [outcome_bind]
    revert succeeded volumes claims
    obtain ⟨failure | ⟨⟩, shared', world'⟩ := task.outcome shared world
  · exact fun _ _ _ => nofun
  · exact fun succeeded _ _ _ _ => succeeded rfl
  · exact fun _ volumes _ => volumes
  · exact fun _ volumes _ => volumes
  · exact fun _ _ claims => claims
  · exact fun _ _ claims => claims

end PassM

end SharedMount
