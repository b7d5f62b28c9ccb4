import SharedMount.Proofs.Reconcile.Recording
import SharedMount.Proofs.Reconcile.Retiring
import SharedMount.Proofs.Store.Faults

/-! # Work where reports fail

Where the status of SharedVolumes cannot be written, a task does the same work as where it can: the other
calls do not notice, and a report that was lost leaves a copy at hand which is as current as the reported one
would have been. Only a task that reports progress, and ends with that, ends otherwise.
-/

namespace SharedMount

/-! ## A world where reports fail -/

/-- The world with the status of SharedVolumes not to be written. -/
def World.muted (world : World) : World :=
  { world with sharedVolumes := world.sharedVolumes.fail .replaceStatus }

/-- The failure of a report in such a world. -/
def unreportable : Failure :=
  .internal ("injected " ++ Operation.replaceStatus.faultName ++ " failure")

namespace OperatorCall

/-- A call that does not write the status of a SharedVolume. -/
def Silent (call : OperatorCall) : Prop :=
  call.operation? ≠ some (.sharedVolumes, .replaceStatus)

theorem Aside.silent {call : OperatorCall} (aside : call.Aside) : call.Silent := by
  cases call with
  | sharedVolumes call => exact aside.elim
  | volumes | claims | roster => simp [Silent, operation?]

/-- A call that does not write the status of a SharedVolume does not notice that this fails. -/
theorem Silent.unnoticed {call : OperatorCall} (silent : call.Silent) (world : World) :
    (World.perform call).run world.muted =
      (((World.perform call).run world).1, ((World.perform call).run world).2.muted) := by
  cases call with
  | sharedVolumes call =>
    have differs : call.operation ≠ .replaceStatus := fun same => silent (by rw [operation?, same])
    have performed := Store.perform_fail world.sharedVolumes differs
    exact congrArg (fun done : call.Answer × Store SharedVolume =>
      (done.1, { world with sharedVolumes := done.2 })) performed
  | volumes | claims | roster => rfl

/-- A report of progress: that a SharedVolume was noticed, or that it is ready. -/
def Promises (call : OperatorCall) : Prop :=
  ∃ sent : SharedVolume, call = .sharedVolumes (.replaceStatus sent) ∧
    (sent.phase? = some .pending ∨ sent.phase? = some .ready)

theorem Silent.not_promises {call : OperatorCall} (silent : call.Silent) : ¬call.Promises := by
  rintro ⟨sent, rfl, -⟩
  exact silent rfl

theorem not_promises_of_phase {sent : SharedVolume} {phase : Phase} (reports : sent.phase? = some phase)
    (pending : phase ≠ .pending) (ready : phase ≠ .ready) :
    ¬(OperatorCall.sharedVolumes (.replaceStatus sent)).Promises := by
  rintro ⟨_, same, promised⟩
  injection same with same
  injection same with same
  subst same
  rw [reports] at promised
  rcases promised with same | same
  · exact pending (Option.some.inj same)
  · exact ready (Option.some.inj same)

end OperatorCall

/-- Progress was reported, and with success. -/
def TellsProgress (journal : List (Program.Entry operatorInterface)) : Prop :=
  ∃ entry ∈ journal, entry.request.Promises ∧ entry.succeeded = true

theorem not_tellsProgress {journal : List (Program.Entry operatorInterface)}
    (silent : ∀ entry ∈ journal, entry.request.Silent) : ¬TellsProgress journal := by
  rintro ⟨entry, made, promises, -⟩
  exact (silent entry made).not_promises promises

/-- Calls that are no reports do not matter to what is told. -/
theorem tellsProgress_append {front rest : List (Program.Entry operatorInterface)}
    (silent : ∀ entry ∈ front, entry.request.Silent) :
    TellsProgress (front ++ rest) ↔ TellsProgress rest := by
  constructor
  · rintro ⟨entry, made, promises, succeeded⟩
    rcases List.mem_append.mp made with before | following
    · exact absurd promises (silent entry before).not_promises
    · exact ⟨entry, following, promises, succeeded⟩
  · rintro ⟨entry, made, told⟩
    exact ⟨entry, List.mem_append_right _ made, told⟩

theorem tellsProgress_cons {entry : Program.Entry operatorInterface}
    {rest : List (Program.Entry operatorInterface)} (silent : entry.request.Silent) :
    TellsProgress (entry :: rest) ↔ TellsProgress rest := by
  have front : ∀ other ∈ [entry], other.request.Silent := by simpa using silent
  exact tellsProgress_append front

/-- What reports leave alone of a SharedVolume: all but its status and its version. -/
def SharedVolume.unreported (shared : SharedVolume) : SharedVolume :=
  { shared with
    metadata := { shared.metadata with resourceVersion := none }
    status := none }

/-- Two worlds differ in what was reported, and in nothing else. -/
structure World.SameWork (world other : World) : Prop where
  volumes : other.volumes = world.volumes
  claims : other.claims = world.claims
  roster : other.roster = world.roster
  sharedVolumes (key : ObjectKey) : (other.sharedVolumes.object? key).map SharedVolume.unreported =
    (world.sharedVolumes.object? key).map SharedVolume.unreported

theorem World.sameWork_muted (world : World) : world.SameWork world.muted :=
  ⟨rfl, rfl, rfl, fun _ => rfl⟩

/-! ## Both runs of a task -/

/-- How the result of a task compares with its result where reports fail: they are the same, or else progress
was reported, the task succeeded with that, and the failed report is the result without. -/
inductive Compared {α : Type} (told untold : Except Failure α)
    (journal : List (Program.Entry operatorInterface)) : Prop where
  | same (same : untold = told) (untouched : ¬TellsProgress journal)
  | lost (value : α) (succeeded : told = .ok value) (tells : TellsProgress journal)
      (failed : untold = .error unreportable)

theorem Compared.of_iff {α : Type} {told untold : Except Failure α}
    {journal other : List (Program.Entry operatorInterface)} (compared : Compared told untold journal)
    (same : TellsProgress other ↔ TellsProgress journal) : Compared told untold other := by
  cases compared with
  | same equal untouched => exact .same equal (mt same.mp untouched)
  | lost value succeeded tells failed => exact .lost value succeeded (same.mpr tells) failed

namespace PassM

variable {α β : Type} {settings : Settings} {shared : SharedVolume} {world : World}

/-- Where reports fail, a task does the same work. -/
structure Alongside (task : PassM α) (shared : SharedVolume) (world : World) : Prop where
  work : World.SameWork (task.outcome shared world).2.2 (task.outcome shared world.muted).2.2
  results : Compared (task.outcome shared world).1 (task.outcome shared world.muted).1
    (task.journal shared world)

/-- A task without reports goes the same where they fail. -/
theorem Makes.outcome_muted {task : PassM α} (silent : task.Makes OperatorCall.Silent)
    (shared : SharedVolume) (world : World) : task.outcome shared world.muted =
      ((task.outcome shared world).1, (task.outcome shared world).2.1,
        (task.outcome shared world).2.2.muted) :=
  silent.outcome_change fun world _ silent => silent.unnoticed world

theorem Aside.silent {task : PassM α} (aside : task.Aside) : task.Makes OperatorCall.Silent :=
  fun shared => Program.Makes.imp (aside shared) (fun _ aside => aside.silent) fun _ _ => trivial

/-- A task that makes no reports of progress does not tell of any. -/
theorem Makes.untold {task : PassM α} (makes : task.Makes fun call => ¬call.Promises) :
    ¬TellsProgress (task.journal shared world) := by
  rintro ⟨entry, made, promises, -⟩
  exact makes.journal made promises

theorem Makes.alongside {task : PassM α} (silent : task.Makes OperatorCall.Silent) :
    Alongside task shared world := by
  constructor
  · rw [silent.outcome_muted]
    exact World.sameWork_muted _
  · rw [silent.outcome_muted]
    exact .same rfl (silent.imp fun _ silent => silent.not_promises).untold

/-- After a task without reports it is the rest that matters. -/
theorem Alongside.after {first : PassM α} {next : α → PassM β} {value : α} {shared' : SharedVolume}
    {world' : World} (silent : first.Makes OperatorCall.Silent)
    (ends : first.outcome shared world = (.ok value, shared', world'))
    (rest : Alongside (next value) shared' world') : Alongside (first >>= next) shared world := by
  have told : (first >>= next).outcome shared world = (next value).outcome shared' world' := by
    rw [outcome_bind, ends]
  have untold : (first >>= next).outcome shared world.muted = (next value).outcome shared' world'.muted := by
    rw [outcome_bind, silent.outcome_muted, ends]
  have journal : (first >>= next).journal shared world =
      first.journal shared world ++ (next value).journal shared' world' := by
    rw [journal_bind, ends]
  constructor
  · rw [told, untold]
    exact rest.work
  · rw [told, untold, journal]
    exact rest.results.of_iff (tellsProgress_append fun _ made => silent.journal made)

/-! ## Reports -/

theorem outcome_writeStatus_muted (status : SharedVolumeStatus) (shared : SharedVolume) (world : World) :
    (writeStatus status).outcome shared world.muted = (.error unreportable, shared, world.muted) := rfl

theorem Reported.sameWork {status : SharedVolumeStatus} {result : Except Failure Unit}
    {shared' : SharedVolume} {world' : World} (reported : Reported status shared world result shared' world')
    (held : world.sharedVolumes.object? shared.key = some shared) : world'.SameWork world.muted := by
  cases reported with
  | kept | failed => exact world.sameWork_muted
  | written puts =>
    refine ⟨rfl, rfl, rfl, fun key => ?_⟩
    by_cases own : shared.key = key
    · subst own
      rw [puts.object?_self]
      change (world.sharedVolumes.object? shared.key).map _ = _
      rw [held]
      rfl
    · rw [puts.object?_of_ne own]
      rfl

/-- Where a pass fails anyway, it does not matter whether that can be reported. -/
theorem alongside_reject (held : world.sharedVolumes.object? shared.key = some shared) (text : String)
    (failure : Failure) : Alongside (do
      reportFailure text
      throw failure : PassM Verdict) shared world := by
  have told : (do
      reportFailure text
      throw failure : PassM Verdict).Meets (fun _ _ => True)
      (fun result _ world' => result = .error failure ∧ world'.SameWork world.muted) shared world := by
    rw [meets_bind]
    exact meets_reportFailure trivial held fun result shared' world' reported =>
      ⟨rfl, reported.sameWork held⟩
  have lost : (reportFailure text).Still shared world.muted (.ok ()) := Told.still (.inr rfl)
  have untold : (do
      reportFailure text
      throw failure : PassM Verdict).outcome shared world.muted = (.error failure, shared, world.muted) := by
    rw [outcome_bind, still_iff.mp lost]
    rfl
  obtain ⟨failed, work⟩ := meets_iff_outcome.mp told
  have silent : (do
      reportFailure text
      throw failure : PassM Verdict).Makes fun call => ¬call.Promises :=
    (makes_report fun sent phase => OperatorCall.not_promises_of_phase phase (by decide)
      (by decide)).bestEffort.bind fun _ _ => trivial
  constructor
  · rw [untold]
    exact work
  · rw [untold, failed]
    exact .same rfl silent.untold

/-- A report of progress that comes last is lost where reports fail, and the pass fails. -/
theorem alongside_progress (held : world.sharedVolumes.object? shared.key = some shared)
    (working : world.sharedVolumes.failing .replaceStatus = false) {status : SharedVolumeStatus}
    (progress : status.phase = some .pending ∨ status.phase = some .ready) (verdict : Verdict) :
    Alongside (do
      writeStatus status
      return verdict : PassM Verdict) shared world := by
  have told : (do
      writeStatus status
      return verdict : PassM Verdict).Meets (fun _ _ => True)
      (fun result _ world' => result = .ok verdict ∧ world'.SameWork world.muted) shared world := by
    rw [meets_bind]
    refine meets_writeStatus trivial held ?_ ?_
    · exact fun failure faulty => absurd (working.symm.trans faulty) (by decide)
    · exact fun after puts => ⟨rfl, Reported.sameWork (.written puts) held⟩
  have untold : (do
      writeStatus status
      return verdict : PassM Verdict).outcome shared world.muted = (.error unreportable, shared, world.muted) := by
    rw [outcome_bind, outcome_writeStatus_muted]
  obtain ⟨succeeded, work⟩ := meets_iff_outcome.mp told
  have single := (single_writeStatus status shared world).pure verdict
  constructor
  · rw [untold]
    exact work
  · rw [untold, succeeded]
    refine .lost verdict rfl ?_ rfl
    rw [single.journal]
    refine ⟨_, List.mem_singleton_self _, ⟨_, rfl, ?_⟩, single.succeeded succeeded⟩
    simpa [SharedVolume.phase?_eq] using progress

/-! ## Stages -/

/-- With the same SharedVolume at hand, it is only what a task does then that matters. -/
theorem Alongside.of_perform {task other : PassM α} (alongside : Alongside other shared world)
    (same : task.perform shared = other.perform shared) : Alongside task shared world := by
  have outcome (world : World) : task.outcome shared world = other.outcome shared world := by
    rw [PassM.outcome, same]
    rfl
  constructor
  · rw [outcome, outcome]
    exact alongside.work
  · rw [outcome, outcome, PassM.journal, same]
    exact alongside.results

private theorem perform_bind {first other : PassM α} {next : α → PassM β}
    (same : first.perform shared = other.perform shared) :
    (first >>= next).perform shared = (other >>= next).perform shared :=
  congrArg (Program.bind · _) same

private theorem perform_report {phase : Phase} {message : String}
    (unsaid : (shared.status.getD {}).phase ≠ some phase) : (report phase message).perform shared =
      (writeStatus { shared.status.getD {} with phase := some phase, message }).perform shared := by
  change PassM.perform (if _ then _ else _ : PassM Unit) shared = _
  split
  · rename_i said
    exact absurd said.1 unsaid
  · rfl

private theorem perform_reportReady (claimName : String) (shared : SharedVolume) :
    (reportReady claimName).perform shared = (pure () : PassM Unit).perform shared ∨
      (reportReady claimName).perform shared = (writeStatus (readyStatus claimName)).perform shared := by
  change PassM.perform (if _ then _ else _ : PassM Unit) shared = _ ∨
    PassM.perform (if _ then _ else _ : PassM Unit) shared = _
  split
  · exact .inl rfl
  · exact .inr rfl

theorem alongside_conclude (held : world.sharedVolumes.object? shared.key = some shared)
    (working : world.sharedVolumes.failing .replaceStatus = false) (claimName : String)
    (result : Except Failure Unit) : Alongside (Stage.conclude claimName result) shared world := by
  rcases result with failure | ⟨⟩
  · exact alongside_reject held _ failure
  · rcases perform_reportReady claimName shared with said | unsaid
    · have silent : (pure () >>= fun _ => pure .settled : PassM Verdict).Makes OperatorCall.Silent :=
        (makes_pure ()).bind fun _ => makes_pure _
      exact silent.alongside.of_perform (perform_bind said)
    · exact (alongside_progress held working (.inr rfl) .settled).of_perform (perform_bind unsaid)

/-- The work of a stage goes alongside: what is lost is the report that a SharedVolume was noticed, or that
it is ready. -/
theorem alongside_work (settings : Settings) (held : world.sharedVolumes.object? shared.key = some shared)
    (working : world.sharedVolumes.failing .replaceStatus = false) :
    Alongside ((Stage.among world.volumes shared).work settings) shared world := by
  have reached := Stage.reached shared world.volumes
  generalize Stage.among world.volumes shared = stage at reached ⊢
  have replacing {change : SharedVolume → SharedVolume} : (do
      replace (change (← get))
      return .again : PassM Verdict).Makes OperatorCall.Silent :=
    makes_get.bind fun shared => (makes_replace (by simp [OperatorCall.Silent, OperatorCall.operation?,
      StoreCall.operation])).bind fun _ => makes_pure _
  cases reached with
  | stuck failure =>
    have throws : (Stage.work settings (.stuck failure)).Makes OperatorCall.Silent := fun _ => trivial
    exact throws.alongside
  | collided | invalid => exact alongside_reject held _ _
  | drifted => exact replacing.alongside
  | unregistered => exact replacing.alongside
  | unnoticed _ _ unnoticed =>
    have unsaid : (shared.status.getD {}).phase ≠ some .pending := by
      rw [← SharedVolume.phase?_eq, unnoticed]
      simp
    exact (alongside_progress held working (.inl rfl) .again).of_perform (perform_bind (perform_report unsaid))
  | serving =>
    have aside := aside_provision settings
    have kept := aside.kept shared world
    have attempted := outcome_attempt (provision settings) shared world
    generalize (provision settings).outcome shared world = final at kept attempted
    obtain ⟨result, shared', world'⟩ := final
    obtain ⟨rfl, sharedVolumes⟩ := kept
    rw [Stage.work]
    refine Alongside.of_perform (.after aside.silent.attempt attempted ?_) (perform_get _ shared')
    exact alongside_conclude (sharedVolumes ▸ held) (sharedVolumes ▸ working) _ _

/-! ## What reports write is not looked at -/

/-- A task leaves the copy at hand alone, and goes the same with one that differs in status and version. -/
def Blind (task : PassM α) : Prop :=
  ∀ (shared later : SharedVolume) (world : World), shared.Restated later → ∃ result after,
    task.outcome shared world = (result, shared, after) ∧ task.outcome later world = (result, later, after)

theorem blind_pure (value : α) : (pure value : PassM α).Blind :=
  fun _ _ world _ => ⟨.ok value, world, rfl, rfl⟩

theorem Blind.bind {task : PassM α} {next : α → PassM β} (blind : task.Blind)
    (rest : ∀ value, (next value).Blind) : (task >>= next).Blind := by
  intro shared later world restated
  obtain ⟨failure | value, after, first, other⟩ := blind shared later world restated
  · exact ⟨.error failure, after, by rw [outcome_bind, first], by rw [outcome_bind, other]⟩
  · obtain ⟨result, last, following, alike⟩ := rest value shared later after restated
    exact ⟨result, last, by rw [outcome_bind, first, ← following], by rw [outcome_bind, other, ← alike]⟩

theorem Blind.get {next : SharedVolume → PassM α} (blind : ∀ shared, (next shared).Blind)
    (same : ∀ shared later, shared.Restated later → next later = next shared) :
    (get >>= next).Blind := by
  intro shared later world restated
  rw [outcome_get, outcome_get, same shared later restated]
  exact blind shared shared later world restated

/-- Work aside from SharedVolumes is blind if it comes to the same with another copy at hand. -/
private theorem Aside.blind {task : PassM α} (aside : task.Aside)
    (same : ∀ (shared later : SharedVolume) (world : World) (wanted : Except Failure α → World → Prop),
      shared.Restated later → task.Meets (fun _ _ => True) (fun result _ => wanted result) shared world →
        task.Meets (fun _ _ => True) (fun result _ => wanted result) later world) : task.Blind := by
  intro shared later world restated
  have ends := same shared later world (fun result world' => (task.outcome shared world).1 = result ∧
    (task.outcome shared world).2.2 = world') restated (meets_iff_outcome.mpr ⟨rfl, rfl⟩)
  obtain ⟨result, after⟩ := meets_iff_outcome.mp ends
  refine ⟨(task.outcome shared world).1, (task.outcome shared world).2.2, ?_, ?_⟩
  · exact Prod.ext rfl (Prod.ext (aside.kept shared world).1 rfl)
  · exact Prod.ext result.symm (Prod.ext (aside.kept later world).1 after.symm)

theorem blind_fetchVolume (key : ObjectKey) : (fetchVolume key).Blind :=
  (aside_onVolumes _).blind fun _ _ _ _ _ meets => meets

theorem blind_withVolumeUnit (settings : Settings)
    (work : Upkeep PersistentVolume → StoreProgram PersistentVolume (Upkeep PersistentVolume)) :
    (withVolumeUnit settings work).Blind := by
  refine (aside_withVolumeUnit settings work).blind ?_
  rintro shared _ world wanted ⟨version, status, rfl⟩ meets
  rw [meets_withVolumeUnit] at meets ⊢
  exact meets

theorem blind_withClaimUnit (settings : Settings)
    (work : Upkeep PersistentVolumeClaim →
      StoreProgram PersistentVolumeClaim (Upkeep PersistentVolumeClaim)) :
    (withClaimUnit settings work).Blind := by
  refine (aside_withClaimUnit settings work).blind ?_
  rintro shared _ world wanted ⟨version, status, rfl⟩ meets
  rw [meets_withClaimUnit] at meets ⊢
  exact meets

theorem blind_removeDependents (settings : Settings) : (removeDependents settings).Blind := by
  refine (blind_withClaimUnit settings _).bind fun _ => .get (fun shared => ?_) ?_
  · refine (blind_fetchVolume _).bind fun volume => ?_
    split
    · exact blind_pure ()
    · exact blind_withVolumeUnit settings _
  · rintro shared _ ⟨version, status, rfl⟩
    rfl

/-! ## Retirement -/

/-- Two runs with copies at hand that are stored: one that could report the deletion, and one that could
not. -/
structure Beside (shared copy : SharedVolume) (world other : World) : Prop where
  restated : copy.Restated shared
  held : world.sharedVolumes.object? copy.key = some shared
  kept : other.sharedVolumes.object? copy.key = some copy
  replaces : other.sharedVolumes.failing .replace = world.sharedVolumes.failing .replace
  work : world.SameWork other

variable {copy : SharedVolume} {other : World}

private theorem Beside.own (beside : Beside shared copy world other) : shared.key = copy.key := by
  obtain ⟨version, status, rfl⟩ := beside.restated
  rfl

/-- Removing what depends on a SharedVolume is the same in both runs. -/
private theorem Beside.removed (beside : Beside shared copy world other) (settings : Settings) :
    ∃ result world' other', (removeDependents settings).outcome shared world = (result, shared, world') ∧
      (removeDependents settings).outcome copy other = (result, copy, other') ∧
      Beside shared copy world' other' := by
  have aside := aside_removeDependents settings
  obtain ⟨result, after, base, told⟩ := blind_removeDependents settings copy shared world beside.restated
  have same : { world with sharedVolumes := other.sharedVolumes } = other := by
    obtain ⟨volumes, claims, roster, -⟩ := beside.work
    rw [← volumes, ← claims, ← roster]
  have untold : (removeDependents settings).outcome copy other =
      (result, copy, { after with sharedVolumes := other.sharedVolumes }) := by
    rw [← same, aside.outcome, base]
  have unchanged : after.sharedVolumes = world.sharedVolumes := by
    have kept := aside.kept copy world
    rw [base] at kept
    exact kept.2
  refine ⟨result, after, _, told, untold, beside.restated, ?_, beside.kept, ?_, rfl, rfl, rfl, ?_⟩
  · rw [unchanged]
    exact beside.held
  · rw [unchanged]
    exact beside.replaces
  · rw [unchanged]
    exact beside.work.sharedVolumes

/-- What is left of a SharedVolume when the finalizer is taken back. -/
private def released (shared : SharedVolume) : Option SharedVolume :=
  if Store.Finishes (withoutFinalizer shared) shared then none
  else some (withoutFinalizer shared).unreported

private theorem meets_release (held : world.sharedVolumes.object? shared.key = some shared)
    (works : world.sharedVolumes.failing .replace = false) :
    (replace (withoutFinalizer shared)).Meets (fun _ _ => True) (fun result _ world' => result = .ok () ∧
      ∃ sharedVolumes, world' = { world with sharedVolumes } ∧ ∀ key,
        (sharedVolumes.object? key).map SharedVolume.unreported = if shared.key = key then released shared
          else (world.sharedVolumes.object? key).map SharedVolume.unreported) shared world := by
  refine meets_replace trivial held rfl rfl ?_ ?_ ?_
  · exact fun failure faulty => absurd (works.symm.trans faulty) (by decide)
  · intro after finishes drops
    refine ⟨rfl, after, rfl, fun key => ?_⟩
    rw [drops.object?, released, if_pos finishes]
    split <;> rfl
  · intro after stays puts
    have merged : Store.merged (withoutFinalizer shared) shared = withoutFinalizer shared :=
      merged_eq_self rfl rfl
    refine ⟨rfl, after, rfl, fun key => ?_⟩
    rw [puts.object?, released, if_neg stays, merged]
    split <;> rfl

/-- The finalizer is taken back in both runs, or in neither. -/
private theorem Beside.unregistered (beside : Beside shared copy world other) :
    ((replace (withoutFinalizer copy)).outcome copy other).1 =
        ((replace (withoutFinalizer shared)).outcome shared world).1 ∧
      ((replace (withoutFinalizer shared)).outcome shared world).2.2.SameWork
        ((replace (withoutFinalizer copy)).outcome copy other).2.2 := by
  have held := beside.held
  rw [← beside.own] at held
  cases works : world.sharedVolumes.failing .replace with
  | true =>
    have failed {shared : SharedVolume} {world : World}
        (fails : world.sharedVolumes.failing .replace = true) :
        (replace (withoutFinalizer shared)).Still shared world
          (.error (.internal ("injected " ++ Operation.replace.faultName ++ " failure"))) :=
      meets_replace_of_failing trivial fails ⟨rfl, rfl, rfl⟩
    rw [still_iff.mp (failed works), still_iff.mp (failed (beside.replaces.trans works))]
    exact ⟨rfl, beside.work⟩
  | false =>
    obtain ⟨told, stored, written, views⟩ := meets_iff_outcome.mp (meets_release held works)
    obtain ⟨untold, stored', written', views'⟩ :=
      meets_iff_outcome.mp (meets_release beside.kept (beside.replaces.trans works))
    have same : released shared = released copy := by
      obtain ⟨version, status, rfl⟩ := beside.restated
      rfl
    rw [told, untold, written, written']
    refine ⟨rfl, beside.work.volumes, beside.work.claims, beside.work.roster, fun key => ?_⟩
    rw [views, views', beside.work.sharedVolumes, beside.own, same]

theorem outcome_mapFailure (change : Failure → Failure) (task : PassM α) (shared : SharedVolume)
    (world : World) : (mapFailure change task).outcome shared world =
      ((task.outcome shared world).1.mapError change, (task.outcome shared world).2) := by
  have meets : (mapFailure change task).Meets (fun _ _ => True) (fun result shared' world' =>
      (result, shared', world') = ((task.outcome shared world).1.mapError change,
        (task.outcome shared world).2)) shared world := by
    rw [meets_mapFailure, meets_iff_outcome]
  exact meets_iff_outcome.mp meets

private theorem outcome_cleanUp (registered : shared.hasFinalizer = true) {removed : Except Failure Unit}
    {world' : World} (ends : (removeDependents settings).outcome shared world = (removed, shared, world')) :
    (cleanUp settings).outcome shared world = PassM.outcome (do
        ofResult removed
        mapFailure (fun failure => .finalizer failure.message) (replace (withoutFinalizer shared)))
      shared { world' with roster := world'.roster.dismiss shared.key } := by
  have dismissed : (dismiss shared.key).outcome shared world' =
      (.ok (), shared, { world' with roster := world'.roster.dismiss shared.key }) := rfl
  rw [cleanUp, outcome_get, if_pos registered, outcome_bind, outcome_attempt, ends]
  simp only
  rw [outcome_bind, dismissed]

/-- Cleaning up ends in the same way in both runs. -/
private theorem Beside.cleanedUp (beside : Beside shared copy world other) (settings : Settings) :
    ((cleanUp settings).outcome copy other).1 = ((cleanUp settings).outcome shared world).1 ∧
      ((cleanUp settings).outcome shared world).2.2.SameWork ((cleanUp settings).outcome copy other).2.2 := by
  have same : copy.hasFinalizer = shared.hasFinalizer := by
    obtain ⟨version, status, rfl⟩ := beside.restated
    rfl
  cases registered : shared.hasFinalizer with
  | false =>
    rw [cleanUp, outcome_get, outcome_get, same, registered]
    exact ⟨rfl, beside.work⟩
  | true =>
    obtain ⟨removed, world', other', told, untold, beside⟩ := beside.removed settings
    have dismissed : Beside shared copy { world' with roster := world'.roster.dismiss shared.key }
        { other' with roster := other'.roster.dismiss copy.key } := by
      refine ⟨beside.restated, beside.held, beside.kept, beside.replaces, beside.work.volumes,
        beside.work.claims, ?_, beside.work.sharedVolumes⟩
      rw [beside.work.roster, beside.own]
    rw [outcome_cleanUp registered told, outcome_cleanUp (same.trans registered) untold]
    rcases removed with failure | ⟨⟩
    · exact ⟨rfl, dismissed.work⟩
    · obtain ⟨result, work⟩ := dismissed.unregistered
      have freed (change : Failure → Failure) (shared : SharedVolume) (world : World) : PassM.outcome (do
          ofResult (.ok ())
          mapFailure change (replace (withoutFinalizer shared))) shared world =
            (((replace (withoutFinalizer shared)).outcome shared world).1.mapError change,
              ((replace (withoutFinalizer shared)).outcome shared world).2) :=
        outcome_mapFailure change _ shared world
      rw [freed, freed, result]
      exact ⟨rfl, work⟩

private theorem silent_cleanUp : (cleanUp settings).Makes OperatorCall.Silent := by
  refine makes_get.bind fun shared => ?_
  split
  · refine (aside_removeDependents settings).silent.attempt.bind fun removed => ?_
    refine (aside_onRoster _).silent.bind fun _ => (makes_ofResult removed).bind fun _ => ?_
    exact (makes_replace (by simp [OperatorCall.Silent, OperatorCall.operation?,
      StoreCall.operation])).mapFailure _
  · exact makes_pure ()

/-- Work on a deletion makes no reports of progress. -/
theorem untold_retire : ¬TellsProgress ((retire settings).journal shared world) := by
  have report : (report .deleting "").Makes fun call => ¬call.Promises :=
    makes_report fun sent phase => OperatorCall.not_promises_of_phase phase (by decide) (by decide)
  have cleanUp : (cleanUp settings).Makes fun call => ¬call.Promises :=
    silent_cleanUp.imp fun _ silent => silent.not_promises
  have retire : (retire settings).Makes fun call => ¬call.Promises :=
    report.bestEffort.bind fun _ => cleanUp.bind fun _ => makes_pure _
  exact retire.untold

private theorem outcome_retire {shared' : SharedVolume} {world' : World}
    (ends : (bestEffort (report .deleting "")).outcome shared world = (.ok (), shared', world')) :
    (retire settings).outcome shared world = (((cleanUp settings).outcome shared' world').1.map
      fun _ => .settled, ((cleanUp settings).outcome shared' world').2) := by
  rw [retire, outcome_bind, ends]
  simp only
  rw [outcome_bind]
  obtain ⟨failure | ⟨⟩, shared', world'⟩ := (cleanUp settings).outcome shared' world' <;> rfl

/-- Work on the deletion of a SharedVolume goes alongside. -/
theorem alongside_retire (settings : Settings) (held : world.sharedVolumes.object? shared.key = some shared) :
    Alongside (retire settings) shared world := by
  have told : (bestEffort (report .deleting "")).Meets (fun _ _ => True) (fun result shared' world' =>
      result = .ok () ∧ Beside shared' shared world' world.muted) shared world := by
    rw [meets_bestEffort]
    refine (meets_report trivial held).imp fun result shared' world' reported => ⟨rfl, ?_⟩
    obtain ⟨sharedVolumes, failing, same⟩ := reported.store
    have replaces : world'.sharedVolumes.failing .replace = world.sharedVolumes.failing .replace := by
      rw [same]
      exact congrFun failing _
    exact ⟨reported.restated, reported.held held, held, replaces.symm, reported.sameWork held⟩
  have untold : (bestEffort (report .deleting "")).Still shared world.muted (.ok ()) := Told.still (.inr rfl)
  obtain ⟨reported, beside⟩ := meets_iff_outcome.mp told
  obtain ⟨same, work⟩ := beside.cleanedUp settings
  have told : (retire settings).outcome shared world = _ := outcome_retire (Prod.ext reported rfl)
  have untold : (retire settings).outcome shared world.muted = _ := outcome_retire (still_iff.mp untold)
  constructor
  · rw [told, untold]
    exact work
  · rw [told, untold, same]
    exact .same rfl untold_retire

end PassM

end SharedMount
