import SharedMount.Proofs.Program.Strict
import SharedMount.Proofs.Reconcile.Recording
import SharedMount.Proofs.Run.Reachable
import SharedMount.Proofs.Store.Faults

/-! # Passes that no fault touched

A pass over a SharedVolume that is to stay is strict: when a call fails, so does the pass. A pass that succeeds
thus goes the same in a world where nothing is made to fail.
-/

namespace SharedMount

/-! ## Calls -/

/-- An answer that tells of a failure. -/
def OperatorCall.Failed (call : OperatorCall) (answer : call.Answer) : Prop :=
  call.succeeds answer = false

private theorem Store.perform_healed {K : Type} [Resource K] [StatusCarrier K] {store : Store K} {call : StoreCall K}
    (succeeded : Except.isOk (ε := Failure) (α := call.Value) (store.perform call).1 = true) :
    ({ store with failing := fun _ => false } : Store K).perform call =
      ((store.perform call).1, { (store.perform call).2 with failing := fun _ => false }) := by
  cases answer : (store.perform call).1 with
  | error failure =>
    rw [answer] at succeeded
    cases succeeded
  | ok value =>
    rw [← answer]
    exact perform_failing (working_of_perform answer).symm

/-- A call that succeeds goes the same where nothing is made to fail. -/
theorem OperatorCall.run_healed {call : OperatorCall} {world : World}
    (succeeded : ¬call.Failed ((World.perform call).run world).1) :
    (World.perform call).run (world.withFaults {}) =
      (((World.perform call).run world).1, ((World.perform call).run world).2.withFaults {}) := by
  have succeeded := Bool.not_eq_false _ ▸ succeeded
  cases call with
  | sharedVolumes call =>
    exact congrArg (fun done : call.Answer × Store SharedVolume =>
      (done.1, { world.withFaults {} with sharedVolumes := done.2 })) (Store.perform_healed succeeded)
  | volumes call =>
    exact congrArg (fun done : call.Answer × Store PersistentVolume =>
      (done.1, { world.withFaults {} with volumes := done.2 })) (Store.perform_healed succeeded)
  | claims call =>
    exact congrArg (fun done : call.Answer × Store PersistentVolumeClaim =>
      (done.1, { world.withFaults {} with claims := done.2 })) (Store.perform_healed succeeded)
  | roster call => rfl

/-- Establishing fails when one of its calls does. -/
theorem Upkeep.strict_establish {K : Type} [Resource K] (unit : Upkeep K) :
    Program.Strict (I := storeInterface K) (fun call answer =>
      Except.isOk (ε := Failure) (α := call.Value) answer = false)
      (fun result => Except.isOk result = false) unit.establish.run := by
  intro found
  rcases found with failure | _ | stored
  · exact ⟨trivial, fun _ => rfl⟩
  · refine ⟨fun created => ?_, fun failed => by cases failed⟩
    rcases created with failure | created
    · exact ⟨trivial, fun _ => rfl⟩
    · exact ⟨trivial, fun failed => by cases failed⟩
  · refine ⟨?_, fun failed => by cases failed⟩
    change Program.Strict _ _ (if _ then _ else _ : StoreProgram K (Upkeep K))
    split
    · trivial
    · intro updated
      rcases updated with failure | updated
      · exact ⟨trivial, fun _ => rfl⟩
      · exact ⟨trivial, fun failed => by cases failed⟩

/-! ## Tasks -/

namespace PassM

variable {α β : Type} {settings : Settings} {shared : SharedVolume} {world : World}

/-- After a failed call a task fails, whatever is answered from then on. -/
def Strict (task : PassM α) : Prop :=
  ∀ shared, (task.perform shared).Strict OperatorCall.Failed fun result => Except.isOk result.1 = false

/-- A task fails, whatever is answered to its calls. -/
def Fails (task : PassM α) : Prop :=
  ∀ shared, (task.perform shared).Makes (fun _ => True) fun result => Except.isOk result.1 = false

theorem strict_pure (value : α) : (pure value : PassM α).Strict := fun _ => trivial

theorem strict_get : (get : PassM SharedVolume).Strict := fun _ => trivial

theorem fails_throw (failure : Failure) : (throw failure : PassM α).Fails := fun _ => rfl

theorem Fails.strict {task : PassM α} (fails : task.Fails) : task.Strict :=
  fun shared => (fails shared).strict

theorem Fails.after {task : PassM α} {next : α → PassM β} (fails : ∀ value, (next value).Fails) :
    (task >>= next).Fails := by
  intro shared
  refine (Program.makes_any (task.perform shared)).bind ?_
  rintro ⟨failure | value, shared⟩ -
  · rfl
  · exact fails value shared

theorem Strict.bind {task : PassM α} {next : α → PassM β} (strict : task.Strict)
    (rest : ∀ value, (next value).Strict) : (task >>= next).Strict := by
  intro shared
  refine Program.Strict.bind (strict shared) ?_ ?_
  · rintro ⟨failure | value, shared⟩ failed
    · exact rfl
    · cases failed
  · rintro ⟨failure | value, shared⟩
    · trivial
    · exact rest value shared

/-- A failure that was caught is passed on in the end. -/
theorem Strict.bind_attempt {task : PassM α} {next : Except Failure α → PassM β} (strict : task.Strict)
    (rest : ∀ value, (next (.ok value)).Strict) (fails : ∀ failure, (next (.error failure)).Fails) :
    (task.attempt >>= next).Strict := by
  intro shared
  have attempted : (task.attempt.perform shared).Strict OperatorCall.Failed fun result =>
      ∃ failure, result.1 = .ok (.error failure) := by
    refine Program.Strict.bind (strict shared) ?_ fun _ => trivial
    rintro ⟨failure | value, shared⟩ failed
    · exact ⟨failure, rfl⟩
    · cases failed
  refine attempted.bind ?_ ?_
  · rintro ⟨_, shared⟩ ⟨failure, rfl⟩
    exact fails failure shared
  · rintro ⟨failure | failure | value, shared⟩
    · trivial
    · exact (fails failure).strict shared
    · exact rest value shared

private theorem strict_ofProgram {program : OperatorProgram α} (strict : Program.Strict
    OperatorCall.Failed (fun result => Except.isOk result = false) program.run) :
    (ofProgram program).Strict :=
  fun _ => strict.bind (fun _ failed => failed) fun _ => trivial

private theorem strict_onRoster (call : RosterCall) : (ofProgram (.onRoster call)).Strict := by
  have asks : Program.Strict OperatorCall.Failed (fun result => Except.isOk result = false)
      (OperatorProgram.onRoster call).run := fun _ => ⟨trivial, fun failed => by cases failed⟩
  exact strict_ofProgram asks

theorem strict_fetchVolume (key : ObjectKey) : (fetchVolume key).Strict := by
  have reads : Program.Strict OperatorCall.Failed (fun result => Except.isOk result = false)
      (OperatorProgram.onVolumes (StoreProgram.get key)).run := fun _ => ⟨trivial, fun failed => failed⟩
  exact strict_ofProgram reads

theorem strict_replace (updated : SharedVolume) : (replace updated).Strict := by
  have writes : Program.Strict OperatorCall.Failed (fun result => Except.isOk result = false)
      (OperatorProgram.onSharedVolumes (StoreProgram.replace updated)).run :=
    fun _ => ⟨trivial, fun failed => failed⟩
  exact (strict_ofProgram writes).bind fun _ _ => trivial

theorem strict_writeStatus (status : SharedVolumeStatus) : (writeStatus status).Strict := by
  refine strict_get.bind fun shared => ?_
  have writes : Program.Strict OperatorCall.Failed (fun result => Except.isOk result = false)
      (OperatorProgram.onSharedVolumes (StoreProgram.replaceStatus { shared with status := some status })).run :=
    fun _ => ⟨trivial, fun failed => failed⟩
  exact (strict_ofProgram writes).bind fun _ _ => trivial

theorem strict_report (phase : Phase) (message : String) : (report phase message).Strict := by
  refine strict_get.bind fun shared => ?_
  simp only
  split
  · exact strict_pure ()
  · exact strict_writeStatus _

theorem strict_reportReady (claimName : String) : (reportReady claimName).Strict := by
  refine strict_get.bind fun shared => ?_
  simp only
  split
  · exact strict_pure ()
  · exact strict_writeStatus _

theorem strict_provision (settings : Settings) : (provision settings).Strict := by
  have volume : (withVolumeUnit settings Upkeep.establish).Strict := by
    refine strict_get.bind fun shared => (strict_onRoster _).bind fun unit => ?_
    have establishes : Program.Strict OperatorCall.Failed (fun result => Except.isOk result = false)
        (OperatorProgram.onVolumes (Upkeep.establish unit)).run :=
      (Upkeep.strict_establish unit).embed fun _ _ failed => failed
    exact (strict_ofProgram establishes).bind fun unit => strict_onRoster _
  have claim : (withClaimUnit settings Upkeep.establish).Strict := by
    refine strict_get.bind fun shared => (strict_onRoster _).bind fun unit => ?_
    have establishes : Program.Strict OperatorCall.Failed (fun result => Except.isOk result = false)
        (OperatorProgram.onClaims (Upkeep.establish unit)).run :=
      (Upkeep.strict_establish unit).embed fun _ _ failed => failed
    exact (strict_ofProgram establishes).bind fun unit => strict_onRoster _
  exact volume.bind fun _ => claim

/-! ## Passes -/

private theorem fails_reject (text : String) (failure : Failure) : (do
    reportFailure text
    throw failure : PassM Verdict).Fails :=
  .after fun _ => fails_throw failure

theorem strict_work (stage : Stage) : (stage.work settings).Strict := by
  cases stage with
  | stuck failure => exact (fails_throw failure).strict
  | reject text failure => exact (fails_reject text failure).strict
  | revert spec => exact strict_get.bind fun shared => (strict_replace _).bind fun _ => strict_pure _
  | register => exact strict_get.bind fun shared => (strict_replace _).bind fun _ => strict_pure _
  | notice => exact (strict_report _ _).bind fun _ => strict_pure _
  | serve =>
    refine strict_get.bind fun shared => (strict_provision settings).bind_attempt ?_ ?_
    · exact fun _ => (strict_reportReady _).bind fun _ => strict_pure _
    · exact fun failure => fails_reject failure.message failure

theorem strict_advance (settings : Settings) : (advance settings).Strict := by
  rw [advance_eq]
  refine strict_get.bind fun shared => (strict_fetchVolume _).bind_attempt ?_ ?_
  · exact fun found => strict_work _
  · exact fun failure => fails_throw failure

/-- A strict task that succeeds goes the same where nothing is made to fail. -/
theorem Strict.outcome_healed {task : PassM α} (strict : task.Strict) {value : α}
    (succeeded : (task.outcome shared world).1 = .ok value) :
    task.outcome shared (world.withFaults {}) = (.ok value, (task.outcome shared world).2.1,
      (task.outcome shared world).2.2.withFaults {}) := by
  have well : ¬Except.isOk (task.outcome shared world).1 = false := by
    rw [succeeded]
    exact fun failed => by cases failed
  have ran : (Program.run World.perform (task.perform shared)).run (world.withFaults {}) = _ :=
    (strict shared).run_change (fun _ _ => OperatorCall.run_healed) world well
  rw [← succeeded]
  simp only [outcome, ran]

end PassM

/-- A pass that succeeds over a SharedVolume which is to stay goes the same where nothing is made to fail. -/
theorem World.reconcile_healed {settings : Settings} {key : ObjectKey} {shared : SharedVolume} {world : World}
    {verdict : Verdict} (held : world.sharedVolumes.object? key = some shared)
    (stays : shared.isDeleting = false) (succeeded : (world.reconcile settings key).1 = .ok verdict) :
    (world.withFaults {}).reconcile settings key =
      (.ok verdict, (world.reconcile settings key).2.withFaults {}) := by
  have readable := readable_of_succeeded succeeded
  have readable' : (world.withFaults {}).sharedVolumes.failing .get = false := rfl
  have held' : (world.withFaults {}).sharedVolumes.object? key = some shared := held
  have same (world : World) :
      (PassM.pass settings).outcome shared world = (PassM.advance settings).outcome shared world := by
    rw [PassM.outcome, PassM.perform_pass_of_stays stays]
    rfl
  rw [reconcile_eq_of_held readable held, same] at succeeded ⊢
  rw [reconcile_eq_of_held readable' held', same, (PassM.strict_advance settings).outcome_healed succeeded]

end SharedMount
