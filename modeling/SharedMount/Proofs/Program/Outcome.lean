import SharedMount.Proofs.Program.Meets
import SharedMount.Proofs.Store.Writes

/-! # The outcome of a program

Without interference a program has one outcome, and what it meets when it may make any call is a statement
about that. A task is still when its outcome leaves the SharedVolume at hand and the world as they are: then
it comes to the same however often it is done.
-/

namespace SharedMount

instance decidableEqExcept {ε α : Type} [DecidableEq ε] [DecidableEq α] : DecidableEq (Except ε α)
  | .ok value, .ok other => decidable_of_iff (value = other) (by simp)
  | .error failure, .error other => decidable_of_iff (failure = other) (by simp)
  | .ok _, .error _ | .error _, .ok _ => isFalse (by simp)

/-- What a program meets that may make any call is a matter of its outcome. -/
theorem Program.meets_iff_run {I : Interface} {σ α : Type}
    {perform : (request : I.Call) → StateM σ (I.Answer request)} {wanted : α → σ → Prop}
    (program : Program I α) (state : σ) :
    program.Meets perform (fun _ _ => True) wanted state ↔
      wanted ((program.run perform).run state).1 ((program.run perform).run state).2 := by
  induction program generalizing state with
  | done value => rfl
  | call request rest ih => exact (and_iff_right trivial).trans (ih _ _)

/-- The result of work on one store, and the store that is left. -/
def StoreProgram.outcome {K α : Type} [Resource K] (program : StoreProgram K α) (store : Store K) :
    Except Failure α × Store K :=
  (Program.run (I := storeInterface K) (m := StateM (Store K)) Store.perform program.run).run store

theorem StoreProgram.meets_iff_outcome {K α : Type} [Resource K]
    {wanted : Except Failure α → Store K → Prop} {program : StoreProgram K α} {store : Store K} :
    program.Meets (fun _ _ => True) wanted store ↔
      wanted (program.outcome store).1 (program.outcome store).2 :=
  Program.meets_iff_run (I := storeInterface K) program.run store

theorem StoreProgram.outcome_eq_iff {K α : Type} [Resource K] {program : StoreProgram K α}
    {store after : Store K} {result : Except Failure α} :
    program.outcome store = (result, after) ↔ program.Meets (fun _ _ => True)
      (fun result' after' => result' = result ∧ after' = after) store := by
  rw [meets_iff_outcome, Prod.ext_iff]

theorem StoreProgram.outcome_eq_of_isSome {K α : Type} [Resource K] {program : StoreProgram K α} {store : Store K}
    (succeeds : (program.outcome store).1.toOption.isSome) :
    ∃ value, program.outcome store = (.ok value, (program.outcome store).2) := by
  revert succeeds
  obtain ⟨failure | value, after⟩ := program.outcome store <;> intro succeeds
  · cases succeeds
  · exact ⟨value, rfl⟩

/-- What a program ends with may be taken for its outcome. -/
theorem StoreProgram.Meets.outcome {K α : Type} [Resource K]
    {wanted : Except Failure α → Store K → Prop} {program : StoreProgram K α} {store : Store K}
    (meets : program.Meets (fun _ _ => True) wanted store) :
    program.Meets (fun _ _ => True) (fun result after =>
      wanted result after ∧ program.outcome store = (result, after)) store :=
  meets_iff_outcome.mpr ⟨meets_iff_outcome.mp meets, rfl⟩

namespace PassM

variable {α β : Type} {shared : SharedVolume} {world : World}

/-- The result of a task, the SharedVolume at hand afterwards, and the world that is left. -/
def outcome (task : PassM α) (shared : SharedVolume) (world : World) :
    Except Failure α × SharedVolume × World :=
  let final := (Program.run World.perform (task.perform shared)).run world
  (final.1.1, final.1.2, final.2)

theorem meets_iff_outcome {wanted : Except Failure α → SharedVolume → World → Prop} {task : PassM α} :
    task.Meets (fun _ _ => True) wanted shared world ↔
      wanted (task.outcome shared world).1 (task.outcome shared world).2.1
        (task.outcome shared world).2.2 :=
  Program.meets_iff_run (task.perform shared) world

theorem outcome_bind (task : PassM α) (next : α → PassM β) (shared : SharedVolume) (world : World) :
    (task >>= next).outcome shared world =
      match task.outcome shared world with
      | (.ok value, shared', world') => (next value).outcome shared' world'
      | (.error failure, shared', world') => (.error failure, shared', world') := by
  have meets : (task >>= next).Meets (fun _ _ => True) (fun result shared' world' =>
      (result, shared', world') = match task.outcome shared world with
        | (.ok value, shared', world') => (next value).outcome shared' world'
        | (.error failure, shared', world') => (.error failure, shared', world')) shared world := by
    rw [meets_bind, meets_iff_outcome]
    obtain ⟨failure | value, shared', world'⟩ := task.outcome shared world
    · rfl
    · exact meets_iff_outcome.mpr rfl
  exact meets_iff_outcome.mp meets

/-- A task that succeeds has parts that succeed. -/
theorem outcome_bind_ok {task : PassM α} {next : α → PassM β} {value : β} {shared' : SharedVolume}
    {world' : World} (ends : (task >>= next).outcome shared world = (.ok value, shared', world')) :
    ∃ first shared₁ world₁, task.outcome shared world = (.ok first, shared₁, world₁) ∧
      (next first).outcome shared₁ world₁ = (.ok value, shared', world') := by
  rw [outcome_bind] at ends
  revert ends
  obtain ⟨failure | first, shared₁, world₁⟩ := task.outcome shared world <;> intro ends
  · cases ends
  · exact ⟨first, shared₁, world₁, rfl, ends⟩

theorem outcome_get (next : SharedVolume → PassM α) (shared : SharedVolume) (world : World) :
    (get >>= next).outcome shared world = (next shared).outcome shared world := rfl

theorem outcome_attempt (task : PassM α) (shared : SharedVolume) (world : World) :
    task.attempt.outcome shared world =
      (.ok (task.outcome shared world).1, (task.outcome shared world).2) := by
  have meets : task.attempt.Meets (fun _ _ => True) (fun result shared' world' =>
      (result, shared', world') = (.ok (task.outcome shared world).1, (task.outcome shared world).2))
      shared world := by
    rw [meets_attempt, meets_iff_outcome]
  exact meets_iff_outcome.mp meets

/-- What a task ends with may be taken for its outcome. -/
theorem Meets.outcome {wanted : Except Failure α → SharedVolume → World → Prop} {task : PassM α}
    (meets : task.Meets (fun _ _ => True) wanted shared world) :
    task.Meets (fun _ _ => True) (fun result shared' world' =>
      wanted result shared' world' ∧ task.outcome shared world = (result, shared', world')) shared world :=
  meets_iff_outcome.mpr ⟨meets_iff_outcome.mp meets, rfl⟩

/-- A task ends with a result and leaves the SharedVolume at hand and the world as they are. -/
def Still (task : PassM α) (shared : SharedVolume) (world : World) (result : Except Failure α) : Prop :=
  task.Meets (fun _ _ => True) (fun result' shared' world' =>
    result' = result ∧ shared' = shared ∧ world' = world) shared world

theorem still_iff {task : PassM α} {result : Except Failure α} :
    task.Still shared world result ↔ task.outcome shared world = (result, shared, world) := by
  rw [Still, meets_iff_outcome]
  obtain ⟨result', shared', world'⟩ := task.outcome shared world
  simp only [Prod.mk.injEq]

theorem Still.bind {first : PassM α} {next : α → PassM β} {value : α} {result : Except Failure β}
    (still : first.Still shared world (.ok value)) (rest : (next value).Still shared world result) :
    (first >>= next).Still shared world result := by
  rw [Still, meets_bind]
  refine still.imp ?_
  rintro _ _ _ ⟨rfl, rfl, rfl⟩
  exact rest

theorem Still.bind_error {first : PassM α} {next : α → PassM β} {failure : Failure}
    (still : first.Still shared world (.error failure)) :
    (first >>= next).Still shared world (.error failure) := by
  rw [Still, meets_bind]
  refine still.imp ?_
  rintro _ _ _ ⟨rfl, rfl, rfl⟩
  exact ⟨rfl, rfl, rfl⟩

theorem Still.attempt {task : PassM α} {result : Except Failure α}
    (still : task.Still shared world result) : task.attempt.Still shared world (.ok result) := by
  rw [Still, meets_attempt]
  refine still.imp ?_
  rintro _ _ _ ⟨rfl, rfl, rfl⟩
  exact ⟨rfl, rfl, rfl⟩

theorem Still.bestEffort {task : PassM Unit} {result : Except Failure Unit}
    (still : task.Still shared world result) : (bestEffort task).Still shared world (.ok ()) :=
  still.attempt.bind ⟨rfl, rfl, rfl⟩

theorem still_get : (get : PassM SharedVolume).Still shared world (.ok shared) :=
  ⟨rfl, rfl, rfl⟩

end PassM

/-- A pass over a stored SharedVolume is the work on it. -/
theorem World.reconcile_of_held {world : World} {key : ObjectKey} {shared : SharedVolume}
    {settings : Settings} {wanted : Except Failure Verdict → SharedVolume → World → Prop}
    (work : (PassM.pass settings).Meets (fun _ _ => True) wanted shared world)
    (readable : world.sharedVolumes.failing .get = false)
    (held : world.sharedVolumes.object? key = some shared) :
    ∃ shared', wanted (world.reconcile settings key).1 shared' (world.reconcile settings key).2 := by
  have ends : (PassM.pass settings).Meets (fun _ _ => True)
      (fun result _ world' => ∃ shared', wanted result shared' world') shared world :=
    work.imp fun _ shared' _ ends => ⟨shared', ends⟩
  have pass : (SharedMount.reconcile settings key).Meets (fun _ _ => True)
      (fun result world' => ∃ shared', wanted result shared' world') world := by
    rw [SharedMount.reconcile, OperatorProgram.meets_bind, OperatorProgram.meets_onSharedVolumes,
      StoreProgram.meets_get, Store.get_eq_ok_iff.mpr ⟨readable, held⟩]
    exact ⟨trivial, (Program.meets_bind ((PassM.pass settings).perform shared) _).mpr ends⟩
  exact pass.run

theorem World.reconcile_eq_of_held {settings : Settings} {key : ObjectKey} {shared : SharedVolume}
    {world : World} (readable : world.sharedVolumes.failing .get = false)
    (held : world.sharedVolumes.object? key = some shared) : world.reconcile settings key =
      (((PassM.pass settings).outcome shared world).1,
        ((PassM.pass settings).outcome shared world).2.2) := by
  have work : (PassM.pass settings).Meets (fun _ _ => True) (fun result shared' world' =>
      (result, shared', world') = (PassM.pass settings).outcome shared world) shared world :=
    PassM.meets_iff_outcome.mpr rfl
  obtain ⟨shared', ends⟩ := reconcile_of_held work readable held
  rw [← ends]

namespace PassM

variable {settings : Settings} {shared : SharedVolume} {world : World}
  {wanted : Except Failure Verdict → SharedVolume → World → Prop}

theorem meets_pass_of_stays (stays : shared.isDeleting = false) :
    (pass settings).Meets (fun _ _ => True) wanted shared world ↔
      (advance settings).Meets (fun _ _ => True) wanted shared world := by
  rw [pass, meets_bind, meets_get]
  simp only [stays, Bool.false_eq_true, ↓reduceIte]

theorem meets_pass_of_leaves (leaves : shared.isDeleting = true) :
    (pass settings).Meets (fun _ _ => True) wanted shared world ↔
      (retire settings).Meets (fun _ _ => True) wanted shared world := by
  rw [pass, meets_bind, meets_get]
  simp only [leaves, ↓reduceIte]

end PassM

end SharedMount
