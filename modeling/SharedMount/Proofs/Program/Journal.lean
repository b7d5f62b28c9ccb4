import SharedMount.Proofs.Program.Interference
import SharedMount.Proofs.Program.Outcome

/-! # The journal of a program

The journal of a run lists the calls that were made, each with its answer. The journal of two programs one
after the other is the one followed by the other (`journal_bind`), and what is known of a program whatever is
answered is known of its journal: which calls there are at all (`Makes.journal`), and how many of some sort
there can be (`AtMost.journal`).
-/

namespace SharedMount

namespace Program

variable {I : Interface} {σ α β : Type}

/-- A call that was made, and its answer. -/
structure Entry (I : Interface) where
  request : I.Call
  answer : I.Answer request

/-- The calls that a program makes from a state on, in their order. -/
def journal (perform : (request : I.Call) → StateM σ (I.Answer request)) :
    Program I α → σ → List (Entry I)
  | .done _, _ => []
  | .call request next, state =>
      let (answer, later) := (perform request).run state
      ⟨request, answer⟩ :: journal perform (next answer) later

/-- Whatever the answers are, a program makes at most so many of the calls that count. -/
def AtMost (counts : I.Call → Bool) : Program I α → Nat → Prop
  | .done _, _ => True
  | .call request next, budget =>
      (counts request).toNat ≤ budget ∧
        ∀ answer, (next answer).AtMost counts (budget - (counts request).toNat)

variable {perform : (request : I.Call) → StateM σ (I.Answer request)} {counts : I.Call → Bool}
  {kind : I.Call → Prop} {ends : α → Prop} {program : Program I α} {budget more : Nat}

/-- The journal goes on where the first of two programs ends. -/
theorem journal_bind (program : Program I α) (next : α → Program I β) (state : σ) :
    (program.bind next).journal perform state = program.journal perform state ++
      (next ((program.run perform).run state).1).journal perform ((program.run perform).run state).2 := by
  induction program generalizing state with
  | done value => rfl
  | call request rest ih => exact congrArg (List.cons _) (ih _ _)

theorem Makes.journal (makes : program.Makes kind ends) {state : σ} {entry : Entry I}
    (made : entry ∈ program.journal perform state) : kind entry.request := by
  induction program generalizing state with
  | done value => cases made
  | call request rest ih =>
    rcases List.mem_cons.mp made with rfl | made
    · exact makes.1
    · exact ih _ (makes.2 _) made

theorem AtMost.journal (atMost : program.AtMost counts budget) (state : σ) :
    (program.journal perform state).countP (fun entry => counts entry.request) ≤ budget := by
  induction program generalizing state budget with
  | done value => exact Nat.zero_le _
  | call request rest ih =>
    obtain ⟨affordable, atMost⟩ := atMost
    have bound := ih _ (atMost (perform request state).1) (perform request state).2
    have count : (Program.journal perform (.call request rest) state).countP
        (fun entry => counts entry.request) =
          (Program.journal perform (rest (perform request state).1) (perform request state).2).countP
            (fun entry => counts entry.request) + (counts request).toNat := by
      refine List.countP_cons.trans ?_
      cases counts request <;> rfl
    omega

theorem AtMost.mono (atMost : program.AtMost counts budget) (le : budget ≤ more) :
    program.AtMost counts more := by
  induction program generalizing budget more with
  | done value => trivial
  | call request rest ih =>
    exact ⟨Nat.le_trans atMost.1 le, fun answer => ih answer (atMost.2 answer) (Nat.sub_le_sub_right le _)⟩

theorem AtMost.bind {next : α → Program I β} (atMost : program.AtMost counts budget)
    (rest : ∀ value, (next value).AtMost counts more) :
    (program.bind next).AtMost counts (budget + more) := by
  induction program generalizing budget with
  | done value => exact (rest value).mono (Nat.le_add_left ..)
  | call request following ih =>
    obtain ⟨affordable, atMost⟩ := atMost
    refine ⟨by omega, fun answer => ?_⟩
    rw [Nat.sub_add_comm affordable]
    exact ih answer (atMost answer)

/-- A program that makes none of the calls that count makes at most any number of them. -/
theorem Makes.atMost (makes : program.Makes kind ends)
    (uncounted : ∀ request, kind request → counts request = false) (budget : Nat) :
    program.AtMost counts budget := by
  induction program with
  | done value => trivial
  | call request rest ih =>
    have free : (counts request).toNat = 0 := by rw [uncounted request makes.1, Bool.toNat_false]
    refine ⟨free ▸ Nat.zero_le _, fun answer => ?_⟩
    rw [free]
    exact ih answer (makes.2 answer)

theorem AtMost.embed {J : Interface} {request : I.Call → J.Call}
    {answer : (c : I.Call) → J.Answer (request c) → I.Answer c} {counts : J.Call → Bool}
    (atMost : program.AtMost (fun call => counts (request call)) budget) :
    (program.embed request answer).AtMost counts budget := by
  induction program generalizing budget with
  | done value => trivial
  | call c rest ih => exact ⟨atMost.1, fun given => ih (answer c given) (atMost.2 _)⟩

end Program

/-- The calls of a pass or another work of the operator, when nothing interferes. -/
def OperatorProgram.journal {α : Type} (program : OperatorProgram α) (world : World) :
    List (Program.Entry operatorInterface) :=
  Program.journal World.perform program.run world

namespace PassM

variable {α β : Type} {shared : SharedVolume} {world : World}

/-- The calls of a task, when nothing interferes. -/
def journal (task : PassM α) (shared : SharedVolume) (world : World) :
    List (Program.Entry operatorInterface) :=
  Program.journal World.perform (task.perform shared) world

theorem journal_bind (task : PassM α) (next : α → PassM β) (shared : SharedVolume) (world : World) :
    (task >>= next).journal shared world = task.journal shared world ++
      match task.outcome shared world with
      | (.ok value, shared', world') => (next value).journal shared' world'
      | (.error _, _, _) => [] := by
  refine (Program.journal_bind (task.perform shared) _ world).trans (congrArg _ ?_)
  simp only [outcome]
  generalize (Program.run World.perform (task.perform shared)).run world = final
  obtain ⟨⟨failure | value, shared'⟩, world'⟩ := final <;> rfl

theorem journal_get (next : SharedVolume → PassM α) (shared : SharedVolume) (world : World) :
    (get >>= next).journal shared world = (next shared).journal shared world := rfl

/-- What makes no calls adds nothing to a journal. -/
theorem journal_bind_silent {task : PassM α} {next : α → PassM β}
    (silent : ∀ value shared world, (next value).journal shared world = []) :
    (task >>= next).journal shared world = task.journal shared world := by
  rw [journal_bind]
  obtain ⟨failure | value, shared', world'⟩ := task.outcome shared world
  · exact List.append_nil _
  · simp only [silent, List.append_nil]

theorem journal_attempt (task : PassM α) (shared : SharedVolume) (world : World) :
    task.attempt.journal shared world = task.journal shared world :=
  (Program.journal_bind (task.perform shared) _ world).trans (List.append_nil _)

theorem Makes.journal {kind : OperatorCall → Prop} {task : PassM α} (makes : task.Makes kind)
    {entry : Program.Entry operatorInterface} (made : entry ∈ task.journal shared world) :
    kind entry.request :=
  Program.Makes.journal (makes shared) made

/-- Whatever is at hand and whatever is answered, a task makes at most so many of the calls that count. -/
def AtMost (counts : OperatorCall → Bool) (task : PassM α) (budget : Nat) : Prop :=
  ∀ shared, (task.perform shared).AtMost counts budget

variable {counts : OperatorCall → Bool} {budget more : Nat}

theorem AtMost.bind {task : PassM α} {next : α → PassM β} (atMost : task.AtMost counts budget)
    (rest : ∀ value, (next value).AtMost counts more) : (task >>= next).AtMost counts (budget + more) := by
  intro shared
  refine Program.AtMost.bind (atMost shared) ?_
  rintro ⟨failure | value, shared⟩
  · trivial
  · exact rest value shared

/-- What comes first makes none of the calls that count. -/
theorem AtMost.after {task : PassM α} {next : α → PassM β} (free : task.AtMost counts 0)
    (rest : ∀ value, (next value).AtMost counts budget) : (task >>= next).AtMost counts budget :=
  Nat.zero_add budget ▸ free.bind rest

/-- What follows makes none of the calls that count. -/
theorem AtMost.before {task : PassM α} {next : α → PassM β} (atMost : task.AtMost counts budget)
    (free : ∀ value, (next value).AtMost counts 0) : (task >>= next).AtMost counts budget :=
  Nat.add_zero budget ▸ atMost.bind free

theorem atMost_pure (value : α) : (pure value : PassM α).AtMost counts budget := fun _ => trivial

theorem atMost_throw (failure : Failure) : (throw failure : PassM α).AtMost counts budget :=
  fun _ => trivial

theorem atMost_get : (get : PassM SharedVolume).AtMost counts budget := fun _ => trivial

theorem AtMost.attempt {task : PassM α} (atMost : task.AtMost counts budget) :
    task.attempt.AtMost counts budget := by
  intro shared
  have attempted : (task.attempt.perform shared).AtMost counts (budget + 0) :=
    Program.AtMost.bind (atMost shared) fun _ => trivial
  exact attempted

theorem Makes.atMost {kind : OperatorCall → Prop} {task : PassM α} (makes : task.Makes kind)
    (uncounted : ∀ call, kind call → counts call = false) (budget : Nat) : task.AtMost counts budget :=
  fun shared => Program.Makes.atMost (makes shared) uncounted budget

theorem atMost_ofProgram {program : OperatorProgram α} (atMost : Program.AtMost counts program.run budget) :
    (ofProgram program).AtMost counts budget := by
  intro shared
  have lifted : ((ofProgram program).perform shared).AtMost counts (budget + 0) :=
    Program.AtMost.bind atMost fun _ => trivial
  exact lifted

end PassM

end SharedMount
