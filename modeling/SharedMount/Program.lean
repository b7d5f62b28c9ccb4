/-! # Programs that call an interface

What the operator does is written as a `Program`: a value that is either done, or makes one call and
goes on with its answer. Who answers is left open. `Program.run` has each call answered by a
performer, which may be an in-memory store, a connection to an API server, or anything else; between
two calls of a program other programs may take their turns.
-/

namespace SharedMount

/-- The calls that a program may make, and the type of the answer to each. -/
structure Interface where
  Call : Type
  Answer : Call → Type

/-- A program that makes calls to an interface and ends with a value. -/
inductive Program (I : Interface) (α : Type) : Type where
  | done (value : α)
  | call (request : I.Call) (next : I.Answer request → Program I α)

namespace Program

variable {I J : Interface} {α β : Type}

/-- A program followed by one that depends on its value. -/
def bind (program : Program I α) (next : α → Program I β) : Program I β :=
  match program with
  | .done value => next value
  | .call request rest => .call request fun answer => (rest answer).bind next

instance : Monad (Program I) where
  pure := .done
  bind := bind

/-- The program that makes one call and ends with its answer. -/
def ask (request : I.Call) : Program I (I.Answer request) :=
  .call request .done

/-- Run a program, each call being answered by a performer. -/
def run {m : Type → Type} [Monad m] (perform : (request : I.Call) → m (I.Answer request)) :
    Program I α → m α
  | .done value => pure value
  | .call request next => do
      let answer ← perform request
      run perform (next answer)

/-- The same program at a larger interface that answers its calls as it expects. -/
def embed (request : I.Call → J.Call) (answer : (c : I.Call) → J.Answer (request c) → I.Answer c) :
    Program I α → Program J α
  | .done value => .done value
  | .call c next => .call (request c) fun given => embed request answer (next (answer c given))

theorem bind_done (program : Program I α) : program.bind .done = program := by
  induction program with
  | done value => rfl
  | call request next ih => simp only [bind, ih]

theorem bind_assoc {γ : Type} (program : Program I α) (first : α → Program I β)
    (second : β → Program I γ) :
    (program.bind first).bind second = program.bind fun value => (first value).bind second := by
  induction program with
  | done value => rfl
  | call request next ih => simp only [bind, ih]

instance : LawfulMonad (Program I) :=
  LawfulMonad.mk' (Program I) bind_done (fun _ _ => rfl) bind_assoc

end Program

end SharedMount
