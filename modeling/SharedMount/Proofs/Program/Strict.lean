import SharedMount.Proofs.Program.Interference

/-! # Programs that fail when a call fails

A program is strict if no failed call can be made good: whatever is answered after it, the program ends badly.
So a strict program that ends well had no call fail, and a change of the state that only failing calls would
notice makes no difference to it.
-/

namespace SharedMount.Program

variable {I : Interface} {σ α β : Type}

/-- After a failed call a program ends badly, whatever is answered from then on. -/
def Strict (failed : (request : I.Call) → I.Answer request → Prop) (bad : α → Prop) : Program I α → Prop
  | .done _ => True
  | .call request next => ∀ answer, (next answer).Strict failed bad ∧
      (failed request answer → (next answer).Makes (fun _ => True) bad)

variable {failed : (request : I.Call) → I.Answer request → Prop} {bad : α → Prop} {program : Program I α}
  {perform : (request : I.Call) → StateM σ (I.Answer request)}

theorem Makes.ends_run {kind : I.Call → Prop} {ends : α → Prop} (makes : program.Makes kind ends)
    (state : σ) : ends ((program.run perform).run state).1 := by
  induction program generalizing state with
  | done value => exact makes
  | call request rest ih => exact ih _ (makes.2 _) _

/-- A program that ends badly in any case is strict. -/
theorem Makes.strict (makes : program.Makes (fun _ => True) bad) : program.Strict failed bad := by
  induction program with
  | done value => trivial
  | call request rest ih => exact fun answer => ⟨ih answer (makes.2 answer), fun _ => makes.2 answer⟩

theorem Strict.bind {bad' : β → Prop} {next : α → Program I β} (strict : program.Strict failed bad)
    (carried : ∀ value, bad value → (next value).Makes (fun _ => True) bad')
    (rest : ∀ value, (next value).Strict failed bad') : (program.bind next).Strict failed bad' := by
  induction program with
  | done value => exact rest value
  | call request following ih =>
    intro answer
    exact ⟨ih answer (strict answer).1, fun fails => ((strict answer).2 fails).bind carried⟩

theorem Strict.embed {J : Interface} {request : I.Call → J.Call}
    {answer : (call : I.Call) → J.Answer (request call) → I.Answer call}
    {failed' : (request : J.Call) → J.Answer request → Prop} (strict : program.Strict failed bad)
    (same : ∀ call given, failed' (request call) given → failed call (answer call given)) :
    (program.embed request answer).Strict failed' bad := by
  induction program with
  | done value => trivial
  | call call rest ih =>
    intro given
    obtain ⟨strict, fatal⟩ := strict (answer call given)
    exact ⟨ih _ strict, fun fails => (fatal (same call given fails)).embed fun _ _ => trivial⟩

/-- A strict program that ends well goes the same after a change that no call notices which succeeds. -/
theorem Strict.run_change {change : σ → σ} (strict : program.Strict failed bad)
    (unnoticed : ∀ state request, ¬failed request ((perform request).run state).1 →
      (perform request).run (change state) =
        (((perform request).run state).1, change ((perform request).run state).2))
    (state : σ) (well : ¬bad ((program.run perform).run state).1) :
    (program.run perform).run (change state) =
      (((program.run perform).run state).1, change ((program.run perform).run state).2) := by
  induction program generalizing state with
  | done value => rfl
  | call request rest ih =>
    obtain ⟨strict, fatal⟩ := strict ((perform request).run state).1
    have succeeded : ¬failed request ((perform request).run state).1 :=
      fun fails => well ((fatal fails).ends_run _)
    change ((rest ((perform request).run (change state)).1).run perform).run
      ((perform request).run (change state)).2 = _
    rw [unnoticed state request succeeded]
    exact ih _ strict _ well

end SharedMount.Program
