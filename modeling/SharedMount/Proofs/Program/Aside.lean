import SharedMount.Proofs.Program.Interference
import SharedMount.Proofs.Program.Outcome

/-! # Work aside from SharedVolumes

A program that makes calls of one kind only does not notice what such calls do not see, and leaves alone what
they do not touch. Work on volumes, claims and units is of that sort for the store of SharedVolumes: it goes
the same whatever is stored there.
-/

namespace SharedMount

namespace Program

variable {I : Interface} {σ α : Type} {kind : I.Call → Prop} {ends : α → Prop}
  {perform : (request : I.Call) → StateM σ (I.Answer request)} {state : σ} {program : Program I α}

theorem Makes.imp {other : I.Call → Prop} {wanted : α → Prop} (makes : program.Makes kind ends)
    (calls : ∀ request, kind request → other request) (values : ∀ value, ends value → wanted value) :
    program.Makes other wanted := by
  induction program with
  | done value => exact values value makes
  | call request rest ih => exact ⟨calls request makes.1, fun answer => ih answer (makes.2 answer)⟩

/-- A program whose calls are allowed everywhere meets what its calls keep. -/
theorem Makes.meets {allowed : σ → I.Call → Prop} {holds : σ → Prop} (makes : program.Makes kind ends)
    (may : ∀ state request, kind request → allowed state request)
    (kept : ∀ state request, holds state → kind request → holds ((perform request).run state).2)
    (initial : holds state) :
    program.Meets perform allowed (fun value state => ends value ∧ holds state) state := by
  induction program generalizing state with
  | done value => exact ⟨makes, initial⟩
  | call request rest ih =>
    exact ⟨may state request makes.1, ih _ (makes.2 _) (kept state request initial makes.1)⟩

/-- A change of the state that no call of a program notices is not noticed by the program. -/
theorem Makes.run_change (change : σ → σ) (state : σ) (makes : program.Makes kind ends)
    (unnoticed : ∀ state request, kind request → (perform request).run (change state) =
      (((perform request).run state).1, change ((perform request).run state).2)) :
    (program.run perform).run (change state) =
      (((program.run perform).run state).1, change ((program.run perform).run state).2) := by
  induction program generalizing state with
  | done value => rfl
  | call request rest ih =>
    change ((rest ((perform request).run (change state)).1).run perform).run
      ((perform request).run (change state)).2 = _
    rw [unnoticed state request makes.1]
    exact ih _ _ (makes.2 _)

end Program

/-- A call that is not to the store of SharedVolumes. -/
def OperatorCall.Aside : OperatorCall → Prop
  | sharedVolumes _ => False
  | volumes _ | claims _ | roster _ => True

theorem OperatorCall.Aside.sharedVolumes {call : OperatorCall} (aside : call.Aside) (world : World) :
    ((World.perform call).run world).2.sharedVolumes = world.sharedVolumes := by
  cases call with
  | sharedVolumes call => exact aside.elim
  | volumes | claims | roster => rfl

/-- Other SharedVolumes in the store make no difference to a call that is not to it. -/
theorem OperatorCall.Aside.unnoticed {call : OperatorCall} (aside : call.Aside) (world : World)
    (sharedVolumes : Store SharedVolume) :
    (World.perform call).run { world with sharedVolumes } =
      (((World.perform call).run world).1, { ((World.perform call).run world).2 with sharedVolumes }) := by
  cases call with
  | sharedVolumes call => exact aside.elim
  | volumes | claims | roster => rfl

namespace PassM

variable {α β : Type} {shared : SharedVolume} {world : World}

theorem Makes.imp {kind other : OperatorCall → Prop} {task : PassM α} (makes : task.Makes kind)
    (calls : ∀ call, kind call → other call) : task.Makes other :=
  fun shared => Program.Makes.imp (makes shared) calls fun _ made => made

/-- What a change of the world that no call of a task notices does to the outcome. -/
theorem Makes.outcome_change {kind : OperatorCall → Prop} {change : World → World} {task : PassM α}
    (makes : task.Makes kind)
    (unnoticed : ∀ world call, kind call → (World.perform call).run (change world) =
      (((World.perform call).run world).1, change ((World.perform call).run world).2)) :
    task.outcome shared (change world) = ((task.outcome shared world).1, (task.outcome shared world).2.1,
      change (task.outcome shared world).2.2) := by
  have ran := Program.Makes.run_change change world (makes shared) unnoticed
  simp only [outcome, ran]

/-- Whatever is answered, a task makes no call to the store of SharedVolumes, and the SharedVolume at hand
stays as it is. -/
def Aside (task : PassM α) : Prop :=
  ∀ shared, (task.perform shared).Makes OperatorCall.Aside fun result => result.2 = shared

theorem aside_pure (value : α) : (pure value : PassM α).Aside := fun _ => rfl

theorem aside_get : (get : PassM SharedVolume).Aside := fun _ => rfl

theorem Aside.bind {task : PassM α} {next : α → PassM β} (aside : task.Aside)
    (rest : ∀ value, (next value).Aside) : (task >>= next).Aside := by
  intro shared
  refine Program.Makes.bind (aside shared) ?_
  rintro ⟨failure | value, shared⟩ rfl
  · rfl
  · exact rest value shared

private theorem aside_ofProgram {program : OperatorProgram α}
    (aside : Program.Makes OperatorCall.Aside (fun _ => True) program.run) : (ofProgram program).Aside :=
  fun _ => Program.Makes.bind aside fun _ _ => rfl

theorem aside_onVolumes (program : StoreProgram PersistentVolume α) :
    (ofProgram (.onVolumes program)).Aside :=
  aside_ofProgram ((Program.makes_any program.run).embed fun _ _ => trivial)

theorem aside_onClaims (program : StoreProgram PersistentVolumeClaim α) :
    (ofProgram (.onClaims program)).Aside :=
  aside_ofProgram ((Program.makes_any program.run).embed fun _ _ => trivial)

theorem aside_onRoster (call : RosterCall) : (ofProgram (.onRoster call)).Aside := by
  have asks : Program.Makes OperatorCall.Aside (fun _ => True) (OperatorProgram.onRoster call).run :=
    ⟨trivial, fun _ => trivial⟩
  exact aside_ofProgram asks

theorem aside_withVolumeUnit (settings : Settings)
    (work : Upkeep PersistentVolume → StoreProgram PersistentVolume (Upkeep PersistentVolume)) :
    (withVolumeUnit settings work).Aside :=
  aside_get.bind fun _ => (aside_onRoster _).bind fun _ => (aside_onVolumes _).bind fun _ =>
    aside_onRoster _

theorem aside_withClaimUnit (settings : Settings)
    (work : Upkeep PersistentVolumeClaim →
      StoreProgram PersistentVolumeClaim (Upkeep PersistentVolumeClaim)) :
    (withClaimUnit settings work).Aside :=
  aside_get.bind fun _ => (aside_onRoster _).bind fun _ => (aside_onClaims _).bind fun _ =>
    aside_onRoster _

theorem aside_provision (settings : Settings) : (provision settings).Aside :=
  (aside_withVolumeUnit _ _).bind fun _ => aside_withClaimUnit _ _

theorem aside_removeDependents (settings : Settings) : (removeDependents settings).Aside := by
  refine (aside_withClaimUnit _ _).bind fun _ => aside_get.bind fun shared => ?_
  refine (aside_onVolumes _).bind fun volume => ?_
  split
  · exact aside_pure ()
  · exact aside_withVolumeUnit _ _

/-- Work aside from SharedVolumes leaves them alone. -/
theorem Aside.meets {allowed : World → OperatorCall → Prop} {task : PassM α} (aside : task.Aside)
    (may : ∀ world call, OperatorCall.Aside call → allowed world call) :
    task.Meets allowed (fun _ shared' world' => shared' = shared ∧
      world'.sharedVolumes = world.sharedVolumes) shared world := by
  refine (aside shared).meets may ?_ rfl
  intro during call same aside
  exact (aside.sharedVolumes during).trans same

theorem Aside.kept {task : PassM α} (aside : task.Aside) (shared : SharedVolume) (world : World) :
    (task.outcome shared world).2.1 = shared ∧
      (task.outcome shared world).2.2.sharedVolumes = world.sharedVolumes := by
  have kept : task.Meets (fun _ _ => True) (fun _ shared' world' => shared' = shared ∧
    world'.sharedVolumes = world.sharedVolumes) shared world := aside.meets fun _ _ _ => trivial
  exact meets_iff_outcome.mp kept

/-- Work aside from SharedVolumes goes the same whatever is stored there. -/
theorem Aside.outcome {task : PassM α} (aside : task.Aside) (sharedVolumes : Store SharedVolume) :
    task.outcome shared { world with sharedVolumes } = ((task.outcome shared world).1, shared,
      { (task.outcome shared world).2.2 with sharedVolumes }) := by
  have ran := Program.Makes.run_change (fun world => { world with sharedVolumes }) world (aside shared)
    fun world call aside => aside.unnoticed world sharedVolumes
  have changed : task.outcome shared { world with sharedVolumes } = ((task.outcome shared world).1,
      (task.outcome shared world).2.1, { (task.outcome shared world).2.2 with sharedVolumes }) := by
    simp only [PassM.outcome, ran]
  rw [changed, (aside.kept shared world).1]

end PassM

end SharedMount
