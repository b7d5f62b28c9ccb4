import SharedMount.Reconcile.World

/-! # What a program does without interference

`Meets` speaks about both sides of a program: every call that it makes is allowed in the state where
it is made, and what it ends with is wanted in the state that it leaves. The first side is how a law
of single calls becomes a law of whole programs (`Meets.invariant`), the second is what a program is
good for (`Meets.run`). The rules below take `Meets` apart along each of the ways in which the
programs of the operator are put together.
-/

namespace SharedMount

namespace Program

variable {I : Interface} {σ α β : Type}

/-- From a state on, a program makes calls only where they are allowed and ends as wanted. -/
def Meets (perform : (request : I.Call) → StateM σ (I.Answer request))
    (allowed : σ → I.Call → Prop) (wanted : α → σ → Prop) : Program I α → σ → Prop
  | .done value, state => wanted value state
  | .call request next, state =>
      allowed state request ∧ Meets perform allowed wanted
        (next ((perform request).run state).1) ((perform request).run state).2

variable {perform : (request : I.Call) → StateM σ (I.Answer request)}
  {allowed : σ → I.Call → Prop} {state : σ}

theorem meets_bind {wanted : β → σ → Prop} (program : Program I α) (next : α → Program I β) :
    (program.bind next).Meets perform allowed wanted state ↔
      program.Meets perform allowed (fun value => (next value).Meets perform allowed wanted) state := by
  induction program generalizing state with
  | done value => rfl
  | call request rest ih => exact and_congr_right fun _ => ih _

theorem meets_trivial (program : Program I α) (state : σ) :
    program.Meets perform (fun _ _ => True) (fun _ _ => True) state := by
  induction program generalizing state with
  | done value => trivial
  | call request rest ih => exact ⟨trivial, ih _ _⟩

theorem Meets.imp {wanted other : α → σ → Prop} {program : Program I α}
    (meets : program.Meets perform allowed wanted state)
    (implies : ∀ value state, wanted value state → other value state) :
    program.Meets perform allowed other state := by
  induction program generalizing state with
  | done value => exact implies _ _ meets
  | call request rest ih => exact ⟨meets.1, ih _ meets.2⟩

/-- What a program ends with is as wanted. -/
theorem Meets.run {wanted : α → σ → Prop} {program : Program I α}
    (meets : program.Meets perform allowed wanted state) :
    wanted ((program.run perform).run state).1 ((program.run perform).run state).2 := by
  induction program generalizing state with
  | done value => exact meets
  | call request rest ih => exact ih _ meets.2

/-- Along a program, what every allowed call keeps may be relied on, and it holds in the end. -/
theorem Meets.keeping {wanted : α → σ → Prop} {program : Program I α} {holds : σ → Prop}
    (meets : program.Meets perform allowed wanted state)
    (kept : ∀ state request, holds state → allowed state request →
      holds ((perform request).run state).2)
    (initial : holds state) :
    program.Meets perform allowed (fun value state => wanted value state ∧ holds state) state := by
  induction program generalizing state with
  | done value => exact ⟨meets, initial⟩
  | call request rest ih => exact ⟨meets.1, ih _ meets.2 (kept _ _ initial meets.1)⟩

/-- What every allowed call keeps is kept by the whole program. -/
theorem Meets.invariant {wanted : α → σ → Prop} {program : Program I α} {holds : σ → Prop}
    (meets : program.Meets perform allowed wanted state)
    (kept : ∀ state request, holds state → allowed state request →
      holds ((perform request).run state).2)
    (initial : holds state) : holds ((program.run perform).run state).2 :=
  (meets.keeping kept initial).run.2

theorem meets_embed {J : Interface} {τ : Type} {request : I.Call → J.Call}
    {answer : (c : I.Call) → J.Answer (request c) → I.Answer c}
    (perform : (request : I.Call) → StateM σ (I.Answer request))
    (outer : (c : J.Call) → StateM τ (J.Answer c)) {allowed : τ → J.Call → Prop}
    {wanted : α → τ → Prop} (place : σ → τ)
    (agrees : ∀ call state, answer call ((outer (request call)).run (place state)).1 =
        ((perform call).run state).1 ∧
      ((outer (request call)).run (place state)).2 = place ((perform call).run state).2)
    (program : Program I α) :
    (program.embed request answer).Meets outer allowed wanted (place state) ↔
      program.Meets perform (fun state call => allowed (place state) (request call))
        (fun value state => wanted value (place state)) state := by
  induction program generalizing state with
  | done value => rfl
  | call c rest ih =>
    obtain ⟨sameAnswer, sameState⟩ := agrees c state
    refine and_congr_right fun _ => ?_
    change (embed request answer (rest (answer c _))).Meets outer allowed wanted _ ↔ _
    rw [sameAnswer, sameState]
    exact ih _

end Program

/-- Work on one store: the calls are allowed, and the result is as wanted. -/
def StoreProgram.Meets {K α : Type} [Resource K] (allowed : Store K → StoreCall K → Prop)
    (wanted : Except Failure α → Store K → Prop) (program : StoreProgram K α) (store : Store K) :
    Prop :=
  Program.Meets (I := storeInterface K) Store.perform allowed wanted program.run store

/-- Work of the operator: the calls are allowed, and the result is as wanted. -/
def OperatorProgram.Meets {α : Type} (allowed : World → OperatorCall → Prop)
    (wanted : Except Failure α → World → Prop) (program : OperatorProgram α) (world : World) : Prop :=
  Program.Meets World.perform allowed wanted program.run world

/-- Work with a SharedVolume at hand: the calls are allowed, and the result is as wanted together with
the SharedVolume at hand in the end. -/
def PassM.Meets {α : Type} (allowed : World → OperatorCall → Prop)
    (wanted : Except Failure α → SharedVolume → World → Prop) (task : PassM α)
    (shared : SharedVolume) (world : World) : Prop :=
  Program.Meets World.perform allowed (fun result => wanted result.1 result.2) (task.perform shared)
    world

namespace StoreProgram

variable {K α β : Type} [Resource K] {allowed : Store K → StoreCall K → Prop} {store : Store K}

theorem meets_bind {wanted : Except Failure β → Store K → Prop} (program : StoreProgram K α)
    (next : α → StoreProgram K β) :
    (program >>= next).Meets allowed wanted store ↔
      program.Meets allowed (fun result store =>
        match result with
        | .ok value => (next value).Meets allowed wanted store
        | .error failure => wanted (.error failure) store) store := by
  refine (Program.meets_bind program.run _).trans ?_
  refine iff_of_eq (congrArg (fun wanted => Program.Meets _ allowed wanted program.run store) ?_)
  funext result store
  cases result <;> rfl

theorem meets_tryCatch {wanted : Except Failure α → Store K → Prop} (program : StoreProgram K α)
    (handle : Failure → StoreProgram K α) :
    (tryCatch program handle).Meets allowed wanted store ↔
      program.Meets allowed (fun result store =>
        match result with
        | .ok value => wanted (.ok value) store
        | .error failure => (handle failure).Meets allowed wanted store) store := by
  refine (Program.meets_bind program.run _).trans ?_
  refine iff_of_eq (congrArg (fun wanted => Program.Meets _ allowed wanted program.run store) ?_)
  funext result store
  cases result <;> rfl

theorem meets_get {wanted : Except Failure (Option K) → Store K → Prop} (key : ObjectKey) :
    (get key : StoreProgram K (Option K)).Meets allowed wanted store ↔
      allowed store (.get key) ∧ wanted (store.get key) store := Iff.rfl

theorem meets_create {wanted : Except Failure K → Store K → Prop} (object : K) :
    (create object).Meets allowed wanted store ↔ allowed store (.create object) ∧
      wanted (store.perform (.create object)).1 (store.perform (.create object)).2 := Iff.rfl

theorem meets_replace {wanted : Except Failure K → Store K → Prop} (object : K) :
    (replace object).Meets allowed wanted store ↔ allowed store (.replace object) ∧
      wanted (store.perform (.replace object)).1 (store.perform (.replace object)).2 := Iff.rfl

theorem meets_delete {wanted : Except Failure Unit → Store K → Prop} (key : ObjectKey) :
    (delete key).Meets allowed wanted store ↔ allowed store (.delete key) ∧
      wanted (store.perform (.delete key)).1 (store.perform (.delete key)).2 := Iff.rfl

theorem meets_replaceStatus {wanted : Except Failure K → Store K → Prop} (object : K) :
    (replaceStatus object).Meets allowed wanted store ↔ allowed store (.replaceStatus object) ∧
      wanted (store.perform (.replaceStatus object)).1 (store.perform (.replaceStatus object)).2 := Iff.rfl

theorem Meets.imp {wanted other : Except Failure α → Store K → Prop} {program : StoreProgram K α}
    (meets : program.Meets allowed wanted store)
    (implies : ∀ result store, wanted result store → other result store) :
    program.Meets allowed other store :=
  Program.Meets.imp meets implies

end StoreProgram

namespace OperatorProgram

variable {α β : Type} {allowed : World → OperatorCall → Prop} {world : World}

theorem meets_bind {wanted : Except Failure β → World → Prop} (program : OperatorProgram α)
    (next : α → OperatorProgram β) :
    (program >>= next).Meets allowed wanted world ↔
      program.Meets allowed (fun result world =>
        match result with
        | .ok value => (next value).Meets allowed wanted world
        | .error failure => wanted (.error failure) world) world := by
  refine (Program.meets_bind program.run _).trans ?_
  refine iff_of_eq (congrArg (fun wanted => Program.Meets _ allowed wanted program.run world) ?_)
  funext result world
  cases result <;> rfl

theorem meets_onSharedVolumes {wanted : Except Failure α → World → Prop}
    (program : StoreProgram SharedVolume α) :
    (onSharedVolumes program).Meets allowed wanted world ↔
      program.Meets (fun store call => allowed { world with sharedVolumes := store } (.sharedVolumes call))
        (fun result store => wanted result { world with sharedVolumes := store })
        world.sharedVolumes :=
  Program.meets_embed (I := storeInterface _) (J := operatorInterface) Store.perform World.perform
    (fun store => { world with sharedVolumes := store })
    (fun _ _ => ⟨rfl, rfl⟩) program.run

theorem meets_onVolumes {wanted : Except Failure α → World → Prop}
    (program : StoreProgram PersistentVolume α) :
    (onVolumes program).Meets allowed wanted world ↔
      program.Meets (fun store call => allowed { world with volumes := store } (.volumes call))
        (fun result store => wanted result { world with volumes := store }) world.volumes :=
  Program.meets_embed (I := storeInterface _) (J := operatorInterface) Store.perform World.perform
    (fun store => { world with volumes := store })
    (fun _ _ => ⟨rfl, rfl⟩) program.run

theorem meets_onClaims {wanted : Except Failure α → World → Prop}
    (program : StoreProgram PersistentVolumeClaim α) :
    (onClaims program).Meets allowed wanted world ↔
      program.Meets (fun store call => allowed { world with claims := store } (.claims call))
        (fun result store => wanted result { world with claims := store }) world.claims :=
  Program.meets_embed (I := storeInterface _) (J := operatorInterface) Store.perform World.perform
    (fun store => { world with claims := store })
    (fun _ _ => ⟨rfl, rfl⟩) program.run

theorem meets_onRoster (call : RosterCall) {wanted : Except Failure call.Answer → World → Prop} :
    (onRoster call).Meets allowed wanted world ↔ allowed world (.roster call) ∧
      wanted (.ok (world.roster.perform call).1)
        { world with roster := (world.roster.perform call).2 } := Iff.rfl

theorem Meets.run {wanted : Except Failure α → World → Prop} {program : OperatorProgram α}
    (meets : program.Meets allowed wanted world) :
    wanted (world.run program).1 (world.run program).2 :=
  Program.Meets.run meets

theorem Meets.invariant {wanted : Except Failure α → World → Prop} {program : OperatorProgram α}
    (meets : program.Meets allowed wanted world) (holds : World → Prop)
    (kept : ∀ world call, holds world → allowed world call → holds ((World.perform call).run world).2)
    (initial : holds world) : holds (world.run program).2 :=
  Program.Meets.invariant meets kept initial

end OperatorProgram

namespace PassM

variable {α β : Type} {allowed : World → OperatorCall → Prop} {shared : SharedVolume} {world : World}

@[simp] theorem meets_pure {wanted : Except Failure α → SharedVolume → World → Prop} (value : α) :
    (pure value : PassM α).Meets allowed wanted shared world ↔ wanted (.ok value) shared world := Iff.rfl

@[simp] theorem meets_throw {wanted : Except Failure α → SharedVolume → World → Prop}
    (failure : Failure) : (throw failure : PassM α).Meets allowed wanted shared world ↔
      wanted (.error failure) shared world := Iff.rfl

@[simp] theorem meets_get {wanted : Except Failure SharedVolume → SharedVolume → World → Prop} :
    (get : PassM SharedVolume).Meets allowed wanted shared world ↔
      wanted (.ok shared) shared world := Iff.rfl

theorem meets_bind {wanted : Except Failure β → SharedVolume → World → Prop} (task : PassM α)
    (next : α → PassM β) :
    (task >>= next).Meets allowed wanted shared world ↔
      task.Meets allowed (fun result shared world =>
        match result with
        | .ok value => (next value).Meets allowed wanted shared world
        | .error failure => wanted (.error failure) shared world) shared world := by
  refine (Program.meets_bind (task.perform shared) _).trans ?_
  refine iff_of_eq (congrArg (fun wanted => Program.Meets _ allowed wanted (task.perform shared) world) ?_)
  funext result world
  obtain ⟨result, shared⟩ := result
  cases result <;> rfl

theorem meets_ofProgram {wanted : Except Failure α → SharedVolume → World → Prop}
    (program : OperatorProgram α) :
    (ofProgram program).Meets allowed wanted shared world ↔
      program.Meets allowed (fun result => wanted result shared) world :=
  Program.meets_bind program.run _

theorem meets_attempt {wanted : Except Failure (Except Failure α) → SharedVolume → World → Prop}
    (task : PassM α) : task.attempt.Meets allowed wanted shared world ↔
      task.Meets allowed (fun result => wanted (.ok result)) shared world :=
  Program.meets_bind (task.perform shared) _

@[simp] theorem meets_ofResult {wanted : Except Failure α → SharedVolume → World → Prop}
    (result : Except Failure α) : (ofResult result).Meets allowed wanted shared world ↔
      wanted result shared world := Iff.rfl

theorem meets_bestEffort {wanted : Except Failure Unit → SharedVolume → World → Prop}
    (task : PassM Unit) : (bestEffort task).Meets allowed wanted shared world ↔
      task.Meets allowed (fun _ => wanted (.ok ())) shared world := by
  rw [bestEffort, meets_bind, meets_attempt]
  rfl

theorem meets_mapFailure {wanted : Except Failure α → SharedVolume → World → Prop}
    (change : Failure → Failure) (task : PassM α) :
    (mapFailure change task).Meets allowed wanted shared world ↔
      task.Meets allowed (fun result => wanted (result.mapError change)) shared world :=
  Program.meets_bind (task.perform shared) _

theorem Meets.imp {wanted other : Except Failure α → SharedVolume → World → Prop} {task : PassM α}
    (meets : task.Meets allowed wanted shared world)
    (implies : ∀ result shared world, wanted result shared world → other result shared world) :
    task.Meets allowed other shared world :=
  Program.Meets.imp meets fun result world => implies result.1 result.2 world

theorem Meets.keeping {wanted : Except Failure α → SharedVolume → World → Prop} {task : PassM α}
    {holds : World → Prop} (meets : task.Meets allowed wanted shared world)
    (kept : ∀ world call, holds world → allowed world call → holds ((World.perform call).run world).2)
    (initial : holds world) :
    task.Meets allowed (fun result shared world => wanted result shared world ∧ holds world) shared
      world :=
  Program.Meets.keeping meets kept initial

theorem meets_trivial (task : PassM α) (shared : SharedVolume) (world : World) :
    task.Meets (fun _ _ => True) (fun _ _ _ => True) shared world :=
  Program.meets_trivial (task.perform shared) world

end PassM

end SharedMount
