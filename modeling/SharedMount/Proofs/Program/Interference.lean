import SharedMount.Proofs.Program.Meets

/-! # What a program does under interference

Between two calls of a program others may act. `Withstands` is `Meets` with that in mind: each call finds
the state that others have made of the one that the call before it left. `Makes` is about the program alone,
whatever is answered to its calls; that is all that has to be known of a part whose answers do not matter
(`Makes.withstands`).
-/

namespace SharedMount

namespace Program

variable {I : Interface} {σ α β : Type}

/-- Whatever the answers are, a program makes calls of one kind only, and ends with a value of one kind. -/
def Makes (kind : I.Call → Prop) (ends : α → Prop) : Program I α → Prop
  | .done value => ends value
  | .call request next => kind request ∧ ∀ answer, (next answer).Makes kind ends

/-- From a state on, and whatever others do between the calls, a program makes calls only where they are
allowed and ends as wanted. -/
def Withstands (perform : (request : I.Call) → StateM σ (I.Answer request)) (between : σ → σ → Prop)
    (allowed : σ → I.Call → Prop) (wanted : α → σ → Prop) : Program I α → σ → Prop
  | .done value, state => wanted value state
  | .call request next, state => ∀ later, between state later →
      allowed later request ∧ Withstands perform between allowed wanted
        (next ((perform request).run later).1) ((perform request).run later).2

variable {kind : I.Call → Prop} {perform : (request : I.Call) → StateM σ (I.Answer request)}
  {between : σ → σ → Prop} {allowed : σ → I.Call → Prop} {state : σ}

theorem Makes.bind {ends : α → Prop} {wanted : β → Prop} {program : Program I α} {next : α → Program I β}
    (makes : program.Makes kind ends) (rest : ∀ value, ends value → (next value).Makes kind wanted) :
    (program.bind next).Makes kind wanted := by
  induction program with
  | done value => exact rest value makes
  | call request following ih => exact ⟨makes.1, fun answer => ih answer (makes.2 answer)⟩

theorem makes_any (program : Program I α) : program.Makes (fun _ => True) fun _ => True := by
  induction program with
  | done value => trivial
  | call request rest ih => exact ⟨trivial, ih⟩

theorem Makes.embed {J : Interface} {request : I.Call → J.Call}
    {answer : (c : I.Call) → J.Answer (request c) → I.Answer c} {inner : I.Call → Prop}
    {kind : J.Call → Prop} {ends : α → Prop} {program : Program I α} (makes : program.Makes inner ends)
    (every : ∀ call, inner call → kind (request call)) : (program.embed request answer).Makes kind ends := by
  induction program with
  | done value => exact makes
  | call c rest ih => exact ⟨every c makes.1, fun given => ih (answer c given) (makes.2 _)⟩

theorem embed_bind {J : Interface} (request : I.Call → J.Call)
    (answer : (c : I.Call) → J.Answer (request c) → I.Answer c) (program : Program I α)
    (next : α → Program I β) :
    (program.bind next).embed request answer =
      (program.embed request answer).bind fun value => (next value).embed request answer := by
  induction program with
  | done value => rfl
  | call c rest ih => simp only [bind, embed, ih]

theorem withstands_bind {wanted : β → σ → Prop} (program : Program I α) (next : α → Program I β) :
    (program.bind next).Withstands perform between allowed wanted state ↔
      program.Withstands perform between allowed
        (fun value => (next value).Withstands perform between allowed wanted) state := by
  induction program generalizing state with
  | done value => rfl
  | call request rest ih =>
    exact forall_congr' fun _ => imp_congr_right fun _ => and_congr_right fun _ => ih _

theorem Withstands.imp {wanted other : α → σ → Prop} {program : Program I α}
    (withstands : program.Withstands perform between allowed wanted state)
    (implies : ∀ value state, wanted value state → other value state) :
    program.Withstands perform between allowed other state := by
  induction program generalizing state with
  | done value => exact implies _ _ withstands
  | call request rest ih =>
    intro later meanwhile
    obtain ⟨may, withstands⟩ := withstands later meanwhile
    exact ⟨may, ih _ withstands⟩

/-- What the calls of one kind keep, and others keep too, holds to the end of a program that makes no other
calls. -/
theorem Makes.withstands {holds : σ → Prop} {ends : α → Prop} {program : Program I α}
    (makes : program.Makes kind ends)
    (stable : ∀ state later, holds state → between state later → holds later)
    (may : ∀ state request, holds state → kind request → allowed state request)
    (kept : ∀ state request, holds state → kind request → holds ((perform request).run state).2)
    (initial : holds state) :
    program.Withstands perform between allowed (fun _ => holds) state := by
  induction program generalizing state with
  | done value => exact initial
  | call request rest ih =>
    intro later meanwhile
    have holding := stable _ _ initial meanwhile
    exact ⟨may later request holding makes.1, ih _ (makes.2 _) (kept later request holding makes.1)⟩

end Program

/-- Withdrawing leaves a unit that has seen nothing. -/
theorem Upkeep.makes_withdraw {K : Type} [Resource K] {kind : StoreCall K → Prop} (unit : Upkeep K)
    (reads : kind (.get unit.key)) (deletes : kind (.delete unit.key)) :
    Program.Makes (I := storeInterface K) kind
      (fun result => ∀ later, result = .ok later → later = { unit with latest := none })
      unit.withdraw.run := by
  refine ⟨reads, fun found => ?_⟩
  rcases found with failure | _ | stored
  · exact fun _ failed => absurd failed (by simp)
  · rintro _ ⟨⟩
    rfl
  · have handled (failure : Failure) : Program.Makes (I := storeInterface K) kind (fun _ => True)
        (if failure.isNotFound then pure () else throw failure : StoreProgram K Unit).run := by
      split <;> trivial
    have deletion : Program.Makes (I := storeInterface K) kind (fun _ => True)
        (tryCatch (StoreProgram.delete unit.key) fun failure =>
          if failure.isNotFound then pure () else throw failure : StoreProgram K Unit).run := by
      refine ⟨deletes, fun deleted => ?_⟩
      rcases deleted with failure | ⟨⟩
      · exact handled failure
      · trivial
    refine Program.Makes.bind (α := Except Failure Unit) deletion ?_
    rintro (failure | ⟨⟩) -
    · exact fun _ failed => absurd failed (by simp)
    · rintro _ ⟨⟩
      rfl

namespace OperatorProgram

variable {α β : Type} {kind : OperatorCall → Prop}

theorem onVolumes_bind (program : StoreProgram PersistentVolume α)
    (next : α → StoreProgram PersistentVolume β) :
    onVolumes (program >>= next) = onVolumes program >>= fun value => onVolumes (next value) := by
  refine (Program.embed_bind _ _ program.run _).trans ?_
  refine congrArg (Program.bind (onVolumes program)) (funext fun result => ?_)
  cases result <;> rfl

end OperatorProgram

namespace PassM

variable {α β : Type}

theorem ofProgram_bind (program : OperatorProgram α) (next : α → OperatorProgram β) :
    ofProgram (program >>= next) = ofProgram program >>= fun value => ofProgram (next value) := by
  funext shared
  change Program.bind (Program.bind program.run _) _ = Program.bind (Program.bind program.run _) _
  rw [Program.bind_assoc, Program.bind_assoc]
  refine congrArg (Program.bind program.run) (funext fun result => ?_)
  cases result <;> rfl

/-! ## Calls, whatever is answered -/

section Makes

variable {kind : OperatorCall → Prop}

/-- Whatever is at hand and whatever is answered, a task makes calls of one kind only. -/
def Makes (kind : OperatorCall → Prop) (task : PassM α) : Prop :=
  ∀ shared, (task.perform shared).Makes kind fun _ => True

theorem makes_pure (value : α) : (pure value : PassM α).Makes kind := fun _ => trivial

theorem makes_get : (get : PassM SharedVolume).Makes kind := fun _ => trivial

theorem makes_set (shared : SharedVolume) : (set shared : PassM Unit).Makes kind := fun _ => trivial

theorem makes_ofResult (result : Except Failure α) : (ofResult result).Makes kind := fun _ => trivial

theorem Makes.bind {task : PassM α} {next : α → PassM β} (makes : task.Makes kind)
    (rest : ∀ value, (next value).Makes kind) : (task >>= next).Makes kind := by
  intro shared
  refine Program.Makes.bind (makes shared) ?_
  rintro ⟨failure | value, shared⟩ -
  · trivial
  · exact rest value shared

theorem Makes.attempt {task : PassM α} (makes : task.Makes kind) : task.attempt.Makes kind :=
  fun shared => Program.Makes.bind (makes shared) fun _ _ => trivial

theorem Makes.bestEffort {task : PassM Unit} (makes : task.Makes kind) : (bestEffort task).Makes kind :=
  makes.attempt.bind fun _ => makes_pure ()

theorem Makes.mapFailure {task : PassM α} (change : Failure → Failure) (makes : task.Makes kind) :
    (mapFailure change task).Makes kind :=
  fun shared => Program.Makes.bind (makes shared) fun _ _ => trivial

theorem makes_ofProgram {program : OperatorProgram α} {ends : Except Failure α → Prop}
    (makes : Program.Makes kind ends program.run) : (ofProgram program).Makes kind :=
  fun _ => Program.Makes.bind makes fun _ _ => trivial

/-- A program followed by a task that relies on how the program ends. -/
theorem Makes.bind_ofProgram {program : OperatorProgram α} {ends : α → Prop} {next : α → PassM β}
    (makes : Program.Makes kind (fun result => ∀ value, result = .ok value → ends value) program.run)
    (rest : ∀ value, ends value → (next value).Makes kind) :
    (ofProgram program >>= next).Makes kind := by
  intro shared
  have lifted : ((ofProgram program).perform shared).Makes kind
      fun result => ∀ value, result.1 = .ok value → ends value :=
    Program.Makes.bind makes fun _ ended => ended
  refine Program.Makes.bind lifted ?_
  rintro ⟨failure | value, shared⟩ ended
  · trivial
  · exact rest value (ended value rfl) shared

theorem makes_onRoster {call : RosterCall} (asks : kind (.roster call)) :
    (ofProgram (.onRoster call)).Makes kind := by
  have call : Program.Makes kind (fun _ => True) (OperatorProgram.onRoster call).run :=
    ⟨asks, fun _ => trivial⟩
  exact makes_ofProgram call

theorem makes_fetchVolume {key : ObjectKey} (reads : kind (.volumes (.get key))) :
    (fetchVolume key).Makes kind := by
  have call : Program.Makes kind (fun _ => True)
      (OperatorProgram.onVolumes (StoreProgram.get key)).run :=
    ⟨reads, fun _ => trivial⟩
  exact makes_ofProgram call

theorem makes_replace {updated : SharedVolume} (writes : kind (.sharedVolumes (.replace updated))) :
    (replace updated).Makes kind := by
  have call : Program.Makes kind (fun _ => True)
      (OperatorProgram.onSharedVolumes (StoreProgram.replace updated)).run :=
    ⟨writes, fun _ => trivial⟩
  exact (makes_ofProgram call).bind makes_set

theorem makes_writeStatus {status : SharedVolumeStatus}
    (writes : ∀ shared : SharedVolume, shared.status = some status →
      kind (.sharedVolumes (.replaceStatus shared))) : (writeStatus status).Makes kind := by
  refine makes_get.bind fun shared => ?_
  have call : Program.Makes kind (fun _ => True) (OperatorProgram.onSharedVolumes
      (StoreProgram.replaceStatus { shared with status := some status })).run :=
    ⟨writes _ rfl, fun _ => trivial⟩
  exact (makes_ofProgram call).bind makes_set

theorem makes_report {phase : Phase} {message : String}
    (writes : ∀ shared : SharedVolume, shared.phase? = some phase →
      kind (.sharedVolumes (.replaceStatus shared))) :
    (report phase message).Makes kind := by
  refine makes_get.bind fun shared => ?_
  simp only
  split
  · exact makes_pure ()
  · refine makes_writeStatus fun shared written => writes shared ?_
    rw [SharedVolume.phase?, written]
    rfl

theorem makes_reportReady {claimName : String}
    (writes : ∀ shared, kind (.sharedVolumes (.replaceStatus shared))) :
    (reportReady claimName).Makes kind := by
  refine makes_get.bind fun shared => ?_
  simp only
  split
  · exact makes_pure ()
  · exact makes_writeStatus fun shared _ => writes shared

theorem makes_withClaimUnit {settings : Settings}
    {work : Upkeep PersistentVolumeClaim →
      StoreProgram PersistentVolumeClaim (Upkeep PersistentVolumeClaim)}
    (takes : ∀ shared, kind (.roster (.claim shared settings))) (works : ∀ call, kind (.claims call))
    (records : ∀ owner latest, kind (.roster (.recordClaim owner latest))) :
    (withClaimUnit settings work).Makes kind := by
  refine makes_get.bind fun shared => ?_
  refine (makes_onRoster (takes shared)).bind fun unit => ?_
  refine (makes_ofProgram ((Program.makes_any _).embed fun call _ => works call)).bind fun unit => ?_
  exact makes_onRoster (records ..)

/-- Withdrawing the volume: the unit has seen nothing in the end. -/
theorem makes_withdrawVolume {settings : Settings}
    (takes : ∀ shared, kind (.roster (.volume shared settings)))
    (reads : ∀ key, kind (.volumes (.get key))) (deletes : ∀ key, kind (.volumes (.delete key)))
    (records : ∀ owner, kind (.roster (.recordVolume owner none))) :
    (withVolumeUnit settings Upkeep.withdraw).Makes kind := by
  refine makes_get.bind fun shared => ?_
  refine (makes_onRoster (takes shared)).bind fun unit => ?_
  have inner : Program.Makes (I := storeInterface PersistentVolume) (fun call => kind (.volumes call))
      (fun result => ∀ later, result = .ok later → later = { unit with latest := none })
      (Upkeep.withdraw unit).run :=
    Upkeep.makes_withdraw unit (reads _) (deletes _)
  have withdraws : Program.Makes kind
      (fun result => ∀ later, result = .ok later → later = { unit with latest := none })
      (OperatorProgram.onVolumes (Upkeep.withdraw unit)).run :=
    inner.embed fun _ made => made
  refine Makes.bind_ofProgram withdraws fun later cleared => ?_
  rw [cleared]
  exact makes_onRoster (records _)

end Makes

/-! ## Work under interference -/

section Withstands

variable {σ : Type} {perform : (request : OperatorCall) → StateM σ request.Answer}
  {between : σ → σ → Prop} {allowed : σ → OperatorCall → Prop} {shared : SharedVolume} {state : σ}

/-- Work with a SharedVolume at hand under interference: the calls are allowed, and the result is as wanted
together with the SharedVolume at hand in the end. -/
def Withstands (perform : (request : OperatorCall) → StateM σ request.Answer) (between : σ → σ → Prop)
    (allowed : σ → OperatorCall → Prop) (wanted : Except Failure α → SharedVolume → σ → Prop)
    (task : PassM α) (shared : SharedVolume) (state : σ) : Prop :=
  Program.Withstands (I := operatorInterface) perform between allowed
    (fun result => wanted result.1 result.2) (task.perform shared) state

theorem withstands_bind {wanted : Except Failure β → SharedVolume → σ → Prop} (task : PassM α)
    (next : α → PassM β) :
    (task >>= next).Withstands perform between allowed wanted shared state ↔
      task.Withstands perform between allowed (fun result shared state =>
        match result with
        | .ok value => (next value).Withstands perform between allowed wanted shared state
        | .error failure => wanted (.error failure) shared state) shared state := by
  refine (Program.withstands_bind (task.perform shared) _).trans ?_
  refine iff_of_eq (congrArg
    (fun wanted => Program.Withstands _ between allowed wanted (task.perform shared) state) ?_)
  funext result state
  obtain ⟨result, shared⟩ := result
  cases result <;> rfl

theorem withstands_pure {wanted : Except Failure α → SharedVolume → σ → Prop} (value : α) :
    (pure value : PassM α).Withstands perform between allowed wanted shared state ↔
      wanted (.ok value) shared state := Iff.rfl

theorem withstands_get {wanted : Except Failure SharedVolume → SharedVolume → σ → Prop} :
    (get : PassM SharedVolume).Withstands perform between allowed wanted shared state ↔
      wanted (.ok shared) shared state := Iff.rfl

theorem withstands_attempt {wanted : Except Failure (Except Failure α) → SharedVolume → σ → Prop}
    (task : PassM α) : task.attempt.Withstands perform between allowed wanted shared state ↔
      task.Withstands perform between allowed (fun result => wanted (.ok result)) shared state :=
  Program.withstands_bind (task.perform shared) _

theorem withstands_fetchVolume {wanted : Except Failure (Option PersistentVolume) → SharedVolume → σ → Prop}
    (key : ObjectKey) :
    (fetchVolume key).Withstands perform between allowed wanted shared state ↔
      ∀ later, between state later → allowed later (.volumes (.get key)) ∧
        wanted ((perform (.volumes (.get key))).run later).1 shared
          ((perform (.volumes (.get key))).run later).2 := Iff.rfl

theorem withstands_createVolume {wanted : Except Failure PersistentVolume → SharedVolume → σ → Prop}
    (volume : PersistentVolume) :
    (ofProgram (.onVolumes (StoreProgram.create volume))).Withstands perform between allowed wanted shared
        state ↔
      ∀ later, between state later → allowed later (.volumes (.create volume)) ∧
        wanted ((perform (.volumes (.create volume))).run later).1 shared
          ((perform (.volumes (.create volume))).run later).2 := Iff.rfl

theorem withstands_onRoster (call : RosterCall)
    {wanted : Except Failure call.Answer → SharedVolume → σ → Prop} :
    (ofProgram (.onRoster call)).Withstands perform between allowed wanted shared state ↔
      ∀ later, between state later → allowed later (.roster call) ∧
        wanted (.ok ((perform (.roster call)).run later).1) shared
          ((perform (.roster call)).run later).2 := Iff.rfl

theorem Withstands.imp {wanted other : Except Failure α → SharedVolume → σ → Prop} {task : PassM α}
    (withstands : task.Withstands perform between allowed wanted shared state)
    (implies : ∀ result shared state, wanted result shared state → other result shared state) :
    task.Withstands perform between allowed other shared state :=
  Program.Withstands.imp withstands fun result state => implies result.1 result.2 state

/-- What the calls of one kind keep, and others keep too, holds to the end of a task that makes no other
calls. -/
theorem Makes.withstands {kind : OperatorCall → Prop} {holds : σ → Prop} {task : PassM α}
    (makes : task.Makes kind)
    (stable : ∀ state later, holds state → between state later → holds later)
    (may : ∀ state request, holds state → kind request → allowed state request)
    (kept : ∀ state request, holds state → kind request → holds ((perform request).run state).2)
    (initial : holds state) :
    task.Withstands perform between allowed (fun _ _ => holds) shared state :=
  Program.Makes.withstands (makes shared) stable may kept initial

end Withstands

end PassM

end SharedMount
