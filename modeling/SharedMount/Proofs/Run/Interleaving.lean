import SharedMount.Proofs.Program.Interference

/-! # Passes that take turns

Passes for different keys run concurrently: between two calls of one, others may make theirs. A `Session` is
a world with the passes that are under way in it, one for each key at most, and a schedule says whose turn
it is. Each turn makes one call.

A `Discipline` says what passes of a key may call and what that comes to for the others. If every pass keeps
to it as long as the others do, then all passes keep to it in every session (`Discipline.Kept.run`).
-/

namespace SharedMount

/-- What a call that fetches a volume found. -/
def OperatorCall.sighting : (call : OperatorCall) → call.Answer → List (Option PersistentVolume)
  | .volumes (.get _) => fun answer : Except Failure (Option PersistentVolume) => answer.toOption.toList
  | _ => fun _ => []

/-- A world, with what a pass has found so far each time it fetched a volume. -/
structure Scene where
  world : World
  seen : List (Option PersistentVolume) := []

/-- Answer a call of a pass, and note what it found. -/
def Scene.perform (call : OperatorCall) : StateM Scene call.Answer := fun scene =>
  let (answer, world) := World.perform call scene.world
  (answer, { world, seen := scene.seen ++ call.sighting answer })

theorem Scene.perform_of_unseeing {call : OperatorCall} {scene : Scene}
    (unseeing : ∀ answer, call.sighting answer = []) : (Scene.perform call).run scene =
      (((World.perform call).run scene.world).1,
        { scene with world := ((World.perform call).run scene.world).2 }) := by
  have performed : (Scene.perform call).run scene = (((World.perform call).run scene.world).1,
      ⟨((World.perform call).run scene.world).2,
        scene.seen ++ call.sighting ((World.perform call).run scene.world).1⟩) := rfl
  rw [performed, unseeing, List.append_nil]

/-- A pass that was started: what is left of it, and what it has found. -/
structure Underway where
  rest : Program operatorInterface (Except Failure Verdict)
  seen : List (Option PersistentVolume) := []

/-- A world with the passes that are under way in it. -/
structure Session where
  world : World
  underway : ObjectKey → Option Underway := fun _ => none

namespace Session

/-- The session with another world and another state of the pass for a key. -/
def proceed (session : Session) (key : ObjectKey) (world : World) (pass : Option Underway) : Session where
  world := world
  underway other := if other = key then pass else session.underway other

/-- A turn for a key: a pass is started, or the one under way makes its next call, or it is over. -/
def turn (settings : Settings) (session : Session) (key : ObjectKey) : Session :=
  match session.underway key with
  | none => session.proceed key session.world (some { rest := (reconcile settings key).run })
  | some { rest := .done _, .. } => session.proceed key session.world none
  | some { rest := .call request next, seen } =>
      let (answer, scene) := Scene.perform request { world := session.world, seen }
      session.proceed key scene.world (some { rest := next answer, seen := scene.seen })

/-- A session after the turns of a schedule. -/
def run (settings : Settings) (schedule : List ObjectKey) (session : Session) : Session :=
  schedule.foldl (turn settings) session

variable {session : Session} {key other : ObjectKey}

@[simp] theorem underway_proceed_self {world : World} {pass : Option Underway} :
    (session.proceed key world pass).underway key = pass :=
  if_pos rfl

theorem underway_proceed_of_ne (differ : other ≠ key) (world : World) (pass : Option Underway) :
    (session.proceed key world pass).underway other = session.underway other :=
  if_neg differ

end Session

/-- What passes may call, by key, and what that comes to for others. -/
structure Discipline where
  /-- What is true of the world at all times. -/
  holds : World → Prop
  /-- What passes of a key may have made of a world. -/
  does : ObjectKey → World → World → Prop
  /-- The calls that a pass of a key may make beside those of another key, given what it has found. -/
  allowed : ObjectKey → ObjectKey → Scene → OperatorCall → Prop
  refl (key : ObjectKey) (world : World) : does key world world
  trans {key : ObjectKey} {before middle after : World} (first : does key before middle)
    (second : does key middle after) : does key before after
  perform {key other : ObjectKey} {call : OperatorCall} (scene : Scene) (held : holds scene.world)
    (may : allowed key other scene call) : holds ((World.perform call).run scene.world).2 ∧
      does key scene.world ((World.perform call).run scene.world).2

namespace Discipline

variable (discipline : Discipline)

/-- What may become of a scene between two calls of a pass, while passes of another key go on. -/
structure Meanwhile (other : ObjectKey) (before after : Scene) : Prop where
  holds : discipline.holds after.world
  does : discipline.does other before.world after.world
  seen : after.seen = before.seen

/-- What is left of a pass of a key keeps to the discipline as long as another key does. -/
def Bears (key other : ObjectKey) (rest : Program operatorInterface (Except Failure Verdict))
    (scene : Scene) : Prop :=
  rest.Withstands Scene.perform (discipline.Meanwhile other) (discipline.allowed key other)
    (fun _ _ => True) scene

/-- Whatever pass is under way for a key, what is left of it keeps to the discipline. -/
structure Kept (key other : ObjectKey) (session : Session) : Prop where
  holds : discipline.holds session.world
  bears {pass : Underway} (underway : session.underway key = some pass) :
    ∃ before, discipline.Bears key other pass.rest ⟨before, pass.seen⟩ ∧
      discipline.does other before session.world

namespace Kept

variable {discipline} {settings : Settings} {key other : ObjectKey} {session : Session}

theorem idle (holds : discipline.holds session.world) (none : session.underway key = none) :
    discipline.Kept key other session where
  holds := holds
  bears underway := by rw [none] at underway; cases underway

/-- The next call of a pass is allowed, and what is left after it keeps to the discipline. -/
theorem next {request : OperatorCall} {next : request.Answer → Program operatorInterface _}
    {seen : List (Option PersistentVolume)} (kept : discipline.Kept key other session)
    (underway : session.underway key = some ⟨.call request next, seen⟩) :
    discipline.allowed key other ⟨session.world, seen⟩ request ∧
      discipline.Bears key other (next ((Scene.perform request).run ⟨session.world, seen⟩).1)
        ((Scene.perform request).run ⟨session.world, seen⟩).2 := by
  obtain ⟨before, bears, does⟩ := kept.bears underway
  exact bears ⟨session.world, seen⟩ ⟨kept.holds, does, rfl⟩

/-- A turn for the key. -/
theorem turn_self (kept : discipline.Kept key other session)
    (starts : ∀ world, discipline.Bears key other (reconcile settings key).run ⟨world, []⟩) :
    discipline.Kept key other (session.turn settings key) := by
  rw [Session.turn]
  split
  · refine ⟨kept.holds, fun underway => ?_⟩
    cases Session.underway_proceed_self.symm.trans underway
    exact ⟨session.world, starts session.world, discipline.refl ..⟩
  · exact idle kept.holds Session.underway_proceed_self
  · rename_i request next seen underway
    obtain ⟨may, bears⟩ := kept.next underway
    have world := discipline.perform ⟨session.world, seen⟩ kept.holds may
    refine ⟨world.1, fun underway => ?_⟩
    cases Session.underway_proceed_self.symm.trans underway
    exact ⟨_, bears, discipline.refl ..⟩

/-- A turn for the other key. -/
theorem turn_other (kept : discipline.Kept key other session)
    (others : discipline.Kept other key session) (differ : key ≠ other) :
    discipline.Kept key other (session.turn settings other) := by
  have same := session.underway_proceed_of_ne differ
  rw [Session.turn]
  split
  · exact ⟨kept.holds, fun underway => kept.bears ((same _ _).symm.trans underway)⟩
  · exact ⟨kept.holds, fun underway => kept.bears ((same _ _).symm.trans underway)⟩
  · rename_i request next seen underway
    obtain ⟨holds, does⟩ := discipline.perform ⟨session.world, seen⟩ others.holds
      (others.next underway).1
    refine ⟨holds, fun underway => ?_⟩
    obtain ⟨before, bears, earlier⟩ := kept.bears ((same _ _).symm.trans underway)
    exact ⟨before, bears, discipline.trans earlier does⟩

/-- When passes of either key keep to the discipline as long as those of the other do, both do so in every
session that is made of turns for them. -/
theorem run (differ : key ≠ other)
    (starts : ∀ world, discipline.Bears key other (reconcile settings key).run ⟨world, []⟩)
    (otherStarts : ∀ world, discipline.Bears other key (reconcile settings other).run ⟨world, []⟩)
    {schedule : List ObjectKey} (turns : ∀ owner ∈ schedule, owner = key ∨ owner = other)
    (kept : discipline.Kept key other session) (others : discipline.Kept other key session) :
    discipline.Kept key other (session.run settings schedule) := by
  induction schedule generalizing session with
  | nil => exact kept
  | cons owner rest ih =>
    obtain ⟨turn, turns⟩ := List.forall_mem_cons.mp turns
    rcases turn with rfl | rfl
    · exact ih turns (kept.turn_self starts) (others.turn_other kept differ.symm)
    · exact ih turns (kept.turn_other others differ) (others.turn_self otherStarts)

end Kept

end Discipline

end SharedMount
