import SharedMount.Proofs.Run.Reachable
import SharedMount.Proofs.Run.Rivalry

/-! # SharedVolumes whose volumes collide

When the volumes of two SharedVolumes have the same name, whoever makes the volume first keeps it, and a pass
of the other one is to fail. It does, unless the volume is made while it is at work: a pass that has looked
for drift before takes the volume for its own, and reports its SharedVolume ready beside it.
-/

namespace SharedMount

/-- The next call of a pass reports that its SharedVolume is ready. -/
def Underway.ReportsReady (pass : Underway) : Prop :=
  match pass.rest with
  | .done _ => False
  | .call request _ => request.ReportsReady

instance (pass : Underway) : Decidable pass.ReportsReady :=
  match pass with
  | { rest := .done _, .. } => inferInstanceAs (Decidable False)
  | { rest := .call request _, .. } => inferInstanceAs (Decidable request.ReportsReady)

/-- Two owners whose volumes have the same name, in a world where nothing has been made for anyone. -/
structure World.Rivals (key other : ObjectKey) (start : World) : Prop where
  named : key.Named
  otherNamed : other.Named
  differ : key ≠ other
  collide : volumeKey key = volumeKey other
  filed : start.sharedVolumes.WellFiled
  noVolumes (target : ObjectKey) : start.volumes.object? target = none
  noUnits (owner : ObjectKey) : start.roster.volumes.unit? owner = none

/-- Which SharedVolumes are being deleted. -/
def World.leaves (start : World) (key : ObjectKey) : Bool :=
  (start.sharedVolumes.object? key).any (·.isDeleting)

theorem World.Rivals.contested {key other : ObjectKey} {start : World} (rivals : start.Rivals key other)
    (settings : Settings) : start.Contested settings start.leaves where
  sharedVolumes := rivals.filed
  marks stored := by rw [World.leaves, stored]; rfl
  volume stored := by rw [rivals.noVolumes] at stored; cases stored
  units owner unit listed := by rw [rivals.noUnits] at listed; cases listed
  latest listed := by rw [rivals.noUnits] at listed; cases listed

namespace Session

/-- However the passes of two owners take turns whose volumes have the same name, a pass that is about to
report that all is ready does so beside a volume of the other owner exactly if the volume appeared after it
had looked for drift and before it came to establishing it. -/
theorem ready_beside_other_iff {settings : Settings} {key other : ObjectKey} {start : World}
    {schedule : List ObjectKey} {pass : Underway} (rivals : start.Rivals key other)
    (turns : ∀ owner ∈ schedule, owner = key ∨ owner = other)
    (underway : (run settings schedule { world := start }).underway key = some pass)
    (reports : pass.ReportsReady) :
    (run settings schedule { world := start }).world.Usurped key other ↔ Overtaken pass.seen := by
  have contested := rivals.contested settings
  have kept : (contention settings start.leaves).Kept key other
      (run settings schedule { world := start }) :=
    .run rivals.differ (reconcile_bears rivals.differ rivals.collide rivals.named)
      (reconcile_bears rivals.differ.symm rivals.collide.symm rivals.otherNamed) turns
      (.idle contested rfl) (.idle contested rfl)
  obtain ⟨rest, seen⟩ := pass
  cases rest with
  | done result => exact reports.elim
  | call request next => exact (kept.next underway).1.2 reports

/-- The sample and its twin, and nothing else. -/
def rivalWorld : World :=
  { sharedVolumes := ((({} : Store SharedVolume).insert World.sample).2.insert World.twin).2 }

theorem rivalWorld_rivals : rivalWorld.Rivals World.sample.key World.twin.key where
  named := ⟨"x", "a-b", by decide, by decide, rfl⟩
  otherNamed := ⟨"x-a", "b", by decide, by decide, rfl⟩
  differ := by decide
  collide := by decide
  filed := (Store.wellFiled_empty.touched (.insert World.sample)).touched (.insert World.twin)
  noVolumes := Store.object?_empty
  noUnits := Shelf.unit?_empty

/-- Two passes for each of both, which register them and report them pending; then the sample has so many
turns, and then its twin, and then the sample again. -/
def rivalSchedule (first second third : Nat) : List ObjectKey :=
  .replicate 10 World.sample.key ++ .replicate 10 World.twin.key ++ .replicate first World.sample.key ++
    .replicate second World.twin.key ++ .replicate third World.sample.key

theorem rivalSchedule_turns (first second third : Nat) :
    ∀ owner ∈ rivalSchedule first second third, owner = World.sample.key ∨ owner = World.twin.key := by
  intro owner turn
  simp only [rivalSchedule, List.mem_append, List.mem_replicate] at turn
  rcases turn with (((⟨-, own⟩ | ⟨-, own⟩) | ⟨-, own⟩) | ⟨-, own⟩) | ⟨-, own⟩ <;> simp [own]

/-- Undisturbed, the third pass over the sample reports that all is ready beside a volume that is not its
twin's. -/
theorem ready_beside_other_iff_sample : ∃ pass,
    (run {} (rivalSchedule 11 0 0) { world := rivalWorld }).underway World.sample.key = some pass ∧
      pass.ReportsReady ∧ ¬Overtaken pass.seen ∧
      ¬(run {} (rivalSchedule 11 0 0) { world := rivalWorld }).world.Usurped World.sample.key
        World.twin.key := by
  have facts : ((run {} (rivalSchedule 11 0 0) { world := rivalWorld }).underway World.sample.key).map
      (fun pass => (decide pass.ReportsReady, pass.seen.map (·.isSome))) =
        some (true, [false, false]) := by
    decide +kernel
  obtain ⟨pass, underway, same⟩ := Option.map_eq_some_iff.mp facts
  obtain ⟨reports, seen⟩ := Prod.mk.inj same
  have inTime : ¬Overtaken pass.seen := by
    rintro ⟨volume, late⟩
    rw [late] at seen
    exact absurd seen (by simp)
  have beside := ready_beside_other_iff rivalWorld_rivals (rivalSchedule_turns 11 0 0) underway
    (of_decide_eq_true reports)
  exact ⟨pass, underway, of_decide_eq_true reports, inTime, fun usurped => inTime (beside.mp usurped)⟩

/-- After the sample has looked for drift, its twin makes the volume and is ready. The sample finds that
volume, and with its next turn it is reported ready as well, beside a volume that is labelled for the twin. -/
theorem ready_beside_volume_of_twin :
    rivalWorld.Rivals World.sample.key World.twin.key ∧
      World.sample.spec.faultText? = none ∧ World.twin.spec.faultText? = none ∧
      (∀ owner ∈ rivalSchedule 3 13 7, owner = World.sample.key ∨ owner = World.twin.key) ∧
      ∃ pass, (run {} (rivalSchedule 3 13 7) { world := rivalWorld }).underway World.sample.key = some pass ∧
        pass.ReportsReady ∧
        (run {} (rivalSchedule 3 13 7) { world := rivalWorld }).world.Usurped World.sample.key
          World.twin.key ∧
        (run {} (rivalSchedule 3 13 8) { world := rivalWorld }).world.Usurped World.sample.key
          World.twin.key ∧
        ∃ shared, (run {} (rivalSchedule 3 13 8) { world := rivalWorld }).world.sharedVolumes.object?
          World.sample.key = some shared ∧ shared.phase? = some .ready := by
  have before : ((run {} (rivalSchedule 3 13 7) { world := rivalWorld }).underway World.sample.key).map
        (fun pass => decide pass.ReportsReady) = some true ∧
      ((run {} (rivalSchedule 3 13 7) { world := rivalWorld }).world.volumes.object?
        (volumeKey World.sample.key)).map owner? = some (some World.twin.key) := by
    decide +kernel
  have after : ((run {} (rivalSchedule 3 13 8) { world := rivalWorld }).world.volumes.object?
        (volumeKey World.sample.key)).map owner? = some (some World.twin.key) ∧
      ((run {} (rivalSchedule 3 13 8) { world := rivalWorld }).world.sharedVolumes.object?
        World.sample.key).map (·.phase?) = some (some .ready) := by
    decide +kernel
  obtain ⟨pass, underway, reports⟩ := Option.map_eq_some_iff.mp before.1
  exact ⟨rivalWorld_rivals, by decide, by decide, rivalSchedule_turns 3 13 7, pass, underway,
    of_decide_eq_true reports, Option.map_eq_some_iff.mp before.2, Option.map_eq_some_iff.mp after.1,
    Option.map_eq_some_iff.mp after.2⟩

end Session

end SharedMount
