import SharedMount.Proofs.Reconcile.Silence
import SharedMount.Proofs.Run.Reachable

/-! # Reports do not steer the work

Two passes start from the same world, and in one of them reports fail. They leave the same volumes, claims and
units, and SharedVolumes that differ in their status and version only. They also end in the same way, but for a
pass that reports progress: without the report it fails, so that it is made again.
-/

namespace SharedMount.World

variable {settings : Settings} {world : World} {key : ObjectKey} {shared : SharedVolume}

/-- What a pass comes to, compared with the same pass where reports fail. -/
private structure Alongside (settings : Settings) (key : ObjectKey) (world : World) : Prop where
  work : (world.reconcile settings key).2.SameWork (world.muted.reconcile settings key).2
  results : Compared (world.reconcile settings key).1 (world.muted.reconcile settings key).1
    ((SharedMount.reconcile settings key).journal world)

private theorem silent_get (key : ObjectKey) :
    OperatorCall.Silent (.sharedVolumes (.get key)) := by
  simp [OperatorCall.Silent, OperatorCall.operation?, StoreCall.operation]

private theorem alongside_of_unreadable (settings : Settings) (key : ObjectKey)
    (fails : world.sharedVolumes.failing .get = true) : Alongside settings key world := by
  have fails' : world.muted.sharedVolumes.failing .get = true := fails
  obtain ⟨told, journal⟩ := reconcile_of_unreadable settings key fails
  obtain ⟨untold, -⟩ := reconcile_of_unreadable settings key fails'
  constructor
  · rw [told, untold]
    exact world.sameWork_muted
  · rw [told, untold, journal]
    refine .same rfl (not_tellsProgress fun entry made => ?_)
    rcases made with _ | ⟨_, ⟨⟩⟩
    exact silent_get key

private theorem alongside_of_gone (settings : Settings)
    (readable : world.sharedVolumes.failing .get = false)
    (gone : world.sharedVolumes.object? key = none) : Alongside settings key world := by
  have readable' : world.muted.sharedVolumes.failing .get = false := readable
  have gone' : world.muted.sharedVolumes.object? key = none := gone
  obtain ⟨told, journal⟩ := reconcile_of_gone settings readable gone
  obtain ⟨untold, -⟩ := reconcile_of_gone settings readable' gone'
  constructor
  · rw [told, untold]
    exact World.sameWork_muted { world with roster := world.roster.dismiss key }
  · rw [told, untold, journal]
    refine .same rfl (not_tellsProgress fun entry made => ?_)
    rcases made with _ | ⟨_, _ | ⟨_, ⟨⟩⟩⟩
    · exact silent_get key
    · exact OperatorCall.Aside.silent trivial

private theorem alongside_of_held (readable : world.sharedVolumes.failing .get = false)
    (held : world.sharedVolumes.object? key = some shared)
    (alongside : (PassM.pass settings).Alongside shared world) : Alongside settings key world := by
  have readable' : world.muted.sharedVolumes.failing .get = false := readable
  have held' : world.muted.sharedVolumes.object? key = some shared := held
  constructor
  · rw [reconcile_eq_of_held readable held, reconcile_eq_of_held readable' held']
    exact alongside.work
  · rw [reconcile_eq_of_held readable held, reconcile_eq_of_held readable' held',
      journal_reconcile_of_held readable held]
    exact alongside.results.of_iff (tellsProgress_cons (silent_get key))

private theorem alongside_pass (settings : Settings)
    (held : world.sharedVolumes.object? shared.key = some shared)
    (working : world.sharedVolumes.failing .replaceStatus = false) :
    (PassM.pass settings).Alongside shared world := by
  cases leaves : shared.isDeleting with
  | true =>
    exact (PassM.alongside_retire settings held).of_perform (PassM.perform_pass_of_leaves leaves)
  | false =>
    have alongside := PassM.alongside_work settings held working
    have told : (PassM.pass settings).outcome shared world =
        ((Stage.among world.volumes shared).work settings).outcome shared world :=
      PassM.outcome_pass_of_stays leaves
    have untold : (PassM.pass settings).outcome shared world.muted =
        ((Stage.among world.volumes shared).work settings).outcome shared world.muted :=
      PassM.outcome_pass_of_stays leaves
    constructor
    · rw [told, untold]
      exact alongside.work
    · rw [told, untold, PassM.journal_pass_of_stays leaves]
      exact alongside.results.of_iff (tellsProgress_cons (OperatorCall.Aside.silent trivial))

/-- Whether reports can be made does not steer a pass. -/
private theorem alongside_reconcile (settings : Settings) (key : ObjectKey)
    (filed : world.sharedVolumes.WellFiled) (working : world.sharedVolumes.failing .replaceStatus = false) :
    Alongside settings key world := by
  cases readable : world.sharedVolumes.failing .get with
  | true => exact alongside_of_unreadable settings key readable
  | false =>
    cases found : world.sharedVolumes.object? key with
    | none => exact alongside_of_gone settings readable found
    | some shared =>
      obtain rfl : shared.key = key := filed key shared found
      exact alongside_of_held readable found (alongside_pass settings found working)

/-- The deletion of a SharedVolume is no progress that is told of. -/
private theorem untold_of_leaves (settings : Settings) (held : world.sharedVolumes.object? key = some shared)
    (leaves : shared.isDeleting = true) :
    ¬TellsProgress ((SharedMount.reconcile settings key).journal world) := by
  cases readable : world.sharedVolumes.failing .get with
  | true =>
    rw [(reconcile_of_unreadable settings key readable).2, tellsProgress_cons (silent_get key)]
    exact not_tellsProgress (by simp)
  | false =>
    have retires : (PassM.pass settings).journal shared world = (PassM.retire settings).journal shared world := by
      rw [PassM.journal, PassM.perform_pass_of_leaves leaves]
      rfl
    rw [journal_reconcile_of_held readable held, tellsProgress_cons (silent_get key), retires]
    exact PassM.untold_retire

/-- The faults, with reports failing as well. -/
def Faults.withoutReports (faults : Faults) : Faults :=
  { faults with
    sharedVolumes := fun operation => operation = .replaceStatus || faults.sharedVolumes operation }

/-- **Reports do not steer the work.** With any operations but reports made to fail, a pass leaves the same
volumes, claims and units, and the same SharedVolumes but for status and version, as when reports fail as well.
Its failures, and all that it comes to for a SharedVolume that is being deleted, are the same there; it is
only for a report of progress that was made that the pass without reports fails with that of the report. -/
theorem reports_do_not_steer (reached : Reachable (Event settings) world) (key : ObjectKey) (faults : Faults)
    (reporting : faults.sharedVolumes .replaceStatus = false) :
    let start := world.withFaults faults
    let told := start.reconcile settings key
    let untold := (world.withFaults faults.withoutReports).reconcile settings key
    told.2.SameWork untold.2 ∧ (∀ failure, told.1 = .error failure → untold.1 = .error failure) ∧
      (∀ shared, world.sharedVolumes.object? key = some shared → shared.isDeleting = true →
        untold.1 = told.1) ∧
      (TellsProgress ((SharedMount.reconcile settings key).journal start) →
        untold.1 = .error unreportable) ∧
      (¬TellsProgress ((SharedMount.reconcile settings key).journal start) → untold.1 = told.1) := by
  intro start told untold
  have filed : start.sharedVolumes.WellFiled := reached.wellKept.sharedVolumes
  have alongside : Alongside settings key start := alongside_reconcile settings key filed reporting
  have results : Compared told.1 untold.1 ((SharedMount.reconcile settings key).journal start) :=
    alongside.results
  refine ⟨alongside.work, ?_, ?_, ?_, ?_⟩
  · intro failure failed
    cases results with
    | same same => exact same.trans failed
    | lost value succeeded => cases succeeded.symm.trans failed
  · intro shared stored leaves
    have stored : start.sharedVolumes.object? key = some shared := stored
    have untold := untold_of_leaves settings stored leaves
    cases results with
    | same same => exact same
    | lost value succeeded tells => exact absurd tells untold
  · intro tells
    cases results with
    | same same untouched => exact absurd tells untouched
    | lost value succeeded tells failed => exact failed
  · intro untouched
    cases results with
    | same same => exact same
    | lost value succeeded tells failed => exact absurd tells untouched

/-- The third pass over the sample makes it ready; without the report of that it fails, with the same work
done. -/
theorem reports_do_not_steer_sample :
    let start := (sampleWorld 2).withFaults {}
    let told := start.reconcile {} sample.key
    let untold := ((sampleWorld 2).withFaults ({} : Faults).withoutReports).reconcile {} sample.key
    told.1 = .ok .settled ∧ untold.1 = .error unreportable ∧ told.2.SameWork untold.2 ∧
      TellsProgress ((SharedMount.reconcile {} sample.key).journal start) := by
  intro start told untold
  have reached : Reachable (Event {}) (sampleWorld 2) := (sampleWorld_reachable 2).of_userEvents
  have succeeded : told.1 = .ok .settled := by decide +kernel
  have failed : untold.1 = .error unreportable := by decide +kernel
  obtain ⟨work, -, -, -, otherwise⟩ := reports_do_not_steer reached sample.key {} rfl
  refine ⟨succeeded, failed, work, Classical.byContradiction fun untouched => ?_⟩
  cases failed.symm.trans ((otherwise untouched).trans succeeded)

end SharedMount.World
