import SharedMount.Proofs.Reconcile.Recording
import SharedMount.Proofs.Run.Reachable

/-! # The discipline of a pass

A pass over a SharedVolume that is to stay takes one step at a time: if it asks for another pass, it has
made one write, to the SharedVolume. Volumes and claims are only touched when that was not needed any more, the
claim only after the volume was established, and nothing is ever deleted. All of this is read off the journal
of the pass, whatever operations are made to fail.
-/

namespace SharedMount

open PassM

/-- The steps that a SharedVolume may need before it is served, as calls to its store. -/
inductive SharedVolume.Step (shared : SharedVolume) (volumes : Store PersistentVolume) :
    StoreCall SharedVolume → Prop where
  | revert {volume : PersistentVolume} {spec : SharedVolumeSpec}
      (found : volumes.object? (volumeKey shared.key) = some volume) (free : FreeFor shared.key volume)
      (read : SharedVolumeSpec.ofVolume volume = .ok spec) (differs : shared.spec ≠ spec) :
      Step shared volumes (.replace { shared with spec })
  | register (unregistered : shared.hasFinalizer = false) :
      Step shared volumes (.replace (withFinalizer shared))
  | notice (unnoticed : shared.phase? = none) : Step shared volumes (.replaceStatus
      { shared with status := some { shared.status.getD {} with phase := some .pending, message := "" } })

namespace PassM

variable {settings : Settings} {shared : SharedVolume} {world : World} {call : StoreCall SharedVolume}

/-! ## Single steps -/

private theorem reject_not_again {text : String} {failure : Failure} :
    (do
      reportFailure text
      throw failure : PassM Verdict).Meets (fun _ _ => True)
      (fun result _ _ => result ≠ .ok .again) shared world := by
  rw [meets_bind]
  refine (meets_trivial _ _ _).imp ?_
  rintro (failure | ⟨⟩) shared' world' - <;> simp

private theorem serve_not_again : (Stage.serve.work settings).Meets (fun _ _ => True)
    (fun result _ _ => result ≠ .ok .again) shared world := by
  rw [Stage.work, meets_bind, meets_get]
  simp only
  rw [meets_bind, meets_attempt]
  refine (meets_trivial _ _ _).imp ?_
  rintro (failure | ⟨⟩) shared' world' -
  · exact reject_not_again
  · simp only
    rw [Stage.conclude, meets_bind]
    refine (meets_trivial _ _ _).imp ?_
    rintro (failure | ⟨⟩) shared' world' - <;> simp

/-- A pass that asks for another one was at a stage that takes a single step. -/
theorem single_of_again (again : ((Stage.work settings (Stage.among world.volumes shared)).outcome
    shared world).1 = .ok .again) : ∃ call, shared.Step world.volumes call ∧
      Single (Stage.work settings (Stage.among world.volumes shared)) call shared world := by
  have reached := Stage.reached shared world.volumes
  generalize Stage.among world.volumes shared = stage at again reached ⊢
  cases reached with
  | stuck failure => cases again
  | collided | invalid => exact absurd again (meets_iff_outcome.mp reject_not_again)
  | drifted found free read differs =>
    exact ⟨_, .revert found free read differs, .of_get ((single_replace _ shared world).pure _)⟩
  | unregistered _ unregistered =>
    exact ⟨_, .register unregistered, .of_get ((single_replace _ shared world).pure _)⟩
  | unnoticed _ _ unnoticed =>
    have unsaid : (shared.status.getD {}).phase ≠ some .pending := by
      rw [← SharedVolume.phase?_eq, unnoticed]
      simp
    exact ⟨_, .notice unnoticed, (single_report unsaid).pure _⟩
  | serving => exact absurd again (meets_iff_outcome.mp serve_not_again)

/-- Serving establishes the volume first. When that fails, only the SharedVolume is called about. -/
theorem journal_serve (settings : Settings) (shared : SharedVolume) (world : World) :
    ∃ rest, (Stage.serve.work settings).journal shared world =
        (withVolumeUnit settings Upkeep.establish).journal shared world ++ rest ∧
      (((withVolumeUnit settings Upkeep.establish).outcome shared world).1 ≠ .ok () →
        ∀ entry ∈ rest, entry.request.Amends) := by
  rw [Stage.work, journal_get, journal_bind, journal_attempt, outcome_attempt]
  simp only
  rw [provision, journal_bind, List.append_assoc]
  refine ⟨_, rfl, fun failed entry made => ?_⟩
  rcases List.mem_append.mp made with made | made
  · revert failed made
    obtain ⟨failure | ⟨⟩, shared', world'⟩ := (withVolumeUnit settings Upkeep.establish).outcome shared world
    · exact fun _ made => absurd made List.not_mem_nil
    · exact fun failed => absurd rfl failed
  · exact (Stage.makes_conclude _ _).journal made

end PassM

/-! ## The opening -/

namespace OperatorCall

/-- A call that fetches from a store. -/
def Reads (call : OperatorCall) : Prop := ∃ place, call.operation? = some (place, .get)

variable {call : OperatorCall} {place : Place}

theorem Reads.isWrite (reads : call.Reads) : call.isWrite = false := by
  obtain ⟨place, target⟩ := reads
  simp [OperatorCall.isWrite, target]

theorem Reads.writesTo (reads : call.Reads) (place : Place) : call.writesTo place = false := by
  obtain ⟨other, target⟩ := reads
  simp [OperatorCall.writesTo, target]

theorem Reads.undeleting (reads : call.Reads) (place : Place) :
    call.operation? ≠ some (place, .delete) := by
  obtain ⟨other, target⟩ := reads
  simp [target]

end OperatorCall

namespace PassM

/-- The calls with which a pass begins: it fetches the SharedVolume and then the volume. -/
def opening (key : ObjectKey) (shared : SharedVolume) (world : World) :
    List (Program.Entry operatorInterface) :=
  [⟨.sharedVolumes (.get key), world.sharedVolumes.get key⟩, lookup shared world]

variable {key : ObjectKey} {shared : SharedVolume} {world : World} {entry : Program.Entry operatorInterface}

theorem reads_of_opening (made : entry ∈ opening key shared world) : entry.request.Reads := by
  rcases made with _ | ⟨_, _ | ⟨_, ⟨⟩⟩⟩
  · exact ⟨.sharedVolumes, rfl⟩
  · exact ⟨.volumes, rfl⟩

theorem journal_reconcile_of_stays (settings : Settings)
    (readable : world.sharedVolumes.failing .get = false)
    (held : world.sharedVolumes.object? key = some shared) (stays : shared.isDeleting = false) :
    (reconcile settings key).journal world = opening key shared world ++
      ((Stage.among world.volumes shared).work settings).journal shared world := by
  rw [journal_reconcile_of_held readable held, journal_pass_of_stays stays]
  rfl

/-! ## The last stage -/

/-- The volume and the claim of a SharedVolume are only written at the last stage. -/
private theorem serving_of_writes {settings : Settings} {place : Place} (other : place ≠ .sharedVolumes)
    (made : entry ∈ ((Stage.among world.volumes shared).work settings).journal shared world)
    (writes : entry.request.writesTo place = true) : Stage.among world.volumes shared = .serve := by
  refine Classical.byContradiction fun unserved => ?_
  have amends := (Stage.makes_work unserved).journal made
  exact absurd (writes.symm.trans (amends.not_writesTo other)) (by decide)

/-- What comes before an element of some sort has all of a front that has no such elements. -/
private theorem prefix_of_append_eq {α : Type} {front rest earlier later : List α} {element : α}
    {sort : α → Prop} (split : front ++ rest = earlier ++ element :: later)
    (free : ∀ other ∈ front, ¬sort other) (sorted : sort element) : front <+: earlier := by
  rcases List.append_eq_append_iff.mp split with ⟨between, rfl, -⟩ | ⟨between, rfl, follows⟩
  · exact List.prefix_append front between
  · cases between with
    | nil => simp
    | cons first between =>
      obtain ⟨rfl, -⟩ := List.cons.inj follows
      exact absurd sorted (free _ (by simp))

/-- Where a claim is written at the last stage, the volume was established before that. -/
private theorem established_of_claim_write {settings : Settings}
    {earlier later : List (Program.Entry operatorInterface)}
    (made : opening key shared world ++ (Stage.serve.work settings).journal shared world =
      earlier ++ entry :: later)
    (writes : entry.request.writesTo .claims = true) :
    ((withVolumeUnit settings Upkeep.establish).outcome shared world).1 = .ok () ∧
      (withVolumeUnit settings Upkeep.establish).journal shared world <:+: earlier := by
  obtain ⟨rest, split, amends⟩ := journal_serve settings shared world
  rw [split, ← List.append_assoc] at made
  have front : ∀ other ∈ opening key shared world ++
      (withVolumeUnit settings Upkeep.establish).journal shared world,
      ¬other.request.writesTo .claims = true := by
    intro other made
    rcases List.mem_append.mp made with opens | establishes
    · simp [(reads_of_opening opens).writesTo]
    · have establishes := makes_establishVolume.journal establishes
      simp [establishes.not_writesTo (by decide : Place.claims ≠ .volumes)]
  constructor
  · refine Classical.byContradiction fun failed => ?_
    have present : entry ∈ (opening key shared world ++
        (withVolumeUnit settings Upkeep.establish).journal shared world) ++ rest := made ▸ by simp
    rcases List.mem_append.mp present with before | following
    · exact front _ before writes
    · exact absurd (writes.symm.trans ((amends failed _ following).not_writesTo (by decide))) (by decide)
  · obtain ⟨between, rfl⟩ := prefix_of_append_eq made front writes
    exact ⟨opening key shared world, between, rfl⟩

end PassM

/-! ## The whole pass -/

/-- What holds of every pass over a SharedVolume that is to stay, in terms of its journal. -/
structure Disciplined (settings : Settings) (shared : SharedVolume) (start after : World)
    (result : Except Failure Verdict) (journal : List (Program.Entry operatorInterface)) : Prop where
  /-- A pass that asks for another one made a single write, which succeeded and was a step of the
  SharedVolume itself. -/
  single (again : result = .ok .again) :
    (∃ entry call, journal.filter (·.request.isWrite) = [entry] ∧ entry.succeeded = true ∧
      entry.request = .sharedVolumes call ∧ shared.Step start.volumes call) ∧
    after.volumes = start.volumes ∧ after.claims = start.claims
  /-- Volumes and claims are only written when, at the start of the pass, the SharedVolume needed no step
  any more, was well formed, and its volume was not labelled for another owner. -/
  guarded {entry : Program.Entry operatorInterface} {place : Place} (other : place ≠ .sharedVolumes)
    (made : entry ∈ journal) (writes : entry.request.writesTo place = true) :
    shared.hasFinalizer = true ∧ shared.phase?.isSome ∧ shared.spec.faultText? = none ∧
      ∀ volume, start.volumes.object? (volumeKey shared.key) = some volume → FreeFor shared.key volume
  /-- Before a claim is written, the volume was established, and with success. -/
  ordered {earlier later : List (Program.Entry operatorInterface)} {entry : Program.Entry operatorInterface}
    (made : journal = earlier ++ entry :: later) (writes : entry.request.writesTo .claims = true) :
    ((withVolumeUnit settings Upkeep.establish).outcome shared start).1 = .ok () ∧
      (withVolumeUnit settings Upkeep.establish).journal shared start <:+: earlier
  /-- No store is written to more than once, whether with success or without. -/
  once (place : Place) : journal.countP (·.request.writesTo place) ≤ 1
  /-- Nothing is deleted. -/
  gentle {entry : Program.Entry operatorInterface} (made : entry ∈ journal) (place : Place) :
    entry.request.operation? ≠ some (place, .delete)

private theorem SharedVolume.Step.isWrite {shared : SharedVolume} {volumes : Store PersistentVolume}
    {call : StoreCall SharedVolume} (step : shared.Step volumes call) :
    (OperatorCall.sharedVolumes call).isWrite = true := by
  cases step <;> rfl

/-- A pass that can fetch its SharedVolume is disciplined. -/
private theorem disciplined_of_readable (settings : Settings) {key : ObjectKey} {shared : SharedVolume}
    {world : World} (readable : world.sharedVolumes.failing .get = false)
    (held : world.sharedVolumes.object? key = some shared) (stays : shared.isDeleting = false) :
    Disciplined settings shared world (world.reconcile settings key).2 (world.reconcile settings key).1
      ((reconcile settings key).journal world) := by
  rw [World.reconcile_eq_of_held readable held, outcome_pass_of_stays stays,
    journal_reconcile_of_stays settings readable held stays]
  -- The opening only reads, so that what is said about writes is said about the work of the stage.
  have inWork {entry : Program.Entry operatorInterface} {place : Place}
      (made : entry ∈ opening key shared world ++
        ((Stage.among world.volumes shared).work settings).journal shared world)
      (writes : entry.request.writesTo place = true) :
      entry ∈ ((Stage.among world.volumes shared).work settings).journal shared world := by
    refine (List.mem_append.mp made).resolve_left fun opens => ?_
    exact absurd (writes.symm.trans ((reads_of_opening opens).writesTo place)) (by decide)
  constructor
  case single =>
    intro again
    obtain ⟨call, step, single⟩ := single_of_again again
    refine ⟨⟨⟨.sharedVolumes call, (world.sharedVolumes.perform call).1⟩, call, ?_,
      single.succeeded again, rfl, step⟩, single.volumes, single.claims⟩
    rw [single.journal, List.filter_append, List.filter_eq_nil_iff.mpr fun entry opens => by
      simp [(reads_of_opening opens).isWrite], List.nil_append]
    simp [step.isWrite]
  case guarded =>
    intro entry place other made writes
    have serving := serving_of_writes other (inWork made writes) writes
    have reached := Stage.reached shared world.volumes
    rw [serving] at reached
    cases reached with
    | serving undrifted registered noticed valid =>
      exact ⟨registered, noticed, valid, fun volume found => (undrifted.agrees volume found).1⟩
  case ordered =>
    intro earlier later entry made writes
    have present := inWork (made ▸ by simp) writes
    rw [serving_of_writes (by decide) present writes] at made
    exact established_of_claim_write made writes
  case once =>
    intro place
    have reads : (opening key shared world).countP (·.request.writesTo place) = 0 :=
      List.countP_eq_zero.mpr fun entry opens => by simp [(reads_of_opening opens).writesTo]
    rw [List.countP_append, reads, Nat.zero_add]
    exact ((Stage.among world.volumes shared).atMost_work place shared).journal world
  case gentle =>
    intro entry made place
    rcases List.mem_append.mp made with opens | made
    · exact (reads_of_opening opens).undeleting place
    · exact (Stage.makes_work_undeleting _).journal made place

/-- A pass that only reads and does not ask for another one is disciplined. -/
private theorem disciplined_of_reads (settings : Settings) (shared : SharedVolume) (start after : World)
    {result : Except Failure Verdict} {journal : List (Program.Entry operatorInterface)}
    (last : result ≠ .ok .again) (reads : ∀ entry ∈ journal, entry.request.Reads) :
    Disciplined settings shared start after result journal := by
  constructor
  case single => exact fun again => absurd again last
  case guarded =>
    intro entry place _ made writes
    exact absurd (writes.symm.trans ((reads _ made).writesTo place)) (by decide)
  case ordered =>
    intro earlier later entry made writes
    exact absurd (writes.symm.trans ((reads _ (made ▸ by simp)).writesTo _)) (by decide)
  case once =>
    intro place
    rw [List.countP_eq_zero.mpr fun entry made => by simp [(reads entry made).writesTo]]
    exact Nat.zero_le 1
  case gentle => exact fun made place => (reads _ made).undeleting place

/-- Whatever is stored and whatever fails, a pass over a SharedVolume that is not to be deleted is
disciplined: one step at a time, volumes and claims only behind the finalizer, the claim after the volume, at
most one write to each store, and no deletions. -/
theorem World.pass_is_disciplined (settings : Settings) {world : World} {key : ObjectKey}
    {shared : SharedVolume} (stored : world.sharedVolumes.object? key = some shared)
    (stays : shared.isDeleting = false) (faults : Faults) :
    let start := world.withFaults faults
    Disciplined settings shared start (start.reconcile settings key).2 (start.reconcile settings key).1
      ((SharedMount.reconcile settings key).journal start) := by
  intro start
  cases readable : start.sharedVolumes.failing .get with
  | false => exact disciplined_of_readable settings readable stored stays
  | true =>
    obtain ⟨ended, journal⟩ := reconcile_of_unreadable settings key readable
    rw [ended, journal]
    refine disciplined_of_reads settings shared start start (by simp) fun entry made => ?_
    rcases made with _ | ⟨_, ⟨⟩⟩
    exact ⟨.sharedVolumes, rfl⟩

/-- The third pass over the sample writes to all three stores; the second one asked for it. -/
theorem World.pass_is_disciplined_sample :
    let start := (sampleWorld 2).withFaults {}
    let journal := (SharedMount.reconcile {} sample.key).journal start
    (journal.filter (·.request.isWrite)).map (·.request.operation?) = [some (.volumes, .create),
        some (.claims, .create), some (.sharedVolumes, .replaceStatus)] ∧
      ∃ shared, (sampleWorld 2).sharedVolumes.object? sample.key = some shared ∧
        shared.isDeleting = false ∧ Disciplined {} shared start (start.reconcile {} sample.key).2
          (start.reconcile {} sample.key).1 journal := by
  have stays : ((sampleWorld 2).sharedVolumes.object? sample.key).map SharedVolume.isDeleting =
      some false := by
    decide +kernel
  obtain ⟨shared, stored, stays⟩ := Option.map_eq_some_iff.mp stays
  exact ⟨by decide +kernel, shared, stored, stays, pass_is_disciplined {} stored stays {}⟩

end SharedMount
