import SharedMount.Proofs.Program.Outcome
import SharedMount.Proofs.Store.Exactness

/-! # Reports write the status and nothing else

The two reports differ in what they take for said and in the status that they write; otherwise they are one task,
`tell`, which makes one call or none. `Tells` lists what comes of it. The copy at hand need not be what is stored:
its version alone shows whether it is up to date, and what else was changed in it is not stored.
-/

namespace SharedMount

namespace PassM

section Sayings

variable {shared : SharedVolume} {phase : Phase} {message claimName : String}

/-- A SharedVolume says a phase and a message. -/
structure Says (phase : Phase) (message : String) (shared : SharedVolume) : Prop where
  phase : (shared.status.getD {}).phase = some phase
  message : (shared.status.getD {}).message = message

/-- A SharedVolume says that the claim of a name is ready. -/
structure SaysReady (claimName : String) (shared : SharedVolume) : Prop where
  phase : (shared.status.getD {}).phase = some .ready
  claim : (shared.status.getD {}).claimRef.map (·.name) = some claimName
  message : (shared.status.getD {}).message = ""

theorem says_iff : Says phase message shared ↔
    (shared.status.getD {}).phase = some phase ∧ (shared.status.getD {}).message = message :=
  ⟨fun told => ⟨told.phase, told.message⟩, fun ⟨phase, message⟩ => ⟨phase, message⟩⟩

theorem saysReady_iff : SaysReady claimName shared ↔
    (shared.status.getD {}).phase = some .ready ∧
      (shared.status.getD {}).claimRef.map (·.name) = some claimName ∧
      (shared.status.getD {}).message = "" :=
  ⟨fun told => ⟨told.phase, told.claim, told.message⟩, fun ⟨phase, claim, message⟩ => ⟨phase, claim, message⟩⟩

instance : DecidablePred (Says phase message) := fun _ => decidable_of_iff _ says_iff.symm

instance : DecidablePred (SaysReady claimName) := fun _ => decidable_of_iff _ saysReady_iff.symm

end Sayings

/-- Write a status that depends on the SharedVolume at hand, unless that says what there is to say. -/
def tell (said : SharedVolume → Prop) [DecidablePred said] (status : SharedVolume → SharedVolumeStatus) :
    PassM Unit := do
  let copy ← get
  if said copy then return
  else writeStatus (status copy)

/-- What comes of a task that is to write a status unless what there is to say is said. -/
structure Tells (task : PassM Unit) (said : SharedVolume → Prop)
    (status : SharedVolume → SharedVolumeStatus) : Prop where
  /-- The task is done without any call exactly if there is nothing to say. -/
  silent (copy : SharedVolume) : task.perform copy = .done (.ok (), copy) ↔ said copy
  /-- Otherwise it makes a single call. Whatever store answers it, the copy becomes what is stored, or stays as it
  is when the call fails. -/
  asks {copy : SharedVolume} (due : ¬said copy) :
    task.perform copy = .call (.sharedVolumes (.replaceStatus { copy with status := some (status copy) }))
      fun answer : Except Failure SharedVolume =>
        match answer with
        | .ok stored => .done (.ok (), stored)
        | .error failure => .done (.error failure, copy)
  /-- With the version of the stored object, the task changes status and version of that object, and there is
  nothing more to say. -/
  written {copy stored : SharedVolume} {world : World} (due : ¬said copy)
    (works : world.sharedVolumes.failing .replaceStatus = false)
    (held : world.sharedVolumes.object? copy.key = some stored)
    (current : copy.metadata.resourceVersion = stored.metadata.resourceVersion) :
    ∃ written, written =
        { stored with
          status := some (status copy)
          metadata := { stored.metadata with resourceVersion := some world.sharedVolumes.nextVersion } } ∧
      task.outcome copy world = (.ok (), written,
        { world with
          sharedVolumes :=
            { world.sharedVolumes with
              objects := world.sharedVolumes.objects.insert copy.key written
              version := world.sharedVolumes.version + 1
              writes :=
                { world.sharedVolumes.writes with
                  statusUpdates := world.sharedVolumes.writes.statusUpdates + 1 } } }) ∧
      task.perform written = .done (.ok (), written)
  /-- With any other version it fails and changes nothing. -/
  outdated {copy stored : SharedVolume} {world : World} (due : ¬said copy)
    (works : world.sharedVolumes.failing .replaceStatus = false)
    (held : world.sharedVolumes.object? copy.key = some stored)
    (differs : copy.metadata.resourceVersion ≠ stored.metadata.resourceVersion) :
    task.outcome copy world =
      (.error (.conflict "SharedVolume" copy.key.name "the object has been modified"), copy, world)
  gone {copy : SharedVolume} {world : World} (due : ¬said copy)
    (works : world.sharedVolumes.failing .replaceStatus = false)
    (missing : world.sharedVolumes.object? copy.key = none) :
    task.outcome copy world =
      (.error (.notFound "SharedVolume" copy.key.name (copy.key.ns.getD "")), copy, world)
  failed {copy : SharedVolume} {world : World} (due : ¬said copy)
    (fails : world.sharedVolumes.failing .replaceStatus = true) :
    task.outcome copy world = (.error (.internal "injected ReplaceStatus failure"), copy, world)

section Tell

variable {said : SharedVolume → Prop} [DecidablePred said] {status : SharedVolume → SharedVolumeStatus}
  {copy stored : SharedVolume} {world : World} {failure : Failure}

theorem perform_tell_of_said (told : said copy) : (tell said status).perform copy = .done (.ok (), copy) := by
  have reads : (tell said status).perform copy =
      (if said copy then return else writeStatus (status copy) : PassM Unit).perform copy := rfl
  rw [reads, if_pos told]
  rfl

theorem perform_tell_of_due (due : ¬said copy) :
    (tell said status).perform copy =
      .call (.sharedVolumes (.replaceStatus { copy with status := some (status copy) }))
        fun answer : Except Failure SharedVolume =>
          match answer with
          | .ok stored => .done (.ok (), stored)
          | .error failure => .done (.error failure, copy) := by
  have reads : (tell said status).perform copy =
      (if said copy then return else writeStatus (status copy) : PassM Unit).perform copy := rfl
  rw [reads, if_neg due]
  refine congrArg (Program.call _) (funext fun answer => ?_)
  change Except Failure SharedVolume at answer
  cases answer <;> rfl

theorem still_tell_of_said (told : said copy) : (tell said status).Still copy world (.ok ()) := by
  rw [still_iff, outcome, perform_tell_of_said told]
  rfl

theorem perform_tell_eq_done_iff :
    (tell said status).perform copy = .done (.ok (), copy) ↔ said copy := by
  refine ⟨fun done => Decidable.byContradiction fun due => ?_, perform_tell_of_said⟩
  rw [perform_tell_of_due due] at done
  cases done

private theorem run_sharedVolumes {α : Type} {call : StoreCall SharedVolume} {answer : call.Answer}
    {after : Store SharedVolume} (performed : world.sharedVolumes.perform call = (answer, after))
    (next : call.Answer → Program operatorInterface α) :
    ((Program.call (I := operatorInterface) (.sharedVolumes call) next).run World.perform).run world =
      ((next answer).run World.perform).run { world with sharedVolumes := after } := by
  obtain ⟨rfl, rfl⟩ := Prod.ext_iff.mp performed
  rfl

/-- A report that is due ends as its call does. -/
theorem outcome_tell_of_due (due : ¬said copy) {answer : Except Failure SharedVolume}
    {after : Store SharedVolume}
    (performed : world.sharedVolumes.perform (.replaceStatus { copy with status := some (status copy) }) =
      (answer, after)) :
    (tell said status).outcome copy world =
      match answer with
      | .ok stored => (.ok (), stored, { world with sharedVolumes := after })
      | .error failure => (.error failure, copy, { world with sharedVolumes := after }) := by
  have ends := (congrArg (fun program => (Program.run World.perform program).run world)
    (perform_tell_of_due due)).trans (run_sharedVolumes performed _)
  rw [outcome, ends]
  cases answer <;> rfl

theorem outcome_tell_of_refused (due : ¬said copy)
    (refused : world.sharedVolumes.Refused (.replaceStatus { copy with status := some (status copy) }) failure) :
    (tell said status).outcome copy world = (.error failure, copy, world) := by
  have failed := Store.perform_eq_error_iff.mpr refused
  exact outcome_tell_of_due due (Prod.ext failed (Store.perform_of_error failed))

/-- What a report does is right if the status that it writes says what there is to say. -/
theorem tells_tell (worded : ∀ copy shared : SharedVolume, shared.status = some (status copy) → said shared) :
    Tells (tell said status) said status where
  silent copy := perform_tell_eq_done_iff
  asks := perform_tell_of_due
  written {copy stored world} due works held current := by
    have present : world.sharedVolumes.current { copy with status := some (status copy) } = .ok stored :=
      Store.current_eq_ok_iff.mpr ⟨held, current⟩
    have performed := Store.replaceStatus_eq_ok_iff.mpr ⟨works, stored, present, rfl, rfl⟩
    exact ⟨_, rfl, outcome_tell_of_due due performed, perform_tell_of_said (worded copy _ rfl)⟩
  outdated {copy stored world} due works held differs := by
    let sent : SharedVolume := { copy with status := some (status copy) }
    have refused := @Store.Refused.outdated _ _ _ _ _ (.replaceStatus sent) sent stored works (.inr rfl) held differs
    exact outcome_tell_of_refused due refused
  gone due works missing :=
    outcome_tell_of_refused due (.missing works (by simp [StoreCall.operation]) missing)
  failed due fails := outcome_tell_of_refused due (.fault fails)

end Tell

theorem report_eq_tell (phase : Phase) (message : String) :
    report phase message = tell (Says phase message) fun copy =>
      { phase := some phase, message, claimRef := copy.status.bind (·.claimRef) } := by
  refine congrArg (get >>= ·) (funext fun copy => ?_)
  refine ite_congr (propext says_iff.symm) (fun _ => rfl) fun _ => congrArg writeStatus ?_
  have kept : (copy.status.getD {}).claimRef = copy.status.bind (·.claimRef) := by cases copy.status <;> rfl
  rw [kept]

theorem reportReady_eq_tell (claimName : String) :
    reportReady claimName = tell (SaysReady claimName) fun _ =>
      { phase := some .ready, message := "", claimRef := some (claimReference claimName) } :=
  congrArg (get >>= ·) <| funext fun _ =>
    ite_congr (propext saysReady_iff.symm) (fun _ => rfl) fun _ => rfl

theorem tells_report (phase : Phase) (message : String) :
    Tells (report phase message) (Says phase message) fun copy =>
      { phase := some phase, message, claimRef := copy.status.bind (·.claimRef) } := by
  rw [report_eq_tell]
  exact tells_tell fun _ _ told => ⟨by rw [told]; rfl, by rw [told]; rfl⟩

theorem tells_reportReady (claimName : String) :
    Tells (reportReady claimName) (SaysReady claimName) fun _ =>
      { phase := some .ready, message := "", claimRef := some (claimReference claimName) } := by
  rw [reportReady_eq_tell]
  exact tells_tell fun _ _ told => ⟨by rw [told]; rfl, by rw [told]; rfl, by rw [told]; rfl⟩

/-- Both reports write nothing but the status, only when there is something to say, and only over the stored
version. A phase and a message leave the reference to the claim as it is in the copy; readiness comes with a whole
reference and without a message. -/
theorem reports_write_status_only :
    (∀ phase message, Tells (report phase message) (Says phase message) fun copy =>
        { phase := some phase, message, claimRef := copy.status.bind (·.claimRef) }) ∧
      ∀ claimName, Tells (reportReady claimName) (SaysReady claimName) fun _ =>
        { phase := some .ready
          message := ""
          claimRef := some { kind := "PersistentVolumeClaim", name := claimName, apiGroup := some "" } } :=
  ⟨tells_report, tells_reportReady⟩

/-- A copy whose spec and finalizers were changed is reported without these changes, and not at all without its
version. -/
theorem reports_write_status_only_sample :
    let placed := ({} : Store SharedVolume).insert
      { metadata := { name := some "a", ns := some "x", finalizers := some [cleanupFinalizer] }
        spec := { fileSystemId := "fs-000001", accessPointId := "fsap-1111111d" }
        status := some { phase := some .ready, claimRef := some (claimReference "pvc-a") } }
    let copy : SharedVolume :=
      { placed.1 with spec := {}, metadata := { placed.1.metadata with finalizers := none } }
    let undated : SharedVolume :=
      { copy with metadata := { copy.metadata with resourceVersion := none } }
    let world : World := { sharedVolumes := placed.2 }
    (∃ written after, (report .failed "boom").outcome copy world = (.ok (), written, after) ∧
      written.spec = placed.1.spec ∧ written.hasFinalizer = true ∧
      written.status =
        some { phase := some .failed, message := "boom", claimRef := some (claimReference "pvc-a") }) ∧
    (report .failed "boom").outcome undated world =
      (.error (.conflict "SharedVolume" "a" "the object has been modified"), undated, world) := by
  intro placed copy undated world
  have tells := reports_write_status_only.1 .failed "boom"
  have due : ¬Says .failed "boom" copy := by decide +kernel
  have undatedDue : ¬Says .failed "boom" undated := by decide +kernel
  have held : world.sharedVolumes.object? copy.key = some placed.1 := by decide +kernel
  constructor
  · obtain ⟨written, rfl, ends, -⟩ := tells.written due rfl held rfl
    exact ⟨_, _, ends, rfl, by decide +kernel, rfl⟩
  · exact tells.outdated undatedDue rfl held (by decide +kernel)

end PassM

end SharedMount
