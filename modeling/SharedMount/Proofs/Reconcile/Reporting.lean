import SharedMount.Proofs.Program.Aside
import SharedMount.Proofs.Reconcile.Stages

/-! # What a pass writes to SharedVolumes

`SharedWrite` lists the calls that a pass may make to the store of SharedVolumes, each with what is known of
the one that is stored when it is made. Nothing is assumed of volumes, claims and units: they may be in any
order, and only what the pass finds to report depends on them.
-/

namespace SharedMount

/-! ## Texts that are reported -/

theorem Failure.message_ne_empty (failure : Failure) : failure.message ≠ "" := by
  cases failure with
  | api cause =>
    cases cause with
    | undecodable => decide
    | _ =>
      change _ ++ _ ≠ ""
      simp [String.append_eq_empty_iff]
  | _ =>
    change _ ++ _ ≠ ""
    simp [String.append_eq_empty_iff]

theorem collisionText_ne_empty (volume owner : ObjectKey) : collisionText volume owner ≠ "" := by
  simp [collisionText, String.append_eq_empty_iff]

theorem SharedVolumeSpec.ne_empty_of_faultText? {spec : SharedVolumeSpec} {text : String}
    (invalid : spec.faultText? = some text) : text ≠ "" := by
  cases accessPoint : isAccessPointId spec.accessPointId <;>
    cases fileSystem : isFileSystemId spec.fileSystemId <;>
    simp [faultText?, faults, accessPoint, fileSystem] at invalid
  all_goals
    subst invalid
    simp [String.append_eq_empty_iff]

/-- What a stage has to say against a SharedVolume is not empty. -/
theorem Stage.Reached.text_ne_empty {shared : SharedVolume} {volumes : Store PersistentVolume} {text : String}
    {failure : Failure} (reached : Reached shared volumes (.reject text failure)) : text ≠ "" := by
  cases reached with
  | collided => exact collisionText_ne_empty _ _
  | invalid _ _ _ invalid => exact SharedVolumeSpec.ne_empty_of_faultText? invalid

/-! ## Writes -/

namespace SharedVolume

/-- How a pass may change a SharedVolume, apart from its status. -/
inductive Revision (shared : SharedVolume) : SharedVolume → Prop where
  | revert (spec : SharedVolumeSpec) (stays : shared.isDeleting = false) :
      Revision shared { shared with spec }
  | register (stays : shared.isDeleting = false) : Revision shared (PassM.withFinalizer shared)
  | release (leaves : shared.isDeleting = true) : Revision shared (PassM.withoutFinalizer shared)

/-- What a pass may report of a SharedVolume. -/
inductive Report (shared : SharedVolume) : SharedVolumeStatus → Prop where
  | pending (stays : shared.isDeleting = false) (unnoticed : shared.phase? = none) :
      Report shared { shared.status.getD {} with phase := some .pending, message := "" }
  | failed {message : String} (stays : shared.isDeleting = false) (worded : message ≠ "") :
      Report shared { shared.status.getD {} with phase := some .failed, message }
  | ready (stays : shared.isDeleting = false) :
      Report shared (PassM.readyStatus (claimKey shared.key).name)
  | deleting (leaves : shared.isDeleting = true) :
      Report shared { shared.status.getD {} with phase := some .deleting, message := "" }

end SharedVolume

/-- The calls that a pass for a key may make, as far as the store of SharedVolumes is concerned. -/
inductive SharedWrite (key : ObjectKey) (world : World) : OperatorCall → Prop where
  | aside {call : OperatorCall} (aside : call.Aside) : SharedWrite key world call
  | read : SharedWrite key world (.sharedVolumes (.get key))
  | revise {shared updated : SharedVolume} (held : world.sharedVolumes.object? key = some shared)
      (revision : shared.Revision updated) : SharedWrite key world (.sharedVolumes (.replace updated))
  | report {shared : SharedVolume} {status : SharedVolumeStatus}
      (held : world.sharedVolumes.object? key = some shared) (report : shared.Report status) :
      SharedWrite key world (.sharedVolumes (.replaceStatus { shared with status := some status }))

namespace PassM

variable {settings : Settings} {shared : SharedVolume} {world : World}

private theorem Aside.meets_writes {α : Type} {key : ObjectKey} {task : PassM α} (aside : task.Aside) :
    task.Meets (SharedWrite key) (fun _ shared' world' => shared' = shared ∧
      world'.sharedVolumes = world.sharedVolumes) shared world :=
  aside.meets fun _ _ aside => .aside aside

private theorem reject_writes {text : String} (failure : Failure)
    (held : world.sharedVolumes.object? shared.key = some shared) (stays : shared.isDeleting = false)
    (worded : text ≠ "") :
    (do
      reportFailure text
      throw failure : PassM Verdict).Meets (SharedWrite shared.key) (fun _ _ _ => True) shared world := by
  rw [meets_bind]
  exact meets_reportFailure (.report held (.failed stays worded)) held fun _ _ _ _ => trivial

private theorem serve_writes (held : world.sharedVolumes.object? shared.key = some shared)
    (stays : shared.isDeleting = false) :
    (Stage.serve.work settings).Meets (SharedWrite shared.key) (fun _ _ _ => True) shared world := by
  rw [Stage.work, meets_bind, meets_get]
  simp only
  rw [meets_bind, meets_attempt]
  refine (aside_provision settings).meets_writes.imp ?_
  rintro result shared' world' ⟨rfl, sharedVolumes⟩
  have held' : world'.sharedVolumes.object? shared'.key = some shared' := sharedVolumes ▸ held
  rcases result with failure | ⟨⟩
  · exact reject_writes failure held' stays failure.message_ne_empty
  · simp only
    rw [Stage.conclude, meets_bind]
    refine (meets_reportReady (.report held' (.ready stays)) held').imp ?_
    intro result _ _ _
    cases result <;> trivial

private theorem advance_writes (held : world.sharedVolumes.object? shared.key = some shared)
    (stays : shared.isDeleting = false) :
    (advance settings).Meets (SharedWrite shared.key) (fun _ _ _ => True) shared world := by
  rw [meets_advance_iff]
  refine ⟨.aside trivial, ?_⟩
  have reached := Stage.reached shared world.volumes
  cases stage : Stage.among world.volumes shared with
  | stuck failure => trivial
  | reject text failure => exact reject_writes failure held stays (stage ▸ reached).text_ne_empty
  | revert spec =>
    rw [Stage.work, meets_bind, meets_get]
    simp only
    rw [meets_bind]
    exact meets_replace (.revise held (.revert spec stays)) held rfl rfl (fun _ _ => trivial)
      (fun _ _ _ => trivial) (fun _ _ _ => trivial)
  | register =>
    rw [Stage.work, meets_bind, meets_get]
    simp only
    rw [meets_bind]
    exact meets_replace (.revise held (.register stays)) held rfl rfl (fun _ _ => trivial)
      (fun _ _ _ => trivial) (fun _ _ _ => trivial)
  | notice =>
    rw [stage] at reached
    cases reached with
    | unnoticed _ _ unnoticed =>
      rw [Stage.work, meets_bind]
      refine (meets_report (.report held (.pending stays unnoticed)) held).imp ?_
      intro result _ _ _
      cases result <;> trivial
  | serve => exact serve_writes held stays

private theorem cleanUp_writes {key : ObjectKey} (own : shared.key = key)
    (held : world.sharedVolumes.object? key = some shared) (leaves : shared.isDeleting = true) :
    (cleanUp settings).Meets (SharedWrite key) (fun _ _ _ => True) shared world := by
  subst own
  rw [cleanUp, meets_bind, meets_get]
  simp only
  split
  · rw [meets_bind, meets_attempt]
    refine (aside_removeDependents settings).meets_writes.imp ?_
    rintro result shared' world' ⟨rfl, sharedVolumes⟩
    have held' : world'.sharedVolumes.object? shared'.key = some shared' := sharedVolumes ▸ held
    simp only
    rw [meets_bind, meets_dismiss]
    refine ⟨.aside trivial, ?_⟩
    simp only
    rw [meets_bind, meets_ofResult]
    rcases result with failure | ⟨⟩
    · trivial
    · rw [meets_mapFailure]
      exact meets_replace (.revise held' (.release leaves)) held' rfl rfl (fun _ _ => trivial)
        (fun _ _ _ => trivial) (fun _ _ _ => trivial)
  · trivial

private theorem retire_writes (held : world.sharedVolumes.object? shared.key = some shared)
    (leaves : shared.isDeleting = true) :
    (retire settings).Meets (SharedWrite shared.key) (fun _ _ _ => True) shared world := by
  rw [retire, meets_bind, meets_bestEffort]
  refine (meets_report (.report held (.deleting leaves)) held).imp ?_
  intro _ shared' world' reported
  simp only
  rw [meets_bind]
  have cleaned : (cleanUp settings).Meets (SharedWrite shared.key) (fun _ _ _ => True) shared' world' := by
    cases reported with
    | kept | failed => exact cleanUp_writes rfl held leaves
    | written puts => exact cleanUp_writes rfl puts.object?_self leaves
  refine cleaned.imp ?_
  intro result _ _ _
  cases result <;> trivial

end PassM

/-- A pass makes no other calls to the store of SharedVolumes. -/
theorem reconcile_writes (settings : Settings) {key : ObjectKey} {world : World}
    (filed : world.sharedVolumes.WellFiled) :
    (reconcile settings key).Meets (SharedWrite key) (fun _ _ => True) world := by
  rw [reconcile, OperatorProgram.meets_bind, OperatorProgram.meets_onSharedVolumes,
    StoreProgram.meets_get]
  refine ⟨.read, ?_⟩
  cases works : world.sharedVolumes.failing .get with
  | true =>
    rw [Store.get, Store.check_of_failing works]
    trivial
  | false =>
    rw [Store.get_eq_ok_iff.mpr ⟨works, rfl⟩]
    cases found : world.sharedVolumes.object? key with
    | none =>
      simp only
      exact (OperatorProgram.meets_bind (OperatorProgram.onRoster (.dismiss key)) _).mpr
        ⟨.aside trivial, trivial⟩
    | some shared =>
      obtain rfl : shared.key = key := filed _ _ found
      have pass : (PassM.pass settings).Meets (SharedWrite shared.key) (fun _ _ _ => True) shared
          world := by
        rw [PassM.pass, PassM.meets_bind, PassM.meets_get]
        simp only
        split
        · rename_i leaves
          exact PassM.retire_writes found leaves
        · rename_i stays
          exact PassM.advance_writes found (by simpa using stays)
      exact (Program.meets_bind ((PassM.pass settings).perform shared) _).mpr
        (pass.imp fun _ _ _ _ => trivial)

end SharedMount
