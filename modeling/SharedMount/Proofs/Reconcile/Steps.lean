import SharedMount.Proofs.Program.Meets
import SharedMount.Proofs.Store.Changes

/-! # The steps of a pass

Rules for what passes are made of: writing the SharedVolume at hand, reporting its status, and having a
unit do its work. The copy at hand is the stored one all along, so a write fails only if it is made to.
-/

namespace SharedMount

@[simp] theorem SharedVolume.phase?_stamp (store : Store SharedVolume) (shared : SharedVolume) :
    (store.stamp shared).phase? = shared.phase? := rfl

theorem SharedVolume.phase?_eq (shared : SharedVolume) :
    shared.phase? = (shared.status.getD {}).phase := by
  cases present : shared.status <;> simp [phase?, present]

/-- Written over an object with its status and deletion mark, an object stays as it is. -/
theorem merged_eq_self {updated present : SharedVolume} (status : updated.status = present.status)
    (mark : updated.metadata.deletionTimestamp = present.metadata.deletionTimestamp) :
    Store.merged updated present = updated := by
  change { updated with
    status := present.status
    metadata := { updated.metadata with
      deletionTimestamp := present.metadata.deletionTimestamp } } = updated
  rw [← status, ← mark]

namespace PassM

theorem hasFinalizer_withFinalizer (shared : SharedVolume) :
    (withFinalizer shared).hasFinalizer = true := by
  simp [withFinalizer, SharedVolume.hasFinalizer, Metadata.finalizerList]

variable {settings : Settings} {allowed : World → OperatorCall → Prop} {shared : SharedVolume}
  {world : World}

/-- Writing the SharedVolume at hand: the write fails, or it puts the new form, or it is the last of an
object that was being deleted. -/
theorem meets_replace {wanted : Except Failure Unit → SharedVolume → World → Prop}
    {updated : SharedVolume} (permitted : allowed world (.sharedVolumes (.replace updated)))
    (held : world.sharedVolumes.object? shared.key = some shared) (sameKey : updated.key = shared.key)
    (sameVersion : updated.metadata.resourceVersion = shared.metadata.resourceVersion)
    (failed : ∀ failure, world.sharedVolumes.failing .replace = true → wanted (.error failure) shared world)
    (finished : ∀ after, Store.Finishes updated shared → world.sharedVolumes.Drops after shared.key →
      wanted (.ok ()) (Store.merged updated shared) { world with sharedVolumes := after })
    (written : ∀ after, ¬Store.Finishes updated shared →
      world.sharedVolumes.Puts after shared.key
        (world.sharedVolumes.stamp (Store.merged updated shared)) →
      wanted (.ok ()) (world.sharedVolumes.stamp (Store.merged updated shared))
        { world with sharedVolumes := after }) :
    (PassM.replace updated).Meets allowed wanted shared world := by
  rw [PassM.replace, meets_bind, meets_ofProgram, OperatorProgram.meets_onSharedVolumes,
    StoreProgram.meets_replace]
  refine ⟨permitted, ?_⟩
  cases works : world.sharedVolumes.failing .replace with
  | true =>
    obtain ⟨failure, result⟩ := Store.replace_of_failing works updated
    rw [result]
    exact failed failure works
  | false =>
    have found : world.sharedVolumes.object? (Resource.key updated) = some shared := by
      rw [← held, ← sameKey]
      rfl
    obtain ⟨after, ⟨finishes, drops, result⟩ | ⟨stays, puts, result⟩⟩ :=
      Store.replace_of_working works found sameVersion <;> rw [result]
    · exact finished after finishes (sameKey ▸ drops)
    · exact written after stays (sameKey ▸ puts)

theorem meets_writeStatus {wanted : Except Failure Unit → SharedVolume → World → Prop}
    {status : SharedVolumeStatus}
    (permitted : allowed world
      (.sharedVolumes (.replaceStatus { shared with status := some status })))
    (held : world.sharedVolumes.object? shared.key = some shared)
    (failed : ∀ failure, world.sharedVolumes.failing .replaceStatus = true →
      wanted (.error failure) shared world)
    (written : ∀ after, world.sharedVolumes.Puts after shared.key
        (world.sharedVolumes.stamp { shared with status := some status }) →
      wanted (.ok ()) (world.sharedVolumes.stamp { shared with status := some status })
        { world with sharedVolumes := after }) :
    (writeStatus status).Meets allowed wanted shared world := by
  rw [writeStatus, meets_bind, meets_get]
  simp only
  rw [meets_bind, meets_ofProgram, OperatorProgram.meets_onSharedVolumes,
    StoreProgram.meets_replaceStatus]
  refine ⟨permitted, ?_⟩
  cases works : world.sharedVolumes.failing .replaceStatus with
  | true =>
    rw [Store.replaceStatus_eq_error_iff.mpr ⟨rfl, .inl (Store.check_of_failing works)⟩]
    exact failed _ works
  | false =>
    have current : world.sharedVolumes.current { shared with status := some status } = .ok shared :=
      Store.current_eq_ok_iff.mpr ⟨held, rfl⟩
    rw [Store.replaceStatus_eq_ok_iff.mpr ⟨works, shared, current, rfl, rfl⟩]
    exact written _ (Store.puts_put ..)

/-- How reporting a status may end: there is nothing new to it, the write fails, or it puts the
SharedVolume with that status. -/
inductive Reported (status : SharedVolumeStatus) (shared : SharedVolume) (world : World) :
    Except Failure Unit → SharedVolume → World → Prop where
  | kept (phase : (shared.status.getD {}).phase = status.phase)
      (message : (shared.status.getD {}).message = status.message) :
      Reported status shared world (.ok ()) shared world
  | failed (failure : Failure) (faulty : world.sharedVolumes.failing .replaceStatus = true) :
      Reported status shared world (.error failure) shared world
  | written {after : Store SharedVolume}
      (puts : world.sharedVolumes.Puts after shared.key
        (world.sharedVolumes.stamp { shared with status := some status })) :
      Reported status shared world (.ok ())
        (world.sharedVolumes.stamp { shared with status := some status })
        { world with sharedVolumes := after }

theorem meets_report {phase : Phase} {message : String}
    (permitted : allowed world (.sharedVolumes (.replaceStatus
      { shared with status := some { shared.status.getD {} with phase := some phase, message } })))
    (held : world.sharedVolumes.object? shared.key = some shared) :
    (report phase message).Meets allowed
      (Reported { shared.status.getD {} with phase := some phase, message } shared world)
      shared world := by
  rw [report, meets_bind, meets_get]
  simp only
  split
  · rename_i same
    exact .kept same.1 same.2
  · exact meets_writeStatus permitted held (fun failure faulty => .failed failure faulty)
      (fun _ puts => .written puts)

/-- The status of a SharedVolume whose claim has a name, when all is ready. -/
def readyStatus (claimName : String) : SharedVolumeStatus where
  phase := some .ready
  message := ""
  claimRef := some (claimReference claimName)

theorem meets_reportReady {claimName : String}
    (permitted : allowed world (.sharedVolumes (.replaceStatus
      { shared with status := some (readyStatus claimName) })))
    (held : world.sharedVolumes.object? shared.key = some shared) :
    (reportReady claimName).Meets allowed (Reported (readyStatus claimName) shared world)
      shared world := by
  rw [reportReady, meets_bind, meets_get]
  simp only
  split
  · rename_i same
    exact .kept same.1 same.2.2
  · exact meets_writeStatus permitted held (fun failure faulty => .failed failure faulty)
      (fun _ puts => .written puts)

theorem meets_reportFailure {message : String}
    {wanted : Except Failure Unit → SharedVolume → World → Prop}
    (permitted : allowed world (.sharedVolumes (.replaceStatus
      { shared with status := some { shared.status.getD {} with phase := some .failed, message } })))
    (held : world.sharedVolumes.object? shared.key = some shared)
    (reported : ∀ result shared' world', Reported
      { shared.status.getD {} with phase := some .failed, message } shared world result shared' world' →
      wanted (.ok ()) shared' world') :
    (reportFailure message).Meets allowed wanted shared world := by
  rw [reportFailure, meets_bestEffort]
  exact (meets_report permitted held).imp reported

theorem meets_dismiss {wanted : Except Failure Unit → SharedVolume → World → Prop} (owner : ObjectKey) :
    (dismiss owner).Meets allowed wanted shared world ↔ allowed world (.roster (.dismiss owner)) ∧
      wanted (.ok ()) shared { world with roster := world.roster.dismiss owner } :=
  Iff.rfl

theorem meets_fetchVolume {wanted : Except Failure (Option PersistentVolume) → SharedVolume → World → Prop}
    (key : ObjectKey) :
    (fetchVolume key).Meets allowed wanted shared world ↔ allowed world (.volumes (.get key)) ∧
      wanted (world.volumes.get key) shared world :=
  Iff.rfl

/-- Having the unit for the volume do its work: it is taken from the roster, works on the volumes, and
what it saw is put on record unless it failed. -/
theorem meets_withVolumeUnit {wanted : Except Failure Unit → SharedVolume → World → Prop}
    {work : Upkeep PersistentVolume → StoreProgram PersistentVolume (Upkeep PersistentVolume)} :
    (withVolumeUnit settings work).Meets allowed wanted shared world ↔
      allowed world (.roster (.volume shared settings)) ∧
        let taken := { world with roster := (world.roster.volume shared settings).2 }
        (work (world.roster.volume shared settings).1.upkeep).Meets
          (fun volumes call => allowed { taken with volumes } (.volumes call))
          (fun result volumes =>
            match result with
            | .ok unit => allowed { taken with volumes } (.roster (.recordVolume shared.key unit.latest)) ∧
                wanted (.ok ()) shared { taken with
                  volumes
                  roster := { taken.roster with
                    volumes := taken.roster.volumes.record shared.key unit.latest } }
            | .error failure => wanted (.error failure) shared { taken with volumes })
          world.volumes := by
  rw [withVolumeUnit, meets_bind, meets_get]
  simp only
  rw [meets_bind, meets_ofProgram, OperatorProgram.meets_onRoster]
  refine and_congr_right fun _ => ?_
  simp only
  rw [meets_bind, meets_ofProgram, OperatorProgram.meets_onVolumes]
  refine iff_of_eq (congrArg (fun wanted => StoreProgram.Meets _ wanted (work _) world.volumes) ?_)
  funext result volumes
  cases result <;> rfl

/-- Having the unit for the claim do its work, in the same way. -/
theorem meets_withClaimUnit {wanted : Except Failure Unit → SharedVolume → World → Prop}
    {work : Upkeep PersistentVolumeClaim →
      StoreProgram PersistentVolumeClaim (Upkeep PersistentVolumeClaim)} :
    (withClaimUnit settings work).Meets allowed wanted shared world ↔
      allowed world (.roster (.claim shared settings)) ∧
        let taken := { world with roster := (world.roster.claim shared settings).2 }
        (work (world.roster.claim shared settings).1.upkeep).Meets
          (fun claims call => allowed { taken with claims } (.claims call))
          (fun result claims =>
            match result with
            | .ok unit => allowed { taken with claims } (.roster (.recordClaim shared.key unit.latest)) ∧
                wanted (.ok ()) shared { taken with
                  claims
                  roster := { taken.roster with
                    claims := taken.roster.claims.record shared.key unit.latest } }
            | .error failure => wanted (.error failure) shared { taken with claims })
          world.claims := by
  rw [withClaimUnit, meets_bind, meets_get]
  simp only
  rw [meets_bind, meets_ofProgram, OperatorProgram.meets_onRoster]
  refine and_congr_right fun _ => ?_
  simp only
  rw [meets_bind, meets_ofProgram, OperatorProgram.meets_onClaims]
  refine iff_of_eq (congrArg (fun wanted => StoreProgram.Meets _ wanted (work _) world.claims) ?_)
  funext result claims
  cases result <;> rfl

end PassM

end SharedMount
