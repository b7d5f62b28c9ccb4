import SharedMount.Proofs.Program.Outcome
import SharedMount.Proofs.Reconcile.Provisioning

/-! # The stages of a pass

A pass over a SharedVolume that is to stay makes one call before it knows what is to be done: it fetches the
volume. From the answer and the SharedVolume at hand follows its stage, and the pass is the work of that
stage. `Stage.Reached` says once what is known where a stage is reached.
-/

namespace SharedMount

/-- What a pass over a SharedVolume that is to stay has to do. -/
inductive Stage where
  /-- The volume could not be fetched. -/
  | stuck (failure : Failure)
  /-- Something is wrong with the volume or with the spec. -/
  | reject (text : String) (failure : Failure)
  /-- The volume encodes another spec. -/
  | revert (spec : SharedVolumeSpec)
  | register
  | notice
  | serve

namespace Stage

/-- The stage of a SharedVolume that its volume says nothing against. -/
def undrifted (shared : SharedVolume) : Stage :=
  if shared.hasFinalizer then
    if shared.phase?.isNone then notice
    else
      match shared.spec.faultText? with
      | some text => reject text (.validation text)
      | none => serve
  else register

/-- The stage that follows from what was found when the volume was fetched. -/
def of (shared : SharedVolume) : Except Failure (Option PersistentVolume) → Stage
  | .error failure => stuck failure
  | .ok none => undrifted shared
  | .ok (some volume) =>
      match otherOwner? volume shared with
      | some other =>
          let text := collisionText (volumeKey shared.key) other
          reject text (.reconcileFailed text)
      | none =>
          match SharedVolumeSpec.ofVolume volume with
          | .error _ => undrifted shared
          | .ok spec => if shared.spec = spec then undrifted shared else revert spec

/-- What is left to do when provisioning has ended. -/
def conclude (claimName : String) : Except Failure Unit → PassM Verdict
  | .error failure => do
      PassM.reportFailure failure.message
      throw failure
  | .ok () => do
      PassM.reportReady claimName
      return .settled

/-- The work of a stage. -/
def work (settings : Settings) : Stage → PassM Verdict
  | stuck failure => throw failure
  | reject text failure => do
      PassM.reportFailure text
      throw failure
  | revert spec => do
      PassM.replace { ← get with spec }
      return .again
  | register => do
      PassM.replace (PassM.withFinalizer (← get))
      return .again
  | notice => do
      PassM.report .pending ""
      return .again
  | serve => do
      let shared ← get
      conclude (claimKey shared.key).name (← PassM.attempt (PassM.provision settings))

/-- What is known where a stage is reached. -/
inductive Reached (shared : SharedVolume) (volumes : Store PersistentVolume) : Stage → Prop where
  | stuck (failure : Failure) (faulty : volumes.failing .get = true) :
      Reached shared volumes (stuck failure)
  /-- The volume is labelled for another owner. -/
  | collided {volume : PersistentVolume} {other : ObjectKey}
      (found : volumes.object? (volumeKey shared.key) = some volume)
      (labelled : otherOwner? volume shared = some other) :
      Reached shared volumes (reject (collisionText (volumeKey shared.key) other)
        (.reconcileFailed (collisionText (volumeKey shared.key) other)))
  | drifted {volume : PersistentVolume} {spec : SharedVolumeSpec}
      (found : volumes.object? (volumeKey shared.key) = some volume) (free : FreeFor shared.key volume)
      (read : SharedVolumeSpec.ofVolume volume = .ok spec) (differs : shared.spec ≠ spec) :
      Reached shared volumes (revert spec)
  | unregistered (undrifted : Undrifted shared volumes) (unregistered : shared.hasFinalizer = false) :
      Reached shared volumes register
  | unnoticed (undrifted : Undrifted shared volumes) (registered : shared.hasFinalizer = true)
      (unnoticed : shared.phase? = none) : Reached shared volumes notice
  | invalid {text : String} (undrifted : Undrifted shared volumes) (registered : shared.hasFinalizer = true)
      (noticed : shared.phase?.isSome) (invalid : shared.spec.faultText? = some text) :
      Reached shared volumes (reject text (.validation text))
  | serving (undrifted : Undrifted shared volumes) (registered : shared.hasFinalizer = true)
      (noticed : shared.phase?.isSome) (valid : shared.spec.faultText? = none) :
      Reached shared volumes serve

private theorem reached_undrifted {shared : SharedVolume} {volumes : Store PersistentVolume}
    (agrees : Undrifted shared volumes) : Reached shared volumes (undrifted shared) := by
  rw [undrifted]
  cases registered : shared.hasFinalizer with
  | false => exact .unregistered agrees registered
  | true =>
    simp only [↓reduceIte]
    split
    · rename_i unnoticed
      exact .unnoticed agrees registered (Option.isNone_iff_eq_none.mp unnoticed)
    · rename_i noticed
      have noticed : shared.phase?.isSome := by simpa [← Option.isSome_iff_ne_none] using noticed
      cases valid : shared.spec.faultText? with
      | some text => exact .invalid agrees registered noticed valid
      | none => exact .serving agrees registered noticed valid

/-- The stage of a SharedVolume among the volumes that are stored. -/
def among (volumes : Store PersistentVolume) (shared : SharedVolume) : Stage :=
  of shared (volumes.get (volumeKey shared.key))

theorem reached (shared : SharedVolume) (volumes : Store PersistentVolume) :
    Reached shared volumes (among volumes shared) := by
  rw [among]
  cases readable : volumes.failing .get with
  | true =>
    rw [Store.get, Store.check_of_failing readable]
    exact .stuck _ readable
  | false =>
    rw [Store.get_eq_ok_iff.mpr ⟨readable, rfl⟩]
    cases found : volumes.object? (volumeKey shared.key) with
    | none => exact reached_undrifted ⟨readable, by simp [found]⟩
    | some volume =>
      simp only [of]
      cases labelled : otherOwner? volume shared with
      | some other => exact .collided found labelled
      | none =>
        have free := otherOwner?_eq_none_iff.mp labelled
        have undrifted (agrees : ∀ spec, SharedVolumeSpec.ofVolume volume = .ok spec →
            shared.spec = spec) : Undrifted shared volumes := by
          refine ⟨readable, fun other stored => ?_⟩
          obtain rfl : volume = other := Option.some.inj (found.symm.trans stored)
          exact ⟨free, agrees⟩
        simp only
        cases read : SharedVolumeSpec.ofVolume volume with
        | error fault => exact reached_undrifted (undrifted (by simp [read]))
        | ok spec =>
          simp only
          split
          · rename_i same
            exact reached_undrifted (undrifted (by simp [read, same]))
          · rename_i differs
            exact .drifted found free read differs

end Stage

namespace PassM

variable {α : Type}

theorem perform_get (next : SharedVolume → PassM α) (shared : SharedVolume) :
    (get >>= next).perform shared = (next shared).perform shared := rfl

theorem perform_pass_of_stays {settings : Settings} {shared : SharedVolume}
    (stays : shared.isDeleting = false) :
    (pass settings).perform shared = (advance settings).perform shared := by
  rw [pass, perform_get, if_neg (by simp [stays])]

theorem perform_pass_of_leaves {settings : Settings} {shared : SharedVolume}
    (leaves : shared.isDeleting = true) :
    (pass settings).perform shared = (retire settings).perform shared := by
  rw [pass, perform_get, if_pos leaves]

/-- Where nothing is said against a SharedVolume, what is left to do is the work of its stage. -/
private theorem perform_undrifted (settings : Settings) (shared : SharedVolume) :
    PassM.perform (do
      if ← registerCleanup then return .again
      else if (← get).phase?.isNone then
        report .pending ""
        return .again
      else serve settings) shared = ((Stage.undrifted shared).work settings).perform shared := by
  rw [registerCleanup, bind_assoc, perform_get, Stage.undrifted]
  cases registered : shared.hasFinalizer with
  | false =>
    simp only [Bool.false_eq_true, ↓reduceIte, bind_assoc, pure_bind]
    rfl
  | true =>
    simp only [Bool.false_eq_true, ↓reduceIte, pure_bind]
    rw [perform_get]
    split
    · rfl
    · rw [serve, perform_get]
      cases valid : shared.spec.faultText? with
      | some text => rfl
      | none =>
        rw [Stage.work]
        refine Eq.trans ?_ (perform_get _ shared).symm
        rfl

/-- A pass over a SharedVolume that is to stay fetches the volume and does the work of the stage that
follows. -/
theorem advance_eq (settings : Settings) : advance settings = (do
    let shared ← get
    let found ← attempt (fetchVolume (volumeKey shared.key))
    (Stage.of shared found).work settings) := by
  rw [advance, revertDrift, bind_assoc]
  funext shared
  change PassM.perform (get >>= _) shared = PassM.perform (get >>= _) shared
  rw [perform_get, perform_get]
  simp only
  rw [bind_assoc]
  refine congrArg (Program.call _) (funext fun found => ?_)
  rcases found with failure | _ | volume
  · rfl
  · exact perform_undrifted settings shared
  · change PassM.perform (_ >>= _) shared = (Stage.work settings (Stage.of shared _)).perform shared
    simp only [Stage.of]
    cases labelled : otherOwner? volume shared with
    | some other =>
      simp only
      rw [bind_assoc]
      rfl
    | none =>
      simp only
      cases read : SharedVolumeSpec.ofVolume volume with
      | error fault => exact perform_undrifted settings shared
      | ok spec =>
        simp only
        split
        · exact perform_undrifted settings shared
        · rw [bind_assoc]
          rfl

theorem meets_advance_iff {settings : Settings} {allowed : World → OperatorCall → Prop}
    {wanted : Except Failure Verdict → SharedVolume → World → Prop} {shared : SharedVolume} {world : World} :
    (advance settings).Meets allowed wanted shared world ↔
      allowed world (.volumes (.get (volumeKey shared.key))) ∧
        ((Stage.among world.volumes shared).work settings).Meets allowed wanted shared world := by
  rw [advance_eq, meets_bind, meets_get]
  simp only
  rw [meets_bind, meets_attempt, meets_fetchVolume]
  rfl

end PassM

end SharedMount
