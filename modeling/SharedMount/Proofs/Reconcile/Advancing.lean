import SharedMount.Proofs.Reconcile.Provisioning
import SharedMount.Proofs.Reconcile.Telling

/-! # How a pass over a SharedVolume that is to stay may end

`Advanced` lists the ends of such a pass: it asks for another one after a single write, or fails early
without any, or goes on to establish what the SharedVolume asks for. `Served` says what that comes to for an
owner without units. A report that was made or cannot be made is not made again.
-/

namespace SharedMount

/-- A SharedVolume as another one but for its version and its status. -/
def SharedVolume.Restated (shared later : SharedVolume) : Prop :=
  ∃ version status, later =
    { shared with
      metadata := { shared.metadata with resourceVersion := version }
      status }

namespace PassM

variable {settings : Settings} {shared shared' : SharedVolume} {world world' : World}

/-! ## Reports -/

section Reports

variable {status : SharedVolumeStatus} {result : Except Failure Unit} {phase : Phase} {message : String}

theorem Reported.restated (reported : Reported status shared world result shared' world') :
    shared.Restated shared' := by
  cases reported with
  | kept | failed => exact ⟨_, _, rfl⟩
  | written puts => exact ⟨_, _, rfl⟩

theorem Reported.store (reported : Reported status shared world result shared' world') :
    ∃ sharedVolumes : Store SharedVolume, sharedVolumes.failing = world.sharedVolumes.failing ∧
      world' = { world with sharedVolumes } := by
  cases reported with
  | kept | failed => exact ⟨_, rfl, rfl⟩
  | written puts => exact ⟨_, puts.failing, rfl⟩

theorem Reported.held (reported : Reported status shared world result shared' world')
    (held : world.sharedVolumes.object? shared.key = some shared) :
    world'.sharedVolumes.object? shared.key = some shared' := by
  cases reported with
  | kept | failed => exact held
  | written puts => exact puts.object?_self

/-- A phase and a message need no report: the SharedVolume says so, or its status cannot be written. -/
def Told (phase : Phase) (message : String) (shared : SharedVolume) (store : Store SharedVolume) : Prop :=
  (shared.status.getD {}).phase = some phase ∧ (shared.status.getD {}).message = message ∨
    store.failing .replaceStatus = true

theorem Reported.told (reported : Reported { shared.status.getD {} with phase := some phase, message }
    shared world result shared' world') : Told phase message shared' world'.sharedVolumes := by
  cases reported with
  | kept phase message => exact .inl ⟨phase, message⟩
  | failed failure faulty => exact .inr faulty
  | written puts => exact .inl ⟨rfl, rfl⟩

theorem Told.still (told : Told phase message shared world.sharedVolumes) :
    (bestEffort (report phase message)).Still shared world (.ok ()) := by
  rw [report_eq_tell]
  by_cases spoken : Says phase message shared
  · exact (still_tell_of_said spoken).bestEffort
  · have fails := told.resolve_left fun said => spoken (says_iff.mpr said)
    exact (still_iff.mpr (outcome_tell_of_refused spoken (.fault fails))).bestEffort

theorem SaysReady.still {claimName : String} (ready : SaysReady claimName shared) :
    (reportReady claimName).Still shared world (.ok ()) := by
  rw [reportReady_eq_tell]
  exact still_tell_of_said ready

/-- Reporting that all is ready once more ends in the same way and writes nothing. -/
theorem reportReady_again {claimName : String}
    (held : world.sharedVolumes.object? shared.key = some shared) :
    (reportReady claimName).Meets (fun _ _ => True) (fun result shared' world' =>
      Reported (readyStatus claimName) shared world result shared' world' ∧
        (reportReady claimName).Still shared' world' result ∧
        (result = .ok () → SaysReady claimName shared')) shared world := by
  have once : (reportReady claimName).Meets (fun _ _ => True) (fun result shared' world' =>
      Reported (readyStatus claimName) shared world result shared' world' ∧
        (result = .ok () → SaysReady claimName shared')) shared world := by
    rw [reportReady, meets_bind, meets_get]
    simp only
    split
    · rename_i same
      exact ⟨.kept same.1 same.2.2, fun _ => ⟨same.1, same.2.1, same.2.2⟩⟩
    · exact meets_writeStatus trivial held (fun failure faulty => ⟨.failed failure faulty, by simp⟩)
        (fun _ puts => ⟨.written puts, fun _ => ⟨rfl, rfl, rfl⟩⟩)
  refine once.outcome.imp ?_
  rintro result shared' world' ⟨⟨reported, ready⟩, ends⟩
  refine ⟨reported, ?_, ready⟩
  rcases result with failure | ⟨⟩
  · cases reported
    exact still_iff.mpr ends
  · exact (ready rfl).still

end Reports

/-! ## Serving -/

/-- What serving comes to: it would end in the same way once more and change nothing. Success means that
all is provided and reported; without success the spec is invalid or some operation was made to fail. -/
structure Served (settings : Settings) (shared : SharedVolume) (world : World)
    (result : Except Failure Verdict) (shared' : SharedVolume) (world' : World) : Prop where
  restated : shared.Restated shared'
  noticed : shared'.phase?.isSome
  held : world'.sharedVolumes.object? shared.key = some shared'
  failing : world'.sharedVolumes.failing = world.sharedVolumes.failing
  undrifted : Undrifted shared' world'.volumes
  still : (serve settings).Still shared' world' result
  succeeded {verdict : Verdict} (ended : result = .ok verdict) : verdict = .settled ∧
    Provisioned settings shared world world' ∧ SaysReady (claimKey shared.key).name shared'
  failed {failure : Failure} (ended : result = .error failure) : shared.spec.faultText? ≠ none ∨
    ∃ operation, world.sharedVolumes.failing operation = true ∨ world.volumes.failing operation = true ∨
      world.claims.failing operation = true

/-- What a report at the end of serving leaves. -/
private theorem Reported.served {status : SharedVolumeStatus} {outcome : Except Failure Unit}
    {result : Except Failure Verdict} {world₁ : World}
    (reported : Reported status shared world₁ outcome shared' world') (phased : status.phase.isSome)
    (noticed : shared.phase?.isSome) (sharedVolumes : world₁.sharedVolumes = world.sharedVolumes)
    (held : world.sharedVolumes.object? shared.key = some shared)
    (undrifted : Undrifted shared world₁.volumes) (still : (serve settings).Still shared' world' result)
    (succeeded : ∀ verdict, result = .ok verdict → verdict = .settled ∧
      Provisioned settings shared world world' ∧ SaysReady (claimKey shared.key).name shared')
    (failed : ∀ failure, result = .error failure → shared.spec.faultText? ≠ none ∨
      ∃ operation, world.sharedVolumes.failing operation = true ∨
        world.volumes.failing operation = true ∨ world.claims.failing operation = true) :
    Served settings shared world result shared' world' where
  restated := reported.restated
  noticed := by
    cases reported with
    | kept | failed => exact noticed
    | written puts => exact phased
  held := reported.held (sharedVolumes ▸ held)
  failing := by
    obtain ⟨stored, failing, rfl⟩ := reported.store
    exact failing.trans (congrArg _ sharedVolumes)
  undrifted := by
    obtain ⟨version, status, rfl⟩ := reported.restated
    obtain ⟨stored, -, rfl⟩ := reported.store
    exact ⟨undrifted.readable, undrifted.agrees⟩
  still := still
  succeeded := succeeded _
  failed := failed _

private theorem still_serve_invalid {message : String} (invalid : shared.spec.faultText? = some message)
    (told : Told .failed message shared world.sharedVolumes) :
    (serve settings).Still shared world (.error (.validation message)) := by
  refine still_get.bind ?_
  simp only [invalid]
  exact told.still.bind ⟨rfl, rfl, rfl⟩

private theorem still_serve_failed {failure : Failure} (valid : shared.spec.faultText? = none)
    (provision : (provision settings).Still shared world (.error failure))
    (told : Told .failed failure.message shared world.sharedVolumes) :
    (serve settings).Still shared world (.error failure) := by
  refine still_get.bind ?_
  simp only [valid]
  exact provision.attempt.bind (told.still.bind ⟨rfl, rfl, rfl⟩)

theorem still_serve_ready {result : Except Failure Unit} (valid : shared.spec.faultText? = none)
    (provision : (provision settings).Still shared world (.ok ()))
    (report : (reportReady (claimKey shared.key).name).Still shared world result) :
    (serve settings).Still shared world (result.map fun _ => .settled) := by
  refine still_get.bind ?_
  simp only [valid]
  refine provision.attempt.bind ?_
  cases result with
  | error failure => exact report.bind_error
  | ok value => exact report.bind ⟨rfl, rfl, rfl⟩

theorem meets_serve (settings : Settings) (held : world.sharedVolumes.object? shared.key = some shared)
    (noticed : shared.phase?.isSome) (undrifted : Undrifted shared world.volumes)
    (unlisted : world.roster.Lacks shared.key)
    (calmVolume : ¬world.volumes.Terminating (volumeKey shared.key))
    (calmClaim : ¬world.claims.Terminating (claimKey shared.key)) :
    (serve settings).Meets (fun _ _ => True) (Served settings shared world) shared world := by
  rw [serve, meets_bind, meets_get]
  simp only
  cases valid : shared.spec.faultText? with
  | some message =>
    simp only
    rw [meets_bind]
    refine meets_reportFailure trivial held ?_
    intro result shared' world' reported
    have spec : shared'.spec = shared.spec := by
      obtain ⟨version, status, rfl⟩ := reported.restated
      rfl
    exact reported.served rfl noticed rfl held undrifted
      (still_serve_invalid (spec ▸ valid) reported.told) (by simp) fun _ _ => .inl (by simp [valid])
  | none =>
    simp only
    rw [meets_bind, meets_attempt]
    refine (meets_provision undrifted valid unlisted calmVolume calmClaim).imp ?_
    rintro result shared₁ world₁ ⟨rfl, sharedVolumes, undrifted₁, still, ends⟩
    have held₁ : world₁.sharedVolumes.object? shared₁.key = some shared₁ := sharedVolumes ▸ held
    rcases result with failure | ⟨⟩
    · simp only
      rw [meets_bind]
      refine meets_reportFailure trivial held₁ ?_
      intro result shared' world' reported
      have again : (serve settings).Still shared' world' (.error failure) := by
        have told := reported.told
        obtain ⟨version, status, rfl⟩ := reported.restated
        obtain ⟨stored, -, rfl⟩ := reported.store
        exact still_serve_failed valid (still _ _ rfl) told
      exact reported.served rfl noticed sharedVolumes held undrifted₁ again (by simp)
        fun _ _ => .inr (ends.imp fun _ => .inr)
    · simp only
      rw [meets_bind]
      refine (reportReady_again held₁).imp ?_
      rintro result shared' world' ⟨reported, readyStill, ready⟩
      have again : (serve settings).Still shared' world' (result.map fun _ => .settled) := by
        obtain ⟨version, status, rfl⟩ := reported.restated
        obtain ⟨stored, -, rfl⟩ := reported.store
        exact still_serve_ready valid (still _ _ rfl) readyStill
      have provided : Provisioned settings shared₁ world world' := by
        have provided : Provisioned settings shared₁ world world₁ := ends
        obtain ⟨stored, -, rfl⟩ := reported.store
        exact ⟨provided.volume, provided.claim⟩
      rcases result with failure | ⟨⟩
      · refine reported.served rfl noticed sharedVolumes held undrifted₁ again (by simp) ?_
        cases reported with
        | failed failure faulty => exact fun _ _ => .inr ⟨_, .inl (sharedVolumes ▸ faulty)⟩
      · refine reported.served rfl noticed sharedVolumes held undrifted₁ again ?_ (by simp)
        rintro verdict ⟨⟩
        exact ⟨rfl, provided, ready rfl⟩

/-- When serving settles, the spec is valid, all is provided, and what is reported is that all is ready. -/
theorem serve_settled {shared' : SharedVolume} {world' : World}
    (ends : (serve settings).outcome shared world = (.ok .settled, shared', world')) :
    shared.spec.faultText? = none ∧ ∃ shared₁ world₁,
      (provision settings).outcome shared world = (.ok (), shared₁, world₁) ∧
        (reportReady (claimKey shared.key).name).outcome shared₁ world₁ = (.ok (), shared', world') := by
  rw [serve, outcome_get] at ends
  cases valid : shared.spec.faultText? with
  | some message =>
    simp only [valid] at ends
    obtain ⟨_, _, _, -, thrown⟩ := outcome_bind_ok ends
    cases thrown
  | none =>
    simp only [valid] at ends
    obtain ⟨result, shared₁, world₁, attempted, rest⟩ := outcome_bind_ok ends
    rw [outcome_attempt, Prod.mk.injEq, Except.ok.injEq] at attempted
    have provided : (provision settings).outcome shared world = (result, shared₁, world₁) :=
      Prod.ext attempted.1 attempted.2
    rcases result with failure | ⟨⟩
    · obtain ⟨_, _, _, -, thrown⟩ := outcome_bind_ok rest
      cases thrown
    · obtain ⟨⟨⟩, _, _, reported, done⟩ := outcome_bind_ok rest
      cases done
      exact ⟨rfl, shared₁, world₁, provided, reported⟩

/-! ## The stages before serving -/

/-- How a pass over a SharedVolume that is to stay may end. -/
inductive Advanced (settings : Settings) (shared : SharedVolume) (world : World) :
    Except Failure Verdict → SharedVolume → World → Prop where
  /-- Nothing was written, because some operation was made to fail. -/
  | failed (failure : Failure) (faulty : world.volumes.failing .get = true ∨
      ∃ operation, world.sharedVolumes.failing operation = true) :
      Advanced settings shared world (.error failure) shared world
  /-- The volume is labelled for another owner. -/
  | collided {volume : PersistentVolume} {other : ObjectKey} {result : Except Failure Unit}
      {shared' : SharedVolume} {world' : World} (readable : world.volumes.failing .get = false)
      (found : world.volumes.object? (volumeKey shared.key) = some volume)
      (labelled : otherOwner? volume shared = some other)
      (reported : Reported { shared.status.getD {} with
          phase := some .failed
          message := collisionText (volumeKey shared.key) other } shared world result shared' world') :
      Advanced settings shared world
        (.error (.reconcileFailed (collisionText (volumeKey shared.key) other))) shared' world'
  | reverted {volume : PersistentVolume} {spec : SharedVolumeSpec} {after : Store SharedVolume}
      (found : world.volumes.object? (volumeKey shared.key) = some volume)
      (free : FreeFor shared.key volume) (read : SharedVolumeSpec.ofVolume volume = .ok spec)
      (differs : shared.spec ≠ spec)
      (puts : world.sharedVolumes.Puts after shared.key (world.sharedVolumes.stamp { shared with spec })) :
      Advanced settings shared world (.ok .again) (world.sharedVolumes.stamp { shared with spec })
        { world with sharedVolumes := after }
  | registered {after : Store SharedVolume} (undrifted : Undrifted shared world.volumes)
      (unregistered : shared.hasFinalizer = false)
      (puts : world.sharedVolumes.Puts after shared.key
        (world.sharedVolumes.stamp (withFinalizer shared))) :
      Advanced settings shared world (.ok .again) (world.sharedVolumes.stamp (withFinalizer shared))
        { world with sharedVolumes := after }
  | noticed {status : SharedVolumeStatus} {after : Store SharedVolume}
      (undrifted : Undrifted shared world.volumes) (registered : shared.hasFinalizer = true)
      (unnoticed : shared.phase? = none) (phased : status.phase.isSome)
      (puts : world.sharedVolumes.Puts after shared.key
        (world.sharedVolumes.stamp { shared with status := some status })) :
      Advanced settings shared world (.ok .again)
        (world.sharedVolumes.stamp { shared with status := some status })
        { world with sharedVolumes := after }
  /-- What the SharedVolume asks for was established as far as possible. -/
  | served {result : Except Failure Verdict} {shared' : SharedVolume} {world' : World}
      (undrifted : Undrifted shared world.volumes) (registered : shared.hasFinalizer = true)
      (noticed : shared.phase?.isSome)
      (ends : (serve settings).outcome shared world = (result, shared', world')) :
      Advanced settings shared world result shared' world'

section Advance

variable (settings) (held : world.sharedVolumes.object? shared.key = some shared)
  (stays : shared.isDeleting = false)

include held

private theorem meets_notice (undrifted : Undrifted shared world.volumes)
    (registered : shared.hasFinalizer = true) :
    (do
      if (← get).phase?.isNone then
        report .pending ""
        return Verdict.again
      else serve settings : PassM Verdict).Meets (fun _ _ => True) (Advanced settings shared world) shared
        world := by
  rw [meets_bind, meets_get]
  simp only
  split
  · rename_i unnoticed
    have unnoticed := Option.isNone_iff_eq_none.mp unnoticed
    rw [meets_bind]
    refine (meets_report trivial held).imp ?_
    intro result shared' world' reported
    cases reported with
    | kept phase message =>
      rw [← SharedVolume.phase?_eq, unnoticed] at phase
      cases phase
    | failed failure faulty => exact .failed failure (.inr ⟨_, faulty⟩)
    | written puts => exact .noticed undrifted registered unnoticed rfl puts
  · rename_i noticed
    refine meets_iff_outcome.mpr (.served undrifted registered ?_ rfl)
    simpa [← Option.isSome_iff_ne_none] using noticed

include stays

private theorem meets_register (undrifted : Undrifted shared world.volumes) :
    (do
      if ← registerCleanup then return .again
      else if (← get).phase?.isNone then
        report .pending ""
        return .again
      else serve settings : PassM Verdict).Meets (fun _ _ => True) (Advanced settings shared world) shared
        world := by
  rw [meets_bind, registerCleanup, meets_bind, meets_get]
  simp only
  cases registered : shared.hasFinalizer with
  | true =>
    simp only [↓reduceIte]
    rw [meets_pure]
    exact meets_notice settings held undrifted registered
  | false =>
    have merged : Store.merged (withFinalizer shared) shared = withFinalizer shared := merged_eq_self rfl rfl
    simp only [Bool.false_eq_true, ↓reduceIte]
    rw [meets_bind]
    refine meets_replace trivial held rfl rfl ?_ ?_ ?_
    · exact fun failure faulty => .failed failure (.inr ⟨_, faulty⟩)
    · exact fun after finishes _ => absurd stays finishes.not_stays
    · intro after _ puts
      rw [merged] at puts ⊢
      exact .registered undrifted registered puts

/-- A pass over a SharedVolume that is to stay ends in one of these ways. -/
theorem meets_advance :
    (advance settings).Meets (fun _ _ => True) (Advanced settings shared world) shared world := by
  rw [advance, meets_bind, revertDrift, meets_bind, meets_get]
  simp only
  rw [meets_bind, meets_fetchVolume]
  refine ⟨trivial, ?_⟩
  cases readable : world.volumes.failing .get with
  | true =>
    rw [Store.get, Store.check_of_failing readable]
    exact .failed _ (.inl readable)
  | false =>
    rw [Store.get_eq_ok_iff.mpr ⟨readable, rfl⟩]
    cases found : world.volumes.object? (volumeKey shared.key) with
    | none => exact meets_register settings held stays ⟨readable, by simp [found]⟩
    | some volume =>
      simp only
      cases labelled : otherOwner? volume shared with
      | some other =>
        simp only
        rw [meets_bind]
        refine meets_reportFailure trivial held ?_
        exact fun result shared' world' reported => .collided readable found labelled reported
      | none =>
        have free := otherOwner?_eq_none_iff.mp labelled
        have undrifted (agrees : ∀ spec, SharedVolumeSpec.ofVolume volume = .ok spec →
            shared.spec = spec) : Undrifted shared world.volumes := by
          refine ⟨readable, fun other stored => ?_⟩
          obtain rfl : volume = other := Option.some.inj (found.symm.trans stored)
          exact ⟨free, agrees⟩
        simp only
        cases read : SharedVolumeSpec.ofVolume volume with
        | error fault => exact meets_register settings held stays (undrifted (by simp [read]))
        | ok spec =>
          simp only
          split
          · rename_i same
            exact meets_register settings held stays (undrifted (by simp [read, same]))
          · rename_i differs
            have merged : Store.merged { shared with spec } shared = { shared with spec } :=
              merged_eq_self rfl rfl
            rw [meets_bind]
            refine meets_replace trivial held rfl rfl ?_ ?_ ?_
            · exact fun failure faulty => .failed failure (.inr ⟨_, faulty⟩)
            · exact fun after finishes _ => absurd stays finishes.not_stays
            · intro after _ puts
              rw [merged] at puts ⊢
              exact .reverted found free read differs puts

end Advance

end PassM

end SharedMount
