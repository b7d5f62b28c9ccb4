import SharedMount.Proofs.Run.Contention

/-! # What a pass knows of its volume

A pass looks at the volume twice: for drift of the spec, where a volume of another owner stops it, and when
it establishes the volume, where any volume that carries the marker is content. What it knows of the volume
follows it from call to call: `Looked` and `Ensured` say what is left of it after any turns of the other
owner's passes. If the volume appeared between the two looks, it is the other owner's, and the pass goes on
to report that all is ready.
-/

namespace SharedMount

/-- The volume under the volume key of an owner. -/
def Scene.found (scene : Scene) (key : ObjectKey) : Option PersistentVolume :=
  scene.world.volumes.object? (volumeKey key)

/-- A call to anything but the volumes leaves them, and what was found of them. -/
theorem Scene.perform_elsewhere (scene : Scene) {call : OperatorCall}
    (elsewhere : ∀ volumesCall, call ≠ .volumes volumesCall) (key : ObjectKey) :
    ((Scene.perform call).run scene).2.seen = scene.seen ∧
      ((Scene.perform call).run scene).2.found key = scene.found key := by
  cases call with
  | volumes call => exact absurd rfl (elsewhere call)
  | sharedVolumes | claims | roster => exact ⟨List.append_nil _, rfl⟩

section Knowledge

variable (leaves : ObjectKey → Bool) (key other : ObjectKey)

/-- The volume is the owner's, unless the other one, which is being deleted, has removed it. -/
inductive Held : Option PersistentVolume → Prop where
  | own {volume : PersistentVolume} (labelled : owner? volume = some key) : Held (some volume)
  | removed (leaving : leaves other = true) : Held none

/-- The volume is the other owner's, which is to stay. -/
inductive Lost : Option PersistentVolume → Prop where
  | taken {volume : PersistentVolume} (stays : leaves other = false)
      (labelled : owner? volume = some other) : Lost (some volume)

/-- What is known of the volume once a pass has looked for drift and goes on. -/
inductive Looked : List (Option PersistentVolume) → Option PersistentVolume → Prop where
  | found {volume : PersistentVolume} {now : Option PersistentVolume} (held : Held leaves key other now) :
      Looked [some volume] now
  | missing : Looked [none] none
  | overtaken {now : Option PersistentVolume} (lost : Lost leaves other now) : Looked [none] now

/-- What is known of the volume once a pass has established it. -/
inductive Ensured : List (Option PersistentVolume) → Option PersistentVolume → Prop where
  | held {seen : List (Option PersistentVolume)} {now : Option PersistentVolume}
      (inTime : ¬Overtaken seen) (held : Held leaves key other now) : Ensured seen now
  | lost {seen : List (Option PersistentVolume)} {now : Option PersistentVolume} (late : Overtaken seen)
      (lost : Lost leaves other now) : Ensured seen now

end Knowledge

section Stable

variable {leaves : ObjectKey → Bool} {key other : ObjectKey} {seen : List (Option PersistentVolume)}
  {before after : Option PersistentVolume}

theorem Held.shift (held : Held leaves key other before) (shift : Shift leaves other before after) :
    Held leaves key other after := by
  cases shift with
  | same => exact held
  | created stays =>
    cases held with
    | removed leaving => exact absurd (stays.symm.trans leaving) (by simp)
  | deleted leaving => exact .removed leaving

theorem Lost.shift (lost : Lost leaves other before) (shift : Shift leaves other before after) :
    Lost leaves other after := by
  obtain ⟨stays, labelled⟩ := lost
  cases shift with
  | same => exact ⟨stays, labelled⟩
  | deleted leaving => exact absurd (stays.symm.trans leaving) (by simp)

theorem Looked.shift (looked : Looked leaves key other seen before)
    (shift : Shift leaves other before after) : Looked leaves key other seen after := by
  cases looked with
  | found held => exact .found (held.shift shift)
  | overtaken lost => exact .overtaken (lost.shift shift)
  | missing =>
    cases shift with
    | same => exact .missing
    | created stays labelled => exact .overtaken ⟨stays, labelled⟩
    | deleted => exact .missing

theorem Ensured.shift (ensured : Ensured leaves key other seen before)
    (shift : Shift leaves other before after) : Ensured leaves key other seen after := by
  cases ensured with
  | held inTime held => exact .held inTime (held.shift shift)
  | lost late lost => exact .lost late (lost.shift shift)

/-- Establishing found a volume. -/
theorem Looked.ensured {volume : PersistentVolume}
    (looked : Looked leaves key other seen (some volume)) :
    Ensured leaves key other (seen ++ [some volume]) (some volume) := by
  cases looked with
  | found held => exact .held (fun ⟨_, same⟩ => by simp at same) held
  | overtaken lost => exact .lost ⟨volume, rfl⟩ lost

/-- Establishing found none, so that one was made. -/
theorem not_overtaken_of_missing (seen : List (Option PersistentVolume)) : ¬Overtaken (seen ++ [none]) := by
  rintro ⟨volume, same⟩
  have last := congrArg List.getLast? same
  simp at last

end Stable

section Meanwhile

variable {settings : Settings} {leaves : ObjectKey → Bool} {key other : ObjectKey} {scene later : Scene}

theorem Shift.of_meanwhile (collide : volumeKey key = volumeKey other)
    (meanwhile : (contention settings leaves).Meanwhile other scene later) :
    Shift leaves other (scene.found key) (later.found key) := by
  rw [Scene.found, Scene.found, collide]
  exact meanwhile.does

theorem Looked.meanwhile (looked : Looked leaves key other scene.seen (scene.found key))
    (collide : volumeKey key = volumeKey other)
    (meanwhile : (contention settings leaves).Meanwhile other scene later) :
    Looked leaves key other later.seen (later.found key) := by
  rw [meanwhile.seen]
  exact looked.shift (.of_meanwhile collide meanwhile)

theorem Ensured.meanwhile (ensured : Ensured leaves key other scene.seen (scene.found key))
    (collide : volumeKey key = volumeKey other)
    (meanwhile : (contention settings leaves).Meanwhile other scene later) :
    Ensured leaves key other later.seen (later.found key) := by
  rw [meanwhile.seen]
  exact ensured.shift (.of_meanwhile collide meanwhile)

end Meanwhile

theorem Ensured.usurped_iff {leaves : ObjectKey → Bool} {key other : ObjectKey} {scene : Scene}
    (ensured : Ensured leaves key other scene.seen (scene.found key)) (differ : key ≠ other) :
    scene.world.Usurped key other ↔ Overtaken scene.seen := by
  cases ensured with
  | held inTime held =>
    refine iff_of_false ?_ inTime
    rintro ⟨volume, found, labelled⟩
    rw [Scene.found, found] at held
    obtain ⟨own⟩ := held
    exact differ (Option.some.inj (own.symm.trans labelled))
  | lost late lost =>
    refine iff_of_true ?_ late
    cases found : scene.found key with
    | none => rw [found] at lost; cases lost
    | some volume =>
      rw [found] at lost
      obtain ⟨-, labelled⟩ := lost
      exact ⟨volume, found, labelled⟩

/-! ## Passes -/

namespace PassM

variable {α : Type} {settings : Settings} {leaves : ObjectKey → Bool} {key other : ObjectKey}
  {shared : SharedVolume} {scene : Scene}

/-- Orderly calls that do not report that all is ready. -/
def Quiet (settings : Settings) (leaves : ObjectKey → Bool) (key : ObjectKey) (call : OperatorCall) : Prop :=
  call.Orderly settings leaves key ∧ ¬call.ReportsReady

/-- The calls by which the claim is established. -/
inductive ClaimWork (settings : Settings) : OperatorCall → Prop where
  | take (shared : SharedVolume) : ClaimWork settings (.roster (.claim shared settings))
  | claims (call : StoreCall PersistentVolumeClaim) : ClaimWork settings (.claims call)
  | record (owner : ObjectKey) (latest : Option PersistentVolumeClaim) :
      ClaimWork settings (.roster (.recordClaim owner latest))

theorem ClaimWork.allowed {call : OperatorCall} (work : ClaimWork settings call) :
    (contention settings leaves).allowed key other scene call := by
  cases work with
  | take shared => exact ⟨.takeClaim shared, False.elim⟩
  | claims call => exact ⟨.claims call, False.elim⟩
  | record owner latest => exact ⟨.recordClaim owner latest, False.elim⟩

theorem ClaimWork.elsewhere {call : OperatorCall} (work : ClaimWork settings call)
    (volumesCall : StoreCall PersistentVolume) : call ≠ .volumes volumesCall := by
  cases work <;> nofun

theorem quiet_replace (updated : SharedVolume) :
    Quiet settings leaves key (.sharedVolumes (.replace updated)) :=
  ⟨.sharedVolumes nofun nofun, id⟩

theorem makes_report_of_unready {phase : Phase} (unready : phase ≠ .ready) (message : String) :
    (report phase message).Makes (Quiet settings leaves key) := by
  refine makes_report fun shared reported => ?_
  refine ⟨.sharedVolumes nofun nofun, ?_⟩
  change shared.phase? ≠ some .ready
  rw [reported]
  exact fun same => unready (Option.some.inj same)

theorem makes_reportFailure (message : String) :
    (reportFailure message).Makes (Quiet settings leaves key) :=
  (makes_report_of_unready (by decide) message).bestEffort

/-- Work on a SharedVolume that is being deleted, whatever is answered to it. -/
theorem makes_retire (leaving : leaves key = true) :
    (retire settings).Makes (Quiet settings leaves key) := by
  have claim : (withClaimUnit settings Upkeep.withdraw).Makes (Quiet settings leaves key) :=
    makes_withClaimUnit (fun shared => ⟨.takeClaim shared, id⟩) (fun call => ⟨.claims call, id⟩)
      (fun owner latest => ⟨.recordClaim owner latest, id⟩)
  have volume : (withVolumeUnit settings Upkeep.withdraw).Makes (Quiet settings leaves key) :=
    makes_withdrawVolume (fun shared => ⟨.takeVolume shared, id⟩) (fun target => ⟨.readVolume target, id⟩)
      (fun target => ⟨.deleteVolume leaving target, id⟩)
      (fun owner => ⟨.recordVolume (by simp), id⟩)
  have removal : (removeDependents settings).Makes (Quiet settings leaves key) := by
    refine claim.bind fun _ => makes_get.bind fun shared => ?_
    refine (makes_fetchVolume ⟨.readVolume _, id⟩).bind fun found => ?_
    split
    · exact makes_pure ()
    · exact volume
  have cleaned : (cleanUp settings).Makes (Quiet settings leaves key) := by
    refine makes_get.bind fun shared => ?_
    split
    · refine removal.attempt.bind fun removed => ?_
      refine (makes_onRoster ⟨.dismiss shared.key, id⟩).bind fun _ => ?_
      exact (makes_ofResult removed).bind fun _ => (makes_replace (quiet_replace _)).mapFailure _
    · exact makes_pure ()
  exact (makes_report_of_unready (by decide) "").bestEffort.bind fun _ =>
    cleaned.bind fun _ => makes_pure _

/-- A task that makes no calls but quiet ones may be done at any time. -/
theorem Makes.quiet {task : PassM α} (makes : task.Makes (Quiet settings leaves key)) :
    task.Withstands Scene.perform ((contention settings leaves).Meanwhile other)
      ((contention settings leaves).allowed key other) (fun _ _ _ => True) shared scene :=
  makes.withstands (fun _ _ _ _ => trivial)
    (fun _ _ _ quiet => ⟨quiet.1, fun reports => absurd reports quiet.2⟩) (fun _ _ _ _ => trivial) trivial

/-- Reporting a failure and failing. -/
private theorem fail_bears {wanted : Except Failure α → SharedVolume → Scene → Prop} (message : String)
    (failure : Failure) (failed : ∀ failure shared scene, wanted (.error failure) shared scene) :
    (do reportFailure message; throw failure : PassM α).Withstands Scene.perform
      ((contention settings leaves).Meanwhile other) ((contention settings leaves).allowed key other)
      wanted shared scene := by
  rw [withstands_bind]
  refine (makes_reportFailure message).quiet.imp ?_
  rintro (failure | ⟨⟩) shared scene -
  · exact failed ..
  · exact failed ..

/-- Looking at the volume under a key. -/
private theorem fetchVolume_bears {target : ObjectKey}
    {wanted : Except Failure (Option PersistentVolume) → SharedVolume → Scene → Prop}
    (failed : ∀ failure later, wanted (.error failure) shared later)
    (looked : ∀ later, (contention settings leaves).Meanwhile other scene later →
      wanted (.ok (later.world.volumes.object? target)) shared
        ⟨later.world, later.seen ++ [later.world.volumes.object? target]⟩) :
    (fetchVolume target).Withstands Scene.perform ((contention settings leaves).Meanwhile other)
      ((contention settings leaves).allowed key other) wanted shared scene := by
  rw [withstands_fetchVolume]
  intro later meanwhile
  refine ⟨⟨.readVolume _, False.elim⟩, ?_⟩
  have performed : (Scene.perform (.volumes (.get target))).run later =
      (later.world.volumes.get target,
        ⟨later.world, later.seen ++ (later.world.volumes.get target).toOption.toList⟩) := rfl
  rw [performed]
  cases works : later.world.volumes.failing .get with
  | true =>
    rw [Store.get, Store.check_of_failing works]
    exact failed ..
  | false =>
    rw [Store.get_eq_ok_iff.mpr ⟨works, rfl⟩]
    exact looked later meanwhile

/-- Looking for drift of the spec: a pass goes on if there is no volume, or one of its own. -/
private theorem revertDrift_bears (own : shared.key = key) (unseen : scene.seen = []) :
    revertDrift.Withstands Scene.perform ((contention settings leaves).Meanwhile other)
      ((contention settings leaves).allowed key other)
      (fun result shared' scene' => result = .ok false →
        shared' = shared ∧ Looked leaves key other scene'.seen (scene'.found key)) shared scene := by
  subst own
  rw [revertDrift, withstands_bind, withstands_get]
  simp only
  rw [withstands_bind]
  refine fetchVolume_bears (fun _ _ => by simp) fun later meanwhile => ?_
  have seen : later.seen = [] := meanwhile.seen.trans unseen
  rw [seen]
  cases found : later.world.volumes.object? (volumeKey shared.key) with
  | none =>
    simp only
    rw [withstands_pure, Scene.found, found]
    exact fun _ => ⟨rfl, .missing⟩
  | some volume =>
    simp only
    cases labelled : otherOwner? volume shared with
    | some owner => exact fail_bears _ _ fun _ _ _ => by simp
    | none =>
      have looked : Looked leaves shared.key other [some volume]
          (Scene.found ⟨later.world, [some volume]⟩ shared.key) := by
        obtain ⟨owner, belongs⟩ := meanwhile.holds.volume found
        obtain rfl := otherOwner?_eq_none_iff.mp labelled owner belongs.labelled
        rw [Scene.found, found]
        exact .found (.own belongs.labelled)
      simp only
      cases SharedVolumeSpec.ofVolume volume with
      | error fault =>
        simp only
        rw [withstands_pure]
        exact fun _ => ⟨rfl, looked⟩
      | ok spec =>
        simp only
        split
        · rw [withstands_pure]
          exact fun _ => ⟨rfl, looked⟩
        · rw [withstands_bind]
          refine (makes_replace (quiet_replace _)).quiet.imp ?_
          rintro (failure | ⟨⟩) _ _ - continues <;> cases continues

/-- Registering for cleanup, which comes before any further work. -/
private theorem registerCleanup_bears (looked : Looked leaves key other scene.seen (scene.found key)) :
    registerCleanup.Withstands Scene.perform ((contention settings leaves).Meanwhile other)
      ((contention settings leaves).allowed key other)
      (fun result shared' scene' => result = .ok false →
        shared' = shared ∧ Looked leaves key other scene'.seen (scene'.found key)) shared scene := by
  rw [registerCleanup, withstands_bind, withstands_get]
  simp only
  split
  · rw [withstands_pure]
    exact fun _ => ⟨rfl, looked⟩
  · rw [withstands_bind]
    refine (makes_replace (quiet_replace _)).quiet.imp ?_
    rintro (failure | ⟨⟩) _ _ - continues <;> cases continues

/-- Creating the volume where none was found. -/
private theorem createVolume_bears (stays : leaves key = false) {volume : PersistentVolume}
    (belongs : BelongsTo key (volumeKey key) volume) (inTime : ¬Overtaken scene.seen) :
    (ofProgram (.onVolumes (StoreProgram.create volume))).Withstands Scene.perform
      ((contention settings leaves).Meanwhile other) ((contention settings leaves).allowed key other)
      (fun result shared' scene' => shared' = shared ∧ ∀ created, result = .ok created →
        BelongsTo key (volumeKey key) created ∧ Ensured leaves key other scene'.seen (scene'.found key))
      shared scene := by
  rw [withstands_createVolume]
  intro later meanwhile
  refine ⟨⟨.createVolume stays belongs, False.elim⟩, ?_⟩
  rw [Scene.perform_of_unseeing fun _ => rfl]
  have performed : (World.perform (.volumes (.create volume))).run later.world =
      ((later.world.volumes.perform (.create volume)).1, { later.world with
        volumes := (later.world.volumes.perform (.create volume)).2 }) := rfl
  rw [performed]
  rcases later.world.volumes.create_cases volume with
    ⟨failure, result⟩ | ⟨after, result, -, -, puts⟩ <;> rw [result]
  · exact ⟨rfl, by simp⟩
  · have made := belongs.stamp later.world.volumes
    rw [belongs.identity] at puts
    refine ⟨rfl, ?_⟩
    rintro _ ⟨⟩
    refine ⟨made, ?_⟩
    rw [Scene.found, puts.object?_self, meanwhile.seen]
    exact .held inTime (.own made.labelled)

/-- Recording what the unit for the volume has seen. -/
private theorem recordVolume_bears (collide : volumeKey key = volumeKey other)
    {latest : Option PersistentVolume}
    (seen : ∀ volume, latest = some volume → ∃ owner, BelongsTo owner (volumeKey key) volume)
    (ensured : Ensured leaves key other scene.seen (scene.found key)) :
    (ofProgram (.onRoster (.recordVolume key latest))).Withstands Scene.perform
      ((contention settings leaves).Meanwhile other) ((contention settings leaves).allowed key other)
      (fun result shared' scene' => shared' = shared ∧
        (result = .ok () → Ensured leaves key other scene'.seen (scene'.found key))) shared scene := by
  refine (withstands_onRoster (.recordVolume key latest)).mpr fun later meanwhile =>
    ⟨⟨.recordVolume seen, False.elim⟩, rfl, fun _ => ?_⟩
  rw [Scene.perform_of_unseeing fun _ => rfl]
  have ensured := ensured.meanwhile collide meanwhile
  exact ensured

/-- Establishing the volume: one that is there is content, whoever it belongs to. -/
private theorem establish_bears (collide : volumeKey key = volumeKey other) (stays : leaves key = false)
    {builder : SharedVolume} (own : builder.key = key) {unit : Upkeep PersistentVolume}
    (charged : unit.ChargedAs (volumeUpkeep builder settings))
    (belongs : BelongsTo key (volumeKey key) unit.wanted)
    (looked : Looked leaves key other scene.seen (scene.found key)) :
    (do
      let later ← ofProgram (.onVolumes unit.establish)
      ofProgram (.onRoster (.recordVolume key later.latest)) : PassM Unit).Withstands Scene.perform
      ((contention settings leaves).Meanwhile other) ((contention settings leaves).allowed key other)
      (fun result shared' scene' => shared' = shared ∧
        (result = .ok () → Ensured leaves key other scene'.seen (scene'.found key))) shared scene := by
  rw [Upkeep.establish, OperatorProgram.onVolumes_bind, ofProgram_bind, bind_assoc, withstands_bind]
  have target : unit.key = volumeKey key := own ▸ charged.key_eq
  rw [target]
  refine fetchVolume_bears (fun _ _ => ⟨rfl, by simp⟩) fun later meanwhile => ?_
  have looked := looked.meanwhile collide meanwhile
  cases found : later.world.volumes.object? (volumeKey key) with
  | none =>
    simp only
    rw [OperatorProgram.onVolumes_bind, ofProgram_bind, bind_assoc, withstands_bind]
    refine (createVolume_bears stays (belongs.withVersion none) (not_overtaken_of_missing _)).imp ?_
    rintro (failure | created) shared' scene' ⟨rfl, made⟩
    · exact ⟨rfl, by simp⟩
    · obtain ⟨belongs, ensured⟩ := made created rfl
      refine recordVolume_bears collide ?_ ensured
      rintro _ ⟨⟩
      exact ⟨key, belongs⟩
  | some stored =>
    rw [Scene.found, found] at looked
    have accepts : unit.accepts stored = true := meanwhile.holds.accepts charged found
    simp only [accepts, ↓reduceIte]
    refine recordVolume_bears collide ?_ ?_
    · rintro _ ⟨⟩
      exact meanwhile.holds.volume found
    · rw [Scene.found, found]
      exact looked.ensured

/-- Establishing the volume with the unit that the roster keeps for the owner. -/
private theorem establishVolume_bears (collide : volumeKey shared.key = volumeKey other)
    (named : shared.key.Named) (stays : leaves shared.key = false)
    (looked : Looked leaves shared.key other scene.seen (scene.found shared.key)) :
    (withVolumeUnit settings Upkeep.establish).Withstands Scene.perform
      ((contention settings leaves).Meanwhile other)
      ((contention settings leaves).allowed shared.key other)
      (fun result shared' scene' => shared' = shared ∧
        (result = .ok () → Ensured leaves shared.key other scene'.seen (scene'.found shared.key)))
      shared scene := by
  rw [withVolumeUnit, withstands_bind, withstands_get]
  simp only
  rw [withstands_bind]
  refine (withstands_onRoster (.volume shared settings)).mpr fun later meanwhile =>
    ⟨⟨.takeVolume shared, False.elim⟩, ?_⟩
  rw [Scene.perform_of_unseeing fun _ => rfl]
  have take : OperatorCall.Orderly settings leaves shared.key (.roster (.volume shared settings)) :=
    .takeVolume shared
  have contested := (meanwhile.holds.perform take).1
  have listed := later.world.roster.unit?_volume shared settings
  obtain ⟨builder, built, charged⟩ := contested.units _ _ listed
  have looked := looked.meanwhile collide meanwhile
  exact establish_bears collide stays built charged (contested.belongsTo_wanted named listed) looked

/-- Establishing the claim is no matter of the volume. -/
private theorem establishClaim_bears (collide : volumeKey key = volumeKey other)
    (ensured : Ensured leaves key other scene.seen (scene.found key)) :
    (withClaimUnit settings Upkeep.establish).Withstands Scene.perform
      ((contention settings leaves).Meanwhile other) ((contention settings leaves).allowed key other)
      (fun _ _ scene' => Ensured leaves key other scene'.seen (scene'.found key)) shared scene := by
  have work : (withClaimUnit settings Upkeep.establish).Makes (ClaimWork settings) :=
    makes_withClaimUnit (fun shared => .take shared) (fun call => .claims call)
      (fun owner latest => .record owner latest)
  refine work.withstands (fun _ _ ensured meanwhile => ensured.meanwhile collide meanwhile) ?_ ?_ ensured
  · exact fun _ call _ work => work.allowed
  · intro scene call ensured work
    obtain ⟨seen, found⟩ := scene.perform_elsewhere work.elsewhere key
    rwa [seen, found]

/-- Establishing the volume and then the claim. -/
private theorem provision_bears (collide : volumeKey key = volumeKey other) (named : key.Named)
    (stays : leaves key = false) (own : shared.key = key)
    (looked : Looked leaves key other scene.seen (scene.found key)) :
    (provision settings).Withstands Scene.perform ((contention settings leaves).Meanwhile other)
      ((contention settings leaves).allowed key other)
      (fun result _ scene' => result = .ok () →
        Ensured leaves key other scene'.seen (scene'.found key)) shared scene := by
  subst own
  rw [provision, withstands_bind]
  refine (establishVolume_bears collide named stays looked).imp ?_
  rintro (failure | ⟨⟩) shared' scene' ⟨rfl, ensured⟩
  · simp
  · exact (establishClaim_bears collide (ensured rfl)).imp fun _ _ _ ensured _ => ensured

/-- Reporting what this pass has established. -/
private theorem reportReady_bears (differ : key ≠ other) (collide : volumeKey key = volumeKey other)
    (ensured : Ensured leaves key other scene.seen (scene.found key)) (claimName : String) :
    (reportReady claimName).Withstands Scene.perform ((contention settings leaves).Meanwhile other)
      ((contention settings leaves).allowed key other)
      (fun _ _ scene' => Ensured leaves key other scene'.seen (scene'.found key)) shared scene := by
  have report : (reportReady claimName).Makes
      fun call => ∃ shared, call = .sharedVolumes (.replaceStatus shared) :=
    makes_reportReady fun shared => ⟨shared, rfl⟩
  refine report.withstands (fun _ _ ensured meanwhile => ensured.meanwhile collide meanwhile) ?_ ?_ ensured
  · rintro scene _ ensured ⟨shared, rfl⟩
    exact ⟨.sharedVolumes nofun nofun, fun _ => ensured.usurped_iff differ⟩
  · rintro scene call ensured ⟨shared, reports⟩
    have elsewhere (volumesCall : StoreCall PersistentVolume) : call ≠ .volumes volumesCall := by
      rw [reports]
      nofun
    obtain ⟨seen, found⟩ := scene.perform_elsewhere elsewhere key
    rwa [seen, found]

/-- Serving: what is reported in the end was established by this pass. -/
private theorem serve_bears (differ : key ≠ other) (collide : volumeKey key = volumeKey other)
    (named : key.Named) (stays : leaves key = false) (own : shared.key = key)
    (looked : Looked leaves key other scene.seen (scene.found key)) :
    (serve settings).Withstands Scene.perform ((contention settings leaves).Meanwhile other)
      ((contention settings leaves).allowed key other) (fun _ _ _ => True) shared scene := by
  rw [serve, withstands_bind, withstands_get]
  simp only
  cases shared.spec.faultText? with
  | some message => exact fail_bears _ _ fun _ _ _ => trivial
  | none =>
    simp only
    rw [withstands_bind, withstands_attempt]
    refine (provision_bears collide named stays own looked).imp ?_
    rintro (failure | ⟨⟩) shared' scene' ensured
    · exact fail_bears _ _ fun _ _ _ => trivial
    · simp only
      rw [withstands_bind]
      refine (reportReady_bears differ collide (ensured rfl) _).imp ?_
      rintro (failure | ⟨⟩) _ _ - <;> trivial

/-- Work on a SharedVolume that is to stay. -/
private theorem advance_bears (differ : key ≠ other) (collide : volumeKey key = volumeKey other)
    (named : key.Named) (stays : leaves key = false) (own : shared.key = key) (unseen : scene.seen = []) :
    (advance settings).Withstands Scene.perform ((contention settings leaves).Meanwhile other)
      ((contention settings leaves).allowed key other) (fun _ _ _ => True) shared scene := by
  rw [advance, withstands_bind]
  refine (revertDrift_bears own unseen).imp ?_
  rintro (failure | _ | _) shared' scene' continues
  · trivial
  · obtain ⟨rfl, looked⟩ := continues rfl
    simp only [Bool.false_eq_true, ↓reduceIte]
    rw [withstands_bind]
    refine (registerCleanup_bears looked).imp ?_
    rintro (failure | _ | _) shared'' scene'' continues
    · trivial
    · obtain ⟨rfl, looked⟩ := continues rfl
      simp only [Bool.false_eq_true, ↓reduceIte]
      rw [withstands_bind, withstands_get]
      simp only
      split
      · rw [withstands_bind]
        refine (makes_report_of_unready (by decide) "").quiet.imp ?_
        rintro (failure | ⟨⟩) _ _ - <;> trivial
      · exact serve_bears differ collide named stays own looked
    · trivial
  · trivial

end PassM

/-- A pass keeps to the discipline as long as passes for a key with the same volume do. -/
theorem reconcile_bears {settings : Settings} {leaves : ObjectKey → Bool} {key other : ObjectKey}
    (differ : key ≠ other) (collide : volumeKey key = volumeKey other) (named : key.Named) (world : World) :
    (contention settings leaves).Bears key other (reconcile settings key).run ⟨world, []⟩ := by
  intro later meanwhile
  refine ⟨⟨.sharedVolumes nofun nofun, False.elim⟩, ?_⟩
  rw [Scene.perform_of_unseeing fun _ => rfl]
  have performed : (World.perform (.sharedVolumes (.get key))).run later.world =
      (later.world.sharedVolumes.get key, later.world) := rfl
  rw [performed]
  cases works : later.world.sharedVolumes.failing .get with
  | true =>
    rw [Store.get, Store.check_of_failing works]
    trivial
  | false =>
    rw [Store.get_eq_ok_iff.mpr ⟨works, rfl⟩]
    cases found : later.world.sharedVolumes.object? key with
    | none => exact fun _ _ => ⟨⟨.dismiss key, False.elim⟩, trivial⟩
    | some shared =>
      obtain rfl : shared.key = key := meanwhile.holds.sharedVolumes _ _ found
      have marked := meanwhile.holds.marks found
      have pass : (PassM.pass settings).Withstands Scene.perform
          ((contention settings leaves).Meanwhile other)
          ((contention settings leaves).allowed shared.key other) (fun _ _ _ => True) shared later := by
        rw [PassM.pass, PassM.withstands_bind, PassM.withstands_get]
        simp only
        split
        · rename_i leaving
          exact (PassM.makes_retire (marked ▸ leaving)).quiet
        · rename_i stays
          exact PassM.advance_bears differ collide named (by rw [← marked]; simpa using stays) rfl
            meanwhile.seen
      exact (Program.withstands_bind ((PassM.pass settings).perform shared) _).mpr
        (pass.imp fun _ _ _ _ => trivial)

end SharedMount
