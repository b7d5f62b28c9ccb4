import SharedMount.Proofs.Run.Tidy

/-! # Tidy worlds stay tidy

Every permitted call keeps a tidy world tidy, if the pass that makes it started in a tidy world. So do
complete passes, and so does everything else that users and faults bring about.
-/

namespace SharedMount

namespace World.Tidy

variable {settings : Settings} {start world : World} {key : ObjectKey}

/-! ## Writes of the SharedVolume -/

/-- Writing a SharedVolume over the stored one, whose status stays as it is. -/
private theorem replaceShared (tidy : world.Tidy settings) {shared updated : SharedVolume}
    (kept : { world with
      sharedVolumes := (world.sharedVolumes.perform (.replace updated)).2 }.WellKept settings)
    (held : world.sharedVolumes.object? key = some shared) (own : updated.key = shared.key)
    (registered : world.HasDependents key →
      updated.hasFinalizer = true ∧ ¬Store.Finishes updated shared)
    (ready : shared.hasFinalizer = true → shared.isDeleting = false → updated.hasFinalizer = true) :
    { world with
      sharedVolumes := (world.sharedVolumes.perform (.replace updated)).2 }.Tidy settings := by
  obtain rfl : updated.key = key := own.trans (tidy.sharedVolumes _ _ held)
  rcases world.sharedVolumes.perform_replace updated with
    same | ⟨present, found, ⟨finishes, drops⟩ | ⟨-, puts⟩⟩
  · rwa [same]
  · obtain rfl := Option.some.inj (held.symm.trans found)
    exact tidy.dropShared kept drops fun dependents => (registered dependents).2 finishes
  · obtain rfl := Option.some.inj (held.symm.trans found)
    refine tidy.putShared kept puts (tidy.named held) (fun dependents => (registered dependents).1) ?_
    intro phase stays
    have provided := tidy.ready held phase stays
    exact ⟨ready provided.registered stays, provided.volume, provided.claim⟩

/-- Storing a status of a SharedVolume, which has to be true of it if it says that all is ready. -/
private theorem replaceStatusShared (tidy : world.Tidy settings) {shared : SharedVolume}
    {status : SharedVolumeStatus}
    (kept : { world with sharedVolumes := (world.sharedVolumes.perform
      (.replaceStatus { shared with status := some status })).2 }.WellKept settings)
    (held : world.sharedVolumes.object? key = some shared)
    (ready : status.phase = some .ready → shared.isDeleting = false →
      world.Provided settings key shared) :
    { world with sharedVolumes := (world.sharedVolumes.perform
      (.replaceStatus { shared with status := some status })).2 }.Tidy settings := by
  obtain rfl : shared.key = key := tidy.sharedVolumes _ _ held
  rcases world.sharedVolumes.perform_replaceStatus { shared with status := some status } with
    same | ⟨present, found, puts⟩
  · rwa [same]
  · obtain rfl := Option.some.inj (held.symm.trans found)
    have finalizer := tidy.hasFinalizer_of_dependents held
    refine tidy.putShared kept puts (tidy.named held) finalizer fun phase stays => ?_
    have provided := ready phase stays
    exact ⟨provided.registered, provided.volume, provided.claim⟩

/-- Where the dependents of an owner are gone and its units are dropped, nothing is there for it. -/
private theorem no_dependents (tidy : world.Tidy settings)
    (claim : world.claims.Leaving (claimKey key))
    (volume : ∀ volume, world.volumes.object? (volumeKey key) = some volume →
      volume.metadata.isDeleting = true ∨ ¬FreeFor key volume)
    (volumeUnit : world.roster.volumes.unit? key = none)
    (claimUnit : world.roster.claims.unit? key = none) : ¬world.HasDependents key := by
  intro dependents
  cases dependents with
  | @volume _ present stored labelled =>
    obtain ⟨owner, rfl, belongs⟩ := tidy.volume stored
    obtain rfl := Option.some.inj (belongs.labelled.symm.trans labelled)
    rcases volume present stored with marked | foreign
    · exact tidy.not_terminating_volume ⟨present, stored, marked⟩
    · exact foreign belongs.freeFor
  | @claim _ present stored labelled =>
    obtain ⟨owner, rfl, belongs⟩ := tidy.claim stored
    obtain rfl := Option.some.inj (belongs.labelled.symm.trans labelled)
    exact tidy.not_terminating_claim ⟨present, stored, claim present stored⟩
  | volumeUnit listed =>
    rw [volumeUnit] at listed
    cases listed
  | claimUnit listed =>
    rw [claimUnit] at listed
    cases listed

/-! ## Work of the units -/

theorem named_of_registered (tidy : world.Tidy settings) (registered : world.Registered key) :
    key.Named := by
  obtain ⟨shared, stored, -⟩ := registered
  exact tidy.named stored

theorem ownVolume_wanted (tidy : world.Tidy settings) {unit : Numbered PersistentVolume}
    (listed : world.roster.volumes.unit? key = some unit) : OwnVolume key unit.upkeep.wanted := by
  obtain ⟨registered, seen⟩ := tidy.volumeUnit listed
  obtain ⟨shared, rfl, charged⟩ := tidy.volumeUnits _ _ listed
  refine Upkeep.belongsTo_wanted ?_ seen
  rw [charged.definition_eq]
  exact belongsTo_volumeDefinition (tidy.named_of_registered registered) settings

theorem ownClaim_wanted (tidy : world.Tidy settings) {unit : Numbered PersistentVolumeClaim}
    (listed : world.roster.claims.unit? key = some unit) : OwnClaim settings key unit.upkeep.wanted := by
  obtain ⟨registered, seen⟩ := tidy.claimUnit listed
  obtain ⟨shared, rfl, charged⟩ := tidy.claimUnits _ _ listed
  have defined : OwnClaim settings shared.key unit.upkeep.definition := by
    rw [charged.definition_eq]
    exact ⟨belongsTo_claimDefinition (tidy.named_of_registered registered) settings, rfl⟩
  refine ⟨Upkeep.belongsTo_wanted defined.toBelongsTo fun _ last => (seen _ last).toBelongsTo, ?_⟩
  change (unit.upkeep.latest.getD unit.upkeep.definition).spec = _
  cases last : unit.upkeep.latest with
  | none => exact defined.spec
  | some latest => exact (seen latest last).spec

/-- In a tidy world a stored volume is never written over. -/
private theorem accepts_volume (tidy : world.Tidy settings) {unit : Numbered PersistentVolume}
    (listed : world.roster.volumes.unit? key = some unit) {stored : PersistentVolume}
    (found : world.volumes.object? (volumeKey key) = some stored) :
    unit.upkeep.accepts stored = true := by
  obtain ⟨owner, -, belongs⟩ := tidy.volume found
  obtain ⟨shared, rfl, charged⟩ := tidy.volumeUnits _ _ listed
  have comparison : unit.upkeep.comparison = .always := charged.comparison_eq
  simp [Upkeep.accepts, comparison, Comparison.agree, belongs.managed]

/-- In a tidy world a stored claim is never written over. -/
private theorem accepts_claim (tidy : world.Tidy settings) {unit : Numbered PersistentVolumeClaim}
    (listed : world.roster.claims.unit? key = some unit) {stored : PersistentVolumeClaim}
    (found : world.claims.object? (claimKey key) = some stored) :
    unit.upkeep.accepts stored = true := by
  have wanted := tidy.ownClaim_wanted listed
  obtain ⟨owner, same, belongs⟩ := tidy.claim found
  obtain rfl := claimKey_inj.mp same
  obtain ⟨shared, rfl, charged⟩ := tidy.claimUnits _ _ listed
  have comparison : unit.upkeep.comparison = .field "spec" := charged.comparison_eq
  simp [Upkeep.accepts, comparison, Comparison.agree, belongs.managed,
    PersistentVolumeClaim.get?_spec_encode, wanted.spec, belongs.spec]

private theorem createVolume (tidy : world.Tidy settings) {shared : SharedVolume}
    {unit : Numbered PersistentVolume}
    (kept : { world with volumes := (world.volumes.perform
      (.create (Resource.withVersion none unit.upkeep.wanted))).2 }.WellKept settings)
    (serves : world.Serves key shared) (listed : world.roster.volumes.unit? key = some unit)
    (missing : world.volumes.object? (volumeKey key) = none) :
    { world with volumes := (world.volumes.perform
      (.create (Resource.withVersion none unit.upkeep.wanted))).2 }.Tidy settings := by
  have own := (tidy.ownVolume_wanted listed).withVersion none
  rcases world.volumes.perform_create (Resource.withVersion none unit.upkeep.wanted) with
    same | ⟨-, puts⟩
  · rwa [same]
  · rw [own.identity] at puts
    exact tidy.putVolume kept puts (own.stamp _) ⟨shared, serves.held, serves.registered⟩ missing

private theorem createClaim (tidy : world.Tidy settings) {shared : SharedVolume}
    {unit : Numbered PersistentVolumeClaim}
    (kept : { world with claims := (world.claims.perform
      (.create (Resource.withVersion none unit.upkeep.wanted))).2 }.WellKept settings)
    (serves : world.Serves key shared) (listed : world.roster.claims.unit? key = some unit)
    (missing : world.claims.object? (claimKey key) = none) :
    { world with claims := (world.claims.perform
      (.create (Resource.withVersion none unit.upkeep.wanted))).2 }.Tidy settings := by
  have own := tidy.ownClaim_wanted listed
  have sent := own.withVersion none
  rcases world.claims.perform_create (Resource.withVersion none unit.upkeep.wanted) with
    same | ⟨-, puts⟩
  · rwa [same]
  · rw [sent.identity] at puts
    exact tidy.putClaim kept puts ⟨sent.stamp _, own.spec⟩
      ⟨shared, serves.held, serves.registered⟩ missing

private theorem deleteVolume (tidy : world.Tidy settings) {shared : SharedVolume}
    (kept : { world with
      volumes := (world.volumes.perform (.delete (volumeKey key))).2 }.WellKept settings)
    (retires : world.Retires key shared)
    (free : ∀ volume, world.volumes.object? (volumeKey key) = some volume → FreeFor key volume) :
    { world with volumes := (world.volumes.perform (.delete (volumeKey key))).2 }.Tidy settings := by
  rcases world.volumes.perform_delete (volumeKey key) with
    same | ⟨present, found, ⟨-, drops⟩ | ⟨held, -⟩⟩
  · rwa [same]
  · exact tidy.dropVolume kept drops free retires.leaving
  · obtain ⟨owner, -, belongs⟩ := tidy.volume found
    exact absurd belongs.bare held

private theorem deleteClaim (tidy : world.Tidy settings) {shared : SharedVolume}
    (kept : { world with
      claims := (world.claims.perform (.delete (claimKey key))).2 }.WellKept settings)
    (retires : world.Retires key shared) :
    { world with claims := (world.claims.perform (.delete (claimKey key))).2 }.Tidy settings := by
  rcases world.claims.perform_delete (claimKey key) with
    same | ⟨present, found, ⟨-, drops⟩ | ⟨held, -⟩⟩
  · rwa [same]
  · exact tidy.dropClaim kept drops retires.leaving
  · obtain ⟨owner, -, belongs⟩ := tidy.claim found
    exact absurd belongs.bare held

/-! ## Calls to the roster -/

private theorem takeVolume (tidy : world.Tidy settings) {shared : SharedVolume}
    (kept : { world with roster := (world.roster.volume shared settings).2 }.WellKept settings)
    (held : world.sharedVolumes.object? key = some shared) (registered : shared.hasFinalizer = true) :
    { world with roster := (world.roster.volume shared settings).2 }.Tidy settings := by
  obtain rfl : shared.key = key := tidy.sharedVolumes _ _ held
  refine tidy.putRoster kept ?_ fun _ _ listed => tidy.claimUnit listed
  intro owner unit listed
  rcases Shelf.unit?_take_eq_some listed with former | ⟨rfl, fresh⟩
  · exact tidy.volumeUnit former
  · have unseen : unit.upkeep.latest = none := congrArg Upkeep.latest fresh
    exact ⟨⟨shared, held, registered⟩, fun _ last => absurd (unseen.symm.trans last) (by simp)⟩

private theorem takeClaim (tidy : world.Tidy settings) {shared : SharedVolume}
    (kept : { world with roster := (world.roster.claim shared settings).2 }.WellKept settings)
    (held : world.sharedVolumes.object? key = some shared) (registered : shared.hasFinalizer = true) :
    { world with roster := (world.roster.claim shared settings).2 }.Tidy settings := by
  obtain rfl : shared.key = key := tidy.sharedVolumes _ _ held
  refine tidy.putRoster kept (fun _ _ listed => tidy.volumeUnit listed) ?_
  intro owner unit listed
  rcases Shelf.unit?_take_eq_some listed with former | ⟨rfl, fresh⟩
  · exact tidy.claimUnit former
  · have unseen : unit.upkeep.latest = none := congrArg Upkeep.latest fresh
    exact ⟨⟨shared, held, registered⟩, fun _ last => absurd (unseen.symm.trans last) (by simp)⟩

private theorem recordVolume (tidy : world.Tidy settings) (began : start.Tidy settings)
    {latest : Option PersistentVolume}
    (kept : { world with roster := { world.roster with
      volumes := world.roster.volumes.record key latest } }.WellKept settings)
    (seen : ∀ volume, latest = some volume → Resource.key volume = volumeKey key ∧
      (world.volumes.object? (volumeKey key) = some volume ∧ FreeFor key volume ∨
        start.volumes.Terminating (volumeKey key))) :
    { world with roster := { world.roster with
      volumes := world.roster.volumes.record key latest } }.Tidy settings := by
  refine tidy.putRoster kept ?_ fun _ _ listed => tidy.claimUnit listed
  intro owner unit listed
  rcases Shelf.unit?_record_eq_some listed with former | ⟨former, rfl, present, same⟩
  · exact tidy.volumeUnit former
  · refine ⟨(tidy.volumeUnit present).1, fun volume last => ?_⟩
    rw [same] at last
    rcases (seen volume last).2 with ⟨stored, free⟩ | terminating
    · obtain ⟨other, -, belongs⟩ := tidy.volume stored
      rwa [← free other belongs.labelled]
    · exact absurd terminating began.not_terminating_volume

private theorem recordClaim (tidy : world.Tidy settings) (began : start.Tidy settings)
    {latest : Option PersistentVolumeClaim}
    (kept : { world with roster := { world.roster with
      claims := world.roster.claims.record key latest } }.WellKept settings)
    (seen : ∀ claim, latest = some claim → Resource.key claim = claimKey key ∧
      (world.claims.object? (claimKey key) = some claim ∨
        start.claims.Terminating (claimKey key))) :
    { world with roster := { world.roster with
      claims := world.roster.claims.record key latest } }.Tidy settings := by
  refine tidy.putRoster kept (fun _ _ listed => tidy.volumeUnit listed) ?_
  intro owner unit listed
  rcases Shelf.unit?_record_eq_some listed with former | ⟨former, rfl, present, same⟩
  · exact tidy.claimUnit former
  · refine ⟨(tidy.claimUnit present).1, fun claim last => ?_⟩
    rw [same] at last
    rcases (seen claim last).2 with stored | terminating
    · obtain ⟨other, keys, belongs⟩ := tidy.claim stored
      rwa [claimKey_inj.mp keys]
    · exact absurd terminating began.not_terminating_claim

/-- A permitted call keeps a world tidy, if the pass that makes it started in a tidy one. -/
theorem perform (tidy : world.Tidy settings) (began : start.Tidy settings) {call : OperatorCall}
    (permitted : Permitted settings key start world call) :
    ((World.perform call).run world).2.Tidy settings := by
  have kept := tidy.toWellKept.perform permitted
  cases permitted with
  | readShared | readVolume | readClaim => exact tidy
  | @revert shared volume spec held stays =>
    refine tidy.replaceShared kept held rfl ?_ fun finalizer _ => finalizer
    intro dependents
    have finalizer := tidy.hasFinalizer_of_dependents held dependents
    exact ⟨finalizer, fun finishes => finishes.not_stays stays⟩
  | @register shared held stays unregistered =>
    refine tidy.replaceShared kept held rfl ?_ fun _ _ =>
      PassM.hasFinalizer_withFinalizer shared
    exact fun _ => ⟨PassM.hasFinalizer_withFinalizer shared, fun finishes => finishes.not_stays stays⟩
  | @release shared retires claim volume volumeUnit claimUnit =>
    refine tidy.replaceShared kept retires.held rfl ?_ ?_
    · exact fun dependents =>
        absurd dependents (tidy.no_dependents claim volume volumeUnit claimUnit)
    · exact fun _ stays => absurd (stays.symm.trans retires.leaves) (by simp)
  | report held unready =>
    exact tidy.replaceStatusShared kept held fun phase _ =>
      absurd (Option.some.inj phase) unready
  | @reportReady shared status serves volume claim =>
    refine tidy.replaceStatusShared kept serves.held fun _ _ => ⟨serves.registered, ?_, ?_⟩
    · rcases volume with ⟨volume, stored, free⟩ | terminating
      · obtain ⟨owner, -, belongs⟩ := tidy.volume stored
        obtain rfl := free owner belongs.labelled
        exact ⟨volume, stored, belongs⟩
      · exact absurd terminating began.not_terminating_volume
    · rcases claim with ⟨claim, stored⟩ | terminating
      · obtain ⟨owner, same, belongs⟩ := tidy.claim stored
        obtain rfl := claimKey_inj.mp same
        exact ⟨claim, stored, belongs⟩
      · exact absurd terminating began.not_terminating_claim
  | takeVolume held registered => exact tidy.takeVolume kept held registered
  | takeClaim held registered => exact tidy.takeClaim kept held registered
  | recordVolume _ seen => exact tidy.recordVolume began kept seen
  | recordClaim _ seen => exact tidy.recordClaim began kept seen
  | dismiss leaves =>
    refine tidy.putRoster kept (fun owner unit listed => ?_) fun owner unit listed => ?_
    · exact tidy.volumeUnit (Shelf.unit?_dismiss_eq_some listed).2
    · exact tidy.claimUnit (Shelf.unit?_dismiss_eq_some listed).2
  | createVolume serves listed missing => exact tidy.createVolume kept serves listed missing
  | replaceVolume serves listed found free differs =>
    rw [tidy.accepts_volume listed found] at differs
    cases differs
  | deleteVolume retires claim free => exact tidy.deleteVolume kept retires free
  | createClaim serves listed missing => exact tidy.createClaim kept serves listed missing
  | replaceClaim serves listed found differs =>
    rw [tidy.accepts_claim listed found] at differs
    cases differs
  | deleteClaim retires => exact tidy.deleteClaim kept retires

/-! ## Events -/

private theorem appear (tidy : world.Tidy settings) {shared : SharedVolume} {after : Store SharedVolume}
    (puts : world.sharedVolumes.Puts after shared.key (world.sharedVolumes.stamp shared))
    (unused : world.sharedVolumes.object? shared.key = none) (named : shared.key.Named)
    (unreported : shared.status = none) : { world with sharedVolumes := after }.Tidy settings := by
  have kept : { world with sharedVolumes := after }.WellKept settings :=
    { tidy.toWellKept with sharedVolumes := tidy.sharedVolumes.puts puts (Store.key_stamp ..) }
  refine tidy.putShared kept puts named ?_ ?_
  · intro dependents
    obtain ⟨other, stored, -⟩ := tidy.registered dependents
    exact absurd (unused.symm.trans stored) (by simp)
  · intro phase
    rw [SharedVolume.phase?_stamp, SharedVolume.phase?, unreported] at phase
    cases phase

private theorem edit (tidy : world.Tidy settings) (key : ObjectKey) (spec : SharedVolumeSpec) :
    { world with sharedVolumes :=
      world.sharedVolumes.mutate key fun shared => { shared with spec } }.Tidy settings := by
  have kept : { world with sharedVolumes :=
      world.sharedVolumes.mutate key fun shared => { shared with spec } }.WellKept settings :=
    { tidy.toWellKept with
      sharedVolumes := tidy.sharedVolumes.touched (.mutate key _ fun _ => rfl) }
  rcases world.sharedVolumes.mutate_cases key fun shared => { shared with spec } with
    ⟨-, same⟩ | ⟨present, found, puts⟩
  · exact tidy.sameShared kept same
  · have finalizer := tidy.hasFinalizer_of_dependents found
    refine tidy.putShared kept puts (tidy.named found) finalizer fun phase stays => ?_
    have provided := tidy.ready found phase stays
    exact ⟨provided.registered, provided.volume, provided.claim⟩

/-- Users delete a SharedVolume that is not registered at once, and any other only by a mark. -/
private theorem delete (tidy : world.Tidy settings) (key : ObjectKey) :
    { world with
      sharedVolumes := (world.sharedVolumes.perform (.delete key)).2 }.Tidy settings := by
  have kept : { world with
      sharedVolumes := (world.sharedVolumes.perform (.delete key)).2 }.WellKept settings :=
    { tidy.toWellKept with sharedVolumes := tidy.sharedVolumes.perform (.delete key) }
  rcases world.sharedVolumes.perform_delete key with
    same | ⟨present, found, ⟨bare, drops⟩ | ⟨-, puts⟩⟩
  · rwa [same]
  · refine tidy.dropShared kept drops fun dependents => ?_
    have finalizer := tidy.hasFinalizer_of_dependents found dependents
    change present.metadata.finalizerList = [] at bare
    simp [SharedVolume.hasFinalizer, bare] at finalizer
  · have finalizer := tidy.hasFinalizer_of_dependents found
    refine tidy.putShared kept puts (tidy.named found) finalizer fun _ stays => ?_
    cases stays

private theorem withFaults (tidy : world.Tidy settings) (faults : Faults) :
    (world.withFaults faults).Tidy settings where
  toWellKept := ⟨tidy.sharedVolumes, tidy.volumes, tidy.claims, tidy.volumeUnits, tidy.claimUnits⟩
  named := tidy.named
  volume := tidy.volume
  claim := tidy.claim
  volumeSeen := tidy.volumeSeen
  claimSeen := tidy.claimSeen
  registered dependents := by
    cases dependents with
    | volume stored labelled => exact tidy.registered (.volume stored labelled)
    | claim stored labelled => exact tidy.registered (.claim stored labelled)
    | volumeUnit listed => exact tidy.registered (.volumeUnit listed)
    | claimUnit listed => exact tidy.registered (.claimUnit listed)
  ready stored phase stays := by
    have provided := tidy.ready stored phase stays
    exact ⟨provided.registered, provided.volume, provided.claim⟩

/-- Whatever users and the operator do, the world stays tidy. -/
theorem event (tidy : world.Tidy settings) {after : World} (happens : world.UserEvent settings after) :
    after.Tidy settings := by
  cases happens with
  | pass key =>
    exact (reconcile_permitted tidy.toWellKept key).invariant _
      (fun _ _ during permitted => during.perform tidy permitted) tidy
  | @appear shared unused named unreported =>
    exact tidy.appear (world.sharedVolumes.puts_insert shared) unused named unreported
  | @create shared named unreported =>
    rcases world.sharedVolumes.perform_create shared with same | ⟨unused, puts⟩
    · rwa [same]
    · exact tidy.appear puts unused named unreported
  | edit key spec => exact tidy.edit key spec
  | delete key => exact tidy.delete key
  | faults faults => exact tidy.withFaults faults

theorem of_reachable (reached : Reachable (UserEvent settings) world) : world.Tidy settings := by
  induction reached with
  | start => exact .initial settings
  | next reached happens tidy => exact tidy.event happens

end World.Tidy

end SharedMount
