import SharedMount.Proofs.Provision.Handle
import SharedMount.Proofs.Run.Reachable

/-! # What a missing volume is made from

When a pass makes the volume of a SharedVolume, the spec of the SharedVolume is not looked at if there is a
unit for its volume already: what that unit wants is made, which may be older than the spec. Without a
unit, the volume is made from the spec. So the volume that is made encodes the spec exactly if there is no
unit yet, or one that wants what the spec asks for.
-/

namespace SharedMount.World

/-- What the volume of an owner would be made with: what its unit wants, or else what is defined by a
spec. -/
def intendedVolume (settings : Settings) (key : ObjectKey) (spec : SharedVolumeSpec) (world : World) :
    Option VolumeSpec :=
  match world.roster.volumes.unit? key with
  | some unit => unit.upkeep.wanted.spec
  | none => some (volumeSpec spec settings)

/-- What is true all along a pass that found no volume: the spec stays as it is, the volume is still to be
made with the same, and it has been made with that if it is there. -/
structure Trusting (settings : Settings) (key : ObjectKey) (asked : SharedVolumeSpec)
    (made : Option VolumeSpec) (world : World) : Prop where
  spec {shared : SharedVolume} (held : world.sharedVolumes.object? key = some shared) :
    shared.spec = asked
  intended : world.sharedVolumes.Leaving key ∨ world.intendedVolume settings key asked = made
  volume {volume : PersistentVolume} (found : world.volumes.object? (volumeKey key) = some volume) :
    volume.spec = made ∧ asked.faultText? = none ∧
      ∃ shared, world.sharedVolumes.object? key = some shared ∧ shared.isDeleting = false

namespace Trusting

variable {settings : Settings} {start world : World} {key : ObjectKey}
  {asked : SharedVolumeSpec} {made : Option VolumeSpec}

private theorem putShared (trusting : Trusting settings key asked made world)
    {shared updated : SharedVolume} {after : Store SharedVolume}
    (held : world.sharedVolumes.object? key = some shared)
    (puts : world.sharedVolumes.Puts after key updated) (same : updated.spec = shared.spec)
    (mark : updated.isDeleting = shared.isDeleting) :
    Trusting settings key asked made { world with sharedVolumes := after } where
  spec stored := by
    obtain rfl := puts.eq_of_object?_self stored
    exact same.trans (trusting.spec held)
  intended := by
    refine trusting.intended.imp (fun leaving => ?_) id
    exact .of_stored puts.object?_self (mark.trans (leaving shared held))
  volume found := by
    obtain ⟨own, valid, other, stored, stays⟩ := trusting.volume found
    obtain rfl := Option.some.inj (held.symm.trans stored)
    exact ⟨own, valid, updated, puts.object?_self, mark.trans stays⟩

private theorem replaceShared (trusting : Trusting settings key asked made world)
    {shared updated : SharedVolume} (held : world.sharedVolumes.object? key = some shared)
    (own : updated.key = key) (same : updated.spec = shared.spec) :
    Trusting settings key asked made
      { world with sharedVolumes := (world.sharedVolumes.perform (.replace updated)).2 } := by
  subst own
  rcases world.sharedVolumes.perform_replace updated with
    unchanged | ⟨present, found, ⟨finishes, drops⟩ | ⟨-, puts⟩⟩
  · rwa [unchanged]
  · obtain rfl := Option.some.inj (held.symm.trans found)
    refine ⟨fun stored => ?_, .inl (.of_missing drops.object?_self), fun volume => ?_⟩
    · exact absurd (drops.object?_self.symm.trans stored) (by simp)
    · obtain ⟨-, -, other, stored, stays⟩ := trusting.volume volume
      obtain rfl := Option.some.inj (held.symm.trans stored)
      exact absurd stays finishes.not_stays
  · obtain rfl := Option.some.inj (held.symm.trans found)
    exact trusting.putShared held puts same rfl

private theorem reportShared (trusting : Trusting settings key asked made world) {shared : SharedVolume}
    {status : SharedVolumeStatus} (held : world.sharedVolumes.object? key = some shared)
    (own : shared.key = key) :
    Trusting settings key asked made { world with sharedVolumes := (world.sharedVolumes.perform
      (.replaceStatus { shared with status := some status })).2 } := by
  subst own
  rcases world.sharedVolumes.perform_replaceStatus { shared with status := some status } with
    unchanged | ⟨present, found, puts⟩
  · rwa [unchanged]
  · obtain rfl := Option.some.inj (held.symm.trans found)
    exact trusting.putShared held puts rfl rfl

private theorem takeVolume (trusting : Trusting settings key asked made world) {shared : SharedVolume}
    (held : world.sharedVolumes.object? key = some shared) (own : shared.key = key) :
    Trusting settings key asked made
      { world with roster := (world.roster.volume shared settings).2 } := by
  subst own
  refine ⟨trusting.spec, trusting.intended.imp id fun same => ?_, trusting.volume⟩
  rw [← same]
  simp only [intendedVolume, Roster.unit?_volume]
  cases present : world.roster.volumes.unit? shared.key with
  | some unit => simp only [Roster.volume, Shelf.take, present]
  | none =>
    -- a unit that is built now wants what the spec asks for now
    simp only [Roster.volume, Shelf.take, present, ← trusting.spec held]
    rfl

private theorem recordVolume (trusting : Trusting settings key asked made world)
    (missing : start.volumes.object? (volumeKey key) = none) {latest : Option PersistentVolume}
    (cleared : latest = none → world.sharedVolumes.Leaving key)
    (seen : ∀ volume, latest = some volume → Resource.key volume = volumeKey key ∧
      (world.volumes.object? (volumeKey key) = some volume ∧ FreeFor key volume ∨
        start.volumes.Terminating (volumeKey key))) :
    Trusting settings key asked made { world with roster := { world.roster with
      volumes := world.roster.volumes.record key latest } } := by
  refine ⟨trusting.spec, ?_, trusting.volume⟩
  cases latest with
  | none => exact .inl (cleared rfl)
  | some volume =>
    refine trusting.intended.imp id fun same => ?_
    rcases (seen volume rfl).2 with ⟨stored, -⟩ | ⟨marked, found, -⟩
    · simp only [intendedVolume, Shelf.unit?_record, ↓reduceIte]
      rw [intendedVolume] at same
      cases present : world.roster.volumes.unit? key with
      | some unit => exact (trusting.volume stored).1
      | none => rwa [present] at same
    · exact absurd (missing.symm.trans found) (by simp)

private theorem createVolume (trusting : Trusting settings key asked made world) {shared : SharedVolume}
    {unit : Numbered PersistentVolume} (serves : world.Serves key shared)
    (listed : world.roster.volumes.unit? key = some unit)
    (own : Resource.key unit.upkeep.wanted = volumeKey key) :
    Trusting settings key asked made { world with volumes := (world.volumes.perform
      (.create (Resource.withVersion none unit.upkeep.wanted))).2 } := by
  rcases world.volumes.perform_create (Resource.withVersion none unit.upkeep.wanted) with
    unchanged | ⟨-, puts⟩
  · rwa [unchanged]
  · refine ⟨trusting.spec, trusting.intended, fun found => ?_⟩
    rw [Resource.key_withVersion, own] at puts
    obtain rfl := puts.eq_of_object?_self found
    refine ⟨?_, trusting.spec serves.held ▸ serves.valid, shared, serves.held, serves.stays⟩
    rcases trusting.intended with leaving | same
    · exact absurd serves.stays (leaving.not_stays serves.held)
    · rw [intendedVolume, listed] at same
      exact same

/-- Writing over the volume leaves what it holds as the unit wants it. -/
private theorem replaceVolume (trusting : Trusting settings key asked made world) {shared : SharedVolume}
    {unit : Numbered PersistentVolume} {stored : PersistentVolume} (serves : world.Serves key shared)
    (listed : world.roster.volumes.unit? key = some unit)
    (own : Resource.key unit.upkeep.wanted = volumeKey key) :
    Trusting settings key asked made { world with
      volumes := (world.volumes.perform (.replace (unit.upkeep.replacement stored))).2 } := by
  have sent : Resource.key (unit.upkeep.replacement stored) = volumeKey key := by
    rw [Upkeep.replacement, Resource.key_withVersion, own]
  rcases world.volumes.perform_replace (unit.upkeep.replacement stored) with
    unchanged | ⟨present, -, ⟨-, drops⟩ | ⟨-, puts⟩⟩
  · rwa [unchanged]
  · rw [sent] at drops
    exact ⟨trusting.spec, trusting.intended,
      fun found => absurd (drops.object?_self.symm.trans found) (by simp)⟩
  · rw [sent] at puts
    refine ⟨trusting.spec, trusting.intended, fun found => ?_⟩
    obtain rfl := puts.eq_of_object?_self found
    refine ⟨?_, trusting.spec serves.held ▸ serves.valid, shared, serves.held, serves.stays⟩
    rcases trusting.intended with leaving | same
    · exact absurd serves.stays (leaving.not_stays serves.held)
    · rw [intendedVolume, listed] at same
      exact same

private theorem deleteVolume (trusting : Trusting settings key asked made world) {shared : SharedVolume}
    (retires : world.Retires key shared) :
    Trusting settings key asked made
      { world with volumes := (world.volumes.perform (.delete (volumeKey key))).2 } := by
  rcases world.volumes.perform_delete (volumeKey key) with
    unchanged | ⟨present, found, -⟩
  · rwa [unchanged]
  · obtain ⟨-, -, other, stored, stays⟩ := trusting.volume found
    exact absurd stays (retires.leaving.not_stays stored)

/-- Permitted calls keep what is true all along a pass that found no volume. -/
theorem perform (trusting : Trusting settings key asked made world) (kept : world.WellKept settings)
    (missing : start.volumes.object? (volumeKey key) = none) {call : OperatorCall}
    (permitted : Permitted settings key start world call) :
    Trusting settings key asked made ((World.perform call).run world).2 := by
  cases permitted with
  | readShared | readVolume | readClaim => exact trusting
  | revert held stays since found =>
    rw [since] at found
    exact absurd (missing.symm.trans found) (by simp)
  | @register shared held =>
    have own : shared.key = key := kept.sharedVolumes _ _ held
    exact trusting.replaceShared held own rfl
  | @release shared retires =>
    have own : shared.key = key := kept.sharedVolumes _ _ retires.held
    exact trusting.replaceShared retires.held own rfl
  | report held => exact trusting.reportShared held (kept.sharedVolumes _ _ held)
  | reportReady serves => exact trusting.reportShared serves.held (kept.sharedVolumes _ _ serves.held)
  | takeVolume held => exact trusting.takeVolume held (kept.sharedVolumes _ _ held)
  | recordVolume cleared seen => exact trusting.recordVolume missing cleared seen
  | dismiss leaves => exact ⟨trusting.spec, .inl leaves, trusting.volume⟩
  | createVolume serves listed =>
    exact trusting.createVolume serves listed
      ((kept.key_wanted_volumeUnit listed).trans (kept.key_volumeUnit listed))
  | replaceVolume serves listed =>
    exact trusting.replaceVolume serves listed
      ((kept.key_wanted_volumeUnit listed).trans (kept.key_volumeUnit listed))
  | deleteVolume retires => exact trusting.deleteVolume retires
  | takeClaim | recordClaim | createClaim | replaceClaim | deleteClaim =>
    exact ⟨trusting.spec, trusting.intended, trusting.volume⟩

end Trusting

/-- What a pass that found no volume has made of it encodes the spec exactly if the owner had no unit for
its volume, or one whose object wanted is read as the spec. -/
theorem created_volume_reads_spec_iff {settings : Settings} {world : World} {key : ObjectKey}
    {shared : SharedVolume} {volume : PersistentVolume} (reached : Reachable (Event settings) world)
    (stored : world.sharedVolumes.object? key = some shared)
    (missing : world.volumes.object? (volumeKey key) = none)
    (created : (world.reconcile settings key).2.volumes.object? (volumeKey key) = some volume) :
    (∃ later, (world.reconcile settings key).2.sharedVolumes.object? key = some later ∧
        later.spec = shared.spec) ∧
      (SharedVolumeSpec.ofVolume volume = .ok shared.spec ↔
        ∀ unit, world.roster.volumes.unit? key = some unit →
          SharedVolumeSpec.ofVolume unit.upkeep.wanted = .ok shared.spec) := by
  have kept := reached.wellKept
  have before : Trusting settings key shared.spec (world.intendedVolume settings key shared.spec) world := by
    refine ⟨fun held => ?_, .inr rfl, fun found => absurd (missing.symm.trans found) (by simp)⟩
    rw [Option.some.inj (stored.symm.trans held)]
  have after := ((reconcile_permitted kept key).invariant
    (fun during => during.WellKept settings ∧ Trusting settings key shared.spec
      (world.intendedVolume settings key shared.spec) during)
    (fun _ _ during permitted =>
      ⟨during.1.perform permitted, during.2.perform during.1 missing permitted⟩)
    ⟨kept, before⟩).2
  obtain ⟨made, valid, later, found, -⟩ := after.volume created
  refine ⟨⟨later, found, after.spec found⟩, ?_⟩
  cases listed : world.roster.volumes.unit? key with
  | none =>
    rw [intendedVolume, listed] at made
    exact iff_of_true (SharedVolumeSpec.ofVolume_of_valid made valid)
      fun _ absent => absurd absent (Option.some_ne_none _).symm
  | some unit =>
    rw [intendedVolume, listed] at made
    rw [SharedVolumeSpec.ofVolume_congr made]
    constructor
    · rintro reads _ ⟨⟩
      exact reads
    · exact fun reads => reads unit rfl

/-- The third pass over the sample finds no volume and no unit, and makes a volume that encodes the spec. -/
theorem created_volume_reads_spec_iff_sample : ∃ shared volume,
    (sampleWorld 2).sharedVolumes.object? sample.key = some shared ∧
      (sampleWorld 2).volumes.object? (volumeKey sample.key) = none ∧
      ((sampleWorld 2).reconcile {} sample.key).2.volumes.object? (volumeKey sample.key) = some volume ∧
      SharedVolumeSpec.ofVolume volume = .ok shared.spec := by
  have facts : ((sampleWorld 2).sharedVolumes.object? sample.key).isSome ∧
      ((sampleWorld 2).volumes.object? (volumeKey sample.key)).isNone ∧
      ((sampleWorld 2).roster.volumes.unit? sample.key).isNone ∧
      (((sampleWorld 2).reconcile {} sample.key).2.volumes.object? (volumeKey sample.key)).isSome := by
    decide +kernel
  obtain ⟨some_shared, no_volume, no_unit, some_volume⟩ := facts
  obtain ⟨shared, stored⟩ := Option.isSome_iff_exists.mp some_shared
  obtain ⟨volume, created⟩ := Option.isSome_iff_exists.mp some_volume
  have missing := Option.isNone_iff_eq_none.mp no_volume
  obtain ⟨-, reads⟩ := created_volume_reads_spec_iff (sampleWorld_reachable 2).of_userEvents
    stored missing created
  refine ⟨shared, volume, stored, missing, created, reads.mpr fun unit listed => ?_⟩
  exact absurd ((Option.isNone_iff_eq_none.mp no_unit).symm.trans listed) (by simp)

/-- A spec that the sample is given later. -/
def editedSpec : SharedVolumeSpec := { fileSystemId := "fs-2", accessPointId := "fsap-2" }

/-- The sample world after its volume could not be made once, and the spec was edited since. -/
def editedWorld : World :=
  let failed := (((sampleWorld 2).withFaults { volumes := (· == .create) }).reconcile {} sample.key).2
  let mended := failed.withFaults {}
  { mended with
    sharedVolumes := mended.sharedVolumes.mutate sample.key fun shared => { shared with spec := editedSpec } }

theorem editedWorld_reachable : Reachable (UserEvent {}) editedWorld := by
  have failing := (sampleWorld_reachable 2).next (.faults { volumes := (· == .create) })
  have failed := failing.next (.pass sample.key)
  exact (failed.next (.faults {})).next (.edit sample.key editedSpec)

/-- The unit that outlived the failure wants the former spec: the next pass finds no volume, makes one that
encodes the former spec, and the pass after it takes the edit back. -/
theorem created_volume_reads_former_spec : Reachable (Event {}) editedWorld ∧ ∃ shared volume later,
    editedWorld.sharedVolumes.object? sample.key = some shared ∧ shared.spec = editedSpec ∧
      editedWorld.volumes.object? (volumeKey sample.key) = none ∧
      (editedWorld.reconcile {} sample.key).2.volumes.object? (volumeKey sample.key) = some volume ∧
      SharedVolumeSpec.ofVolume volume = .ok sample.spec ∧
      SharedVolumeSpec.ofVolume volume ≠ .ok shared.spec ∧
      ((editedWorld.reconcile {} sample.key).2.reconcile {} sample.key).2.sharedVolumes.object?
        sample.key = some later ∧ later.spec = sample.spec := by
  have edited : (editedWorld.sharedVolumes.object? sample.key).map (·.spec) = some editedSpec := by
    decide +kernel
  have missing : (editedWorld.volumes.object? (volumeKey sample.key)).isNone := by
    decide +kernel
  have made : ((editedWorld.reconcile {} sample.key).2.volumes.object? (volumeKey sample.key)).bind
      (fun volume => (SharedVolumeSpec.ofVolume volume).toOption) = some sample.spec := by
    decide +kernel
  have reverted : (((editedWorld.reconcile {} sample.key).2.reconcile {} sample.key).2.sharedVolumes.object?
      sample.key).map (·.spec) = some sample.spec := by
    decide +kernel
  obtain ⟨shared, stored, spec⟩ := Option.map_eq_some_iff.mp edited
  obtain ⟨volume, created, some_spec⟩ := Option.bind_eq_some_iff.mp made
  obtain ⟨later, found, former⟩ := Option.map_eq_some_iff.mp reverted
  have reads : SharedVolumeSpec.ofVolume volume = .ok sample.spec := by
    cases read : SharedVolumeSpec.ofVolume volume with
    | error fault => simp [read, Except.toOption] at some_spec
    | ok spec => simpa [read, Except.toOption] using some_spec
  have differ : SharedVolumeSpec.ofVolume volume ≠ .ok shared.spec := by
    rw [reads, spec]
    exact fun same => absurd (Except.ok.inj same) (by decide)
  exact ⟨editedWorld_reachable.of_userEvents, shared, volume, later, stored, spec,
    Option.isNone_iff_eq_none.mp missing, created, reads, differ, found, former⟩

end SharedMount.World
