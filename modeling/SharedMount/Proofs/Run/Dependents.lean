import SharedMount.Proofs.Run.Tidying

/-! # What users can rely on

As long as nobody but users of SharedVolumes and the operator is about, nothing that the operator made is
ever left without its SharedVolume, and a SharedVolume that is reported ready has a volume and a claim of
its own. Both hold after any run, with any faults on the way.
-/

namespace SharedMount.World

variable {settings : Settings} {world : World}

/-! ## No orphans -/

/-- Whatever is there for an owner, in the stores of volumes and claims or in the roster, the SharedVolume
of that owner is still stored and still registered for cleanup. -/
theorem registered_of_hasDependents (reached : Reachable (UserEvent settings) world) {owner : ObjectKey}
    (dependents : world.HasDependents owner) : world.Registered owner :=
  (Tidy.of_reachable reached).registered dependents

/-- After four passes the volume of the sample is there, and so the sample is registered. -/
theorem registered_of_hasDependents_sample :
    (∃ volume, (sampleWorld 4).volumes.object? (volumeKey sample.key) = some volume ∧
      owner? volume = some sample.key) ∧ (sampleWorld 4).Registered sample.key := by
  have made : ((sampleWorld 4).volumes.object? (volumeKey sample.key)).bind
      (owner? (K := PersistentVolume)) = some sample.key := by
    decide +kernel
  obtain ⟨volume, stored, labelled⟩ := Option.bind_eq_some_iff.mp made
  exact ⟨⟨volume, stored, labelled⟩,
    registered_of_hasDependents (sampleWorld_reachable 4) (.volume stored labelled)⟩

/-! ## Ready means ready -/

/-- A stored SharedVolume is reported ready and is to stay. -/
structure ReportsReady (world : World) (key : ObjectKey) (shared : SharedVolume) : Prop where
  stored : world.sharedVolumes.object? key = some shared
  phase : shared.phase? = some .ready
  stays : shared.isDeleting = false

/-- A SharedVolume that is reported ready has the finalizer, a marked volume that is labelled for it and
no other, and a marked claim that is labelled for it and asks for what it should. Two of them never share
a volume, even if their names would let them. -/
theorem ready_is_sound_and_exclusive (reached : Reachable (UserEvent settings) world) :
    (∀ key shared, world.ReportsReady key shared → shared.key = key ∧ shared.hasFinalizer = true ∧
      (∃ volume, world.volumes.object? (volumeKey shared.key) = some volume ∧
        isManaged volume = true ∧ owner? volume = some shared.key) ∧
      ∃ claim, world.claims.object? (claimKey shared.key) = some claim ∧ isManaged claim = true ∧
        owner? claim = some shared.key ∧ claim.spec = (claimDefinition shared settings).spec) ∧
    ∀ key other first second, world.ReportsReady key first → world.ReportsReady other second →
      key ≠ other → volumeKey key ≠ volumeKey other := by
  have tidy := Tidy.of_reachable reached
  refine ⟨?_, ?_⟩
  · intro key shared ready
    obtain rfl : shared.key = key := tidy.sharedVolumes _ _ ready.stored
    obtain ⟨finalizer, ⟨volume, found, belongs⟩, claim, bound, own⟩ :=
      tidy.ready ready.stored ready.phase ready.stays
    exact ⟨rfl, finalizer, ⟨volume, found, belongs.managed, belongs.labelled⟩,
      claim, bound, own.managed, own.labelled, own.spec⟩
  · intro key other first second ready ready' differ same
    obtain ⟨-, ⟨volume, found, belongs⟩, -⟩ := tidy.ready ready.stored ready.phase ready.stays
    obtain ⟨-, ⟨volume', found', belongs'⟩, -⟩ := tidy.ready ready'.stored ready'.phase ready'.stays
    rw [same] at found
    obtain rfl := Option.some.inj (found.symm.trans found')
    exact differ (belongs'.freeFor key belongs.labelled)

/-- After four passes the sample is reported ready, and its volume is there. -/
theorem ready_is_sound_and_exclusive_sample : ∃ shared, (sampleWorld 4).ReportsReady sample.key shared ∧
    ∃ volume, (sampleWorld 4).volumes.object? (volumeKey shared.key) = some volume ∧
      isManaged volume = true ∧ owner? volume = some shared.key := by
  have reported : ((sampleWorld 4).sharedVolumes.object? sample.key).map
      (fun shared => (shared.phase?, shared.isDeleting)) = some (some .ready, false) := by
    decide +kernel
  obtain ⟨shared, stored, same⟩ := Option.map_eq_some_iff.mp reported
  obtain ⟨phase, stays⟩ := Prod.mk.inj same
  have ready : (sampleWorld 4).ReportsReady sample.key shared := ⟨stored, phase, stays⟩
  obtain ⟨-, -, volume, -⟩ :=
    (ready_is_sound_and_exclusive (sampleWorld_reachable 4)).1 sample.key shared ready
  exact ⟨shared, ready, volume⟩

end SharedMount.World
