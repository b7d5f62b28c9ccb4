import SharedMount.Proofs.Program.Aside
import SharedMount.Proofs.Run.Healing
import SharedMount.Proofs.Run.Lifecycle
import SharedMount.Proofs.Run.Quiescence

/-! # Edits of a settled spec

Once a SharedVolume has settled, its spec is what its volume encodes. Whatever users write into it, valid or
not, the next pass writes back without looking at anything else, and the pass after it finds all as it was:
the units on the roster are content with volume and claim, and the status says that all is ready.
-/

namespace SharedMount

namespace PassM

variable {settings : Settings} {shared : SharedVolume} {world : World}

/-- A registered SharedVolume has all that it asks for and says so. -/
structure Furnished (settings : Settings) (shared : SharedVolume) (world : World) : Prop where
  registered : shared.hasFinalizer = true
  valid : shared.spec.faultText? = none
  undrifted : Undrifted shared world.volumes
  ready : SaysReady (claimKey shared.key).name shared
  /-- Provisioning changes nothing, whatever is written to SharedVolumes. -/
  provided (later : SharedVolume) (sharedVolumes : Store SharedVolume) (own : later.key = shared.key) :
    (provision settings).Still later { world with sharedVolumes } (.ok ())

/-- A pass over a SharedVolume that is furnished settles and changes nothing. -/
theorem Furnished.still (furnished : Furnished settings shared world) :
    (advance settings).Still shared world (.ok .settled) := by
  have noticed : shared.phase?.isSome := by
    rw [SharedVolume.phase?_eq, furnished.ready.phase]
    rfl
  have serves : (serve settings).Still shared world (.ok .settled) :=
    still_serve_ready furnished.valid (furnished.provided shared world.sharedVolumes rfl)
      furnished.ready.still
  exact still_advance furnished.undrifted furnished.registered noticed serves

/-- A new version takes nothing from what a SharedVolume has. -/
theorem Furnished.revised (furnished : Furnished settings shared world) (version : Option String)
    (sharedVolumes : Store SharedVolume) :
    Furnished settings { shared with metadata := { shared.metadata with resourceVersion := version } }
      { world with sharedVolumes } where
  registered := furnished.registered
  valid := furnished.valid
  undrifted := ⟨furnished.undrifted.readable, furnished.undrifted.agrees⟩
  ready := ⟨furnished.ready.phase, furnished.ready.claim, furnished.ready.message⟩
  provided later stored own := furnished.provided later stored own

/-- A pass that settles, starting without units, leaves the SharedVolume furnished, unless its volume or its
claim is being deleted or gone. -/
theorem furnished_of_serve (held : world.sharedVolumes.object? shared.key = some shared)
    (unlisted : world.roster.Lacks shared.key) (undrifted : Undrifted shared world.volumes)
    (registered : shared.hasFinalizer = true) {shared' : SharedVolume} {world' : World}
    (ends : (serve settings).outcome shared world = (.ok .settled, shared', world'))
    (volume : ¬world'.volumes.Leaving (volumeKey shared.key))
    (claim : ¬world'.claims.Leaving (claimKey shared.key)) : shared'.key = shared.key ∧
      world'.sharedVolumes.object? shared.key = some shared' ∧ Furnished settings shared' world' := by
  obtain ⟨valid, shared₁, world₁, provided, reported⟩ := serve_settled ends
  obtain ⟨kept, same⟩ := (aside_provision settings).kept shared world
  rw [provided] at kept same
  simp only at kept same
  subst kept
  have held₁ : world₁.sharedVolumes.object? shared₁.key = some shared₁ := same ▸ held
  have report : (reportReady (claimKey shared₁.key).name).Meets (fun _ _ => True) _ shared₁ world₁ :=
    reportReady_again held₁
  have ready := meets_iff_outcome.mp report
  rw [reported] at ready
  obtain ⟨reported, -, ready⟩ := ready
  have stored := reported.held held₁
  obtain ⟨sharedVolumes, -, rfl⟩ := reported.store
  obtain ⟨version, status, rfl⟩ := reported.restated
  have leaving := meets_iff_outcome.mp (meets_provision_leaving settings unlisted)
  rw [provided] at leaving
  have provision : (provision settings).Meets (fun _ _ => True) _ shared₁ world :=
    meets_provision undrifted valid unlisted (fun terminating => volume (leaving.1 terminating))
      fun terminating => claim (leaving.2 terminating)
  have establishes := meets_iff_outcome.mp provision
  rw [provided] at establishes
  obtain ⟨-, -, undrifted', still, -⟩ := establishes
  exact ⟨rfl, stored, registered, valid, ⟨undrifted'.readable, undrifted'.agrees⟩, ready rfl,
    fun later stored own => still later stored own⟩

end PassM

namespace World

/-- The world after a user wrote a spec into the SharedVolume of a key. -/
def edited (key : ObjectKey) (spec : SharedVolumeSpec) (world : World) : World :=
  { world with sharedVolumes := world.sharedVolumes.mutate key fun shared => { shared with spec } }

/-- A SharedVolume that is to stay has settled with the identifiers that its volume encodes: a pass that
started without units of it just settled, and volume and claim are there and to stay. -/
structure JustSettled (settings : Settings) (key : ObjectKey) (shared : SharedVolume)
    (encoded : SharedVolumeSpec) (world : World) : Prop where
  pass : ∃ before : World, before.sharedVolumes.WellFiled ∧ before.roster.Lacks key ∧
    before.reconcile settings key = (.ok .settled, world)
  stored : world.sharedVolumes.object? key = some shared
  stays : shared.isDeleting = false
  volume : ∃ volume, world.volumes.object? (volumeKey key) = some volume ∧
    volume.metadata.isDeleting = false ∧ SharedVolumeSpec.ofVolume volume = .ok encoded
  claim : ∃ claim, world.claims.object? (claimKey key) = some claim ∧ claim.metadata.isDeleting = false

variable {settings : Settings} {key : ObjectKey} {shared : SharedVolume} {encoded : SharedVolumeSpec}
  {world : World}

namespace JustSettled

/-- The pass that just settled found the SharedVolume, which was to stay. -/
private theorem found_before (settled : world.JustSettled settings key shared encoded) :
    ∃ (before : World) (former : SharedVolume), before.sharedVolumes.WellFiled ∧ before.roster.Lacks key ∧
      before.reconcile settings key = (.ok .settled, world) ∧
      before.sharedVolumes.object? key = some former ∧ former.isDeleting = false := by
  obtain ⟨before, filed, unlisted, ended⟩ := settled.pass
  have stored : (before.reconcile settings key).2.sharedVolumes.object? key = some shared := by
    rw [ended]
    exact settled.stored
  obtain ⟨former, found, staying⟩ := stays_of_reconcile filed stored settled.stays
  exact ⟨before, former, filed, unlisted, ended, found, staying⟩

/-- It does not matter what was made to fail when the SharedVolume settled. -/
theorem healed (settled : world.JustSettled settings key shared encoded) :
    (world.withFaults {}).JustSettled settings key shared encoded := by
  obtain ⟨before, former, filed, unlisted, ended, found, staying⟩ := settled.found_before
  refine { settled with pass := ⟨before.withFaults {}, filed, unlisted, ?_⟩ }
  rw [reconcile_healed found staying (congrArg Prod.fst ended), ended]

theorem furnished (settled : world.JustSettled settings key shared encoded) :
    shared.key = key ∧ PassM.Furnished settings shared world := by
  obtain ⟨before, former, filed, unlisted, ended, found, staying⟩ := settled.found_before
  obtain rfl : former.key = key := filed _ _ found
  obtain ⟨shared', advanced⟩ := reconcile_of_held ((PassM.meets_pass_of_stays staying).mpr
    (PassM.meets_advance settings found staying)) (readable_of_succeeded (congrArg Prod.fst ended)) found
  rw [ended] at advanced
  cases advanced with
  | served undrifted registered noticed ends =>
    obtain ⟨volume, present, unmarked, -⟩ := settled.volume
    obtain ⟨claim, present', unmarked'⟩ := settled.claim
    obtain ⟨own, stored, furnished⟩ := PassM.furnished_of_serve found unlisted undrifted registered ends
      (fun leaving => leaving.not_stays present unmarked)
      fun leaving => leaving.not_stays present' unmarked'
    obtain rfl : shared' = shared := Option.some.inj (stored.symm.trans settled.stored)
    exact ⟨own, furnished⟩

end JustSettled

/-- Where nothing is made to fail, a pass over a SharedVolume whose spec differs from what its volume encodes
writes that and nothing else. -/
theorem reconcile_of_drifted (settings : Settings) (working : world.Working)
    (held : world.sharedVolumes.object? shared.key = some shared) (stays : shared.isDeleting = false)
    {volume : PersistentVolume} (found : world.volumes.object? (volumeKey shared.key) = some volume)
    (free : FreeFor shared.key volume) (read : SharedVolumeSpec.ofVolume volume = .ok encoded)
    (differs : shared.spec ≠ encoded) : ∃ sharedVolumes,
      world.reconcile settings shared.key = (.ok .again, { world with sharedVolumes }) ∧
        world.sharedVolumes.Puts sharedVolumes shared.key
          (world.sharedVolumes.stamp { shared with spec := encoded }) := by
  obtain ⟨shared', advanced⟩ := reconcile_of_held ((PassM.meets_pass_of_stays stays).mpr
    (PassM.meets_advance settings held stays)) (working.sharedVolumes .get) held
  have agrees (undrifted : Undrifted shared world.volumes) : shared.spec = encoded :=
    (undrifted.agrees volume found).2 encoded read
  generalize ended : world.reconcile settings shared.key = final at advanced ⊢
  obtain ⟨result, world'⟩ := final
  simp only at advanced
  cases advanced with
  | failed failure faulty => exact absurd faulty (working.not_faulty .get)
  | collided readable found' labelled reported =>
    obtain rfl := Option.some.inj (found.symm.trans found')
    rw [otherOwner?_eq_none_iff.mpr free] at labelled
    cases labelled
  | @reverted volume' spec after found' free' read' differs' puts =>
    obtain rfl := Option.some.inj (found.symm.trans found')
    obtain rfl := Except.ok.inj (read.symm.trans read')
    exact ⟨after, rfl, puts⟩
  | registered undrifted | noticed undrifted | served undrifted => exact absurd (agrees undrifted) differs

/-- After the SharedVolume has settled, a spec that differs from what the volume encodes is written back by the
next pass that no fault touches. It changes nothing else but the version, and the pass after it settles
without a write. -/
theorem drift_is_reverted (settled : world.JustSettled settings key shared encoded) {spec : SharedVolumeSpec}
    (differs : spec ≠ encoded) :
    let edited := (world.edited key spec).withFaults {}
    let reverted := (edited.reconcile settings key).2
    (edited.reconcile settings key).1 = .ok .again ∧
      (∃ version, reverted.sharedVolumes.object? key = some { shared with
        spec := encoded
        metadata := { shared.metadata with resourceVersion := version } }) ∧
      reverted.volumes = edited.volumes ∧ reverted.claims = edited.claims ∧
      reverted.reconcile settings key = (.ok .settled, reverted) := by
  intro edited reverted
  obtain ⟨rfl, furnished⟩ := settled.healed.furnished
  obtain ⟨volume, found, -, read⟩ := settled.volume
  obtain ⟨free, agrees⟩ := furnished.undrifted.agrees volume found
  have asked := agrees encoded read
  rcases world.sharedVolumes.mutate_cases shared.key fun shared => { shared with spec } with
    ⟨missing, -⟩ | ⟨present, same, puts⟩
  · exact absurd (missing.symm.trans settled.stored) (by simp)
  obtain rfl := Option.some.inj (same.symm.trans settled.stored)
  have working : edited.Working := ⟨fun _ => rfl, fun _ => rfl, fun _ => rfl⟩
  let drifted := world.sharedVolumes.stamp { present with spec }
  have held : edited.sharedVolumes.object? drifted.key = some drifted := puts.object?_self
  obtain ⟨sharedVolumes, ended, reverts⟩ := reconcile_of_drifted settings working held settled.stays found
    free read differs
  have after : reverted = { world.withFaults {} with sharedVolumes } := congrArg Prod.snd ended
  subst asked
  have held' := reverts.object?_self
  have readable : sharedVolumes.failing .get = false := by
    rw [reverts.failing]
    rfl
  have still := (furnished.revised (some (toString (edited.sharedVolumes.version + 1))) sharedVolumes).still
  rw [after]
  exact ⟨congrArg Prod.fst ended, ⟨_, held'⟩, rfl, rfl, reconcile_of_still readable held' settled.stays still⟩

/-- The settled sample is emptied by a user: the next pass fills in the identifiers again, and then it rests. -/
theorem drift_is_reverted_sample :
    let edited := ((sampleWorld 3).edited sample.key {}).withFaults {}
    let reverted := (edited.reconcile {} sample.key).2
    (edited.reconcile {} sample.key).1 = .ok .again ∧
      (reverted.sharedVolumes.object? sample.key).map (·.spec) = some sample.spec ∧
      reverted.reconcile {} sample.key = (.ok .settled, reverted) := by
  have settles : ((sampleWorld 2).reconcile {} sample.key).1 = .ok .settled := by decide +kernel
  have ended : (sampleWorld 2).reconcile {} sample.key = (.ok .settled, sampleWorld 3) := by
    rw [reconcile_sampleWorld, settles]
  have staying : ((sampleWorld 3).sharedVolumes.object? sample.key).map (·.isDeleting) = some false := by
    decide +kernel
  have encodes : ((sampleWorld 3).volumes.object? (volumeKey sample.key)).map
      (fun volume => (volume.metadata.isDeleting, SharedVolumeSpec.ofVolume volume)) =
        some (false, .ok sample.spec) := by
    decide +kernel
  have claimed : ((sampleWorld 3).claims.object? (claimKey sample.key)).map (·.metadata.isDeleting) =
      some false := by
    decide +kernel
  obtain ⟨shared, stored, stays⟩ := Option.map_eq_some_iff.mp staying
  obtain ⟨volume, found, read⟩ := Option.map_eq_some_iff.mp encodes
  obtain ⟨claim, present, unmarked⟩ := Option.map_eq_some_iff.mp claimed
  have settled : (sampleWorld 3).JustSettled {} sample.key shared sample.spec :=
    ⟨⟨sampleWorld 2, (sampleWorld_reachable 2).of_userEvents.wellKept.sharedVolumes,
        ⟨by decide +kernel, by decide +kernel⟩, ended⟩,
      stored, stays, ⟨volume, found, congrArg Prod.fst read, congrArg Prod.snd read⟩, claim, present, unmarked⟩
  obtain ⟨again, ⟨version, left⟩, -, -, rests⟩ := drift_is_reverted settled (by decide : {} ≠ sample.spec)
  exact ⟨again, by rw [left]; rfl, rests⟩

end World

end SharedMount
