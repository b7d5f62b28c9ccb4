import SharedMount.Proofs.Reconcile.Advancing
import SharedMount.Proofs.Reconcile.Removal
import SharedMount.Proofs.Run.Reachable

/-! # Settling

Without interference a SharedVolume that is to stay settles: every pass that asks for another one brings it
one write closer, and there are three such writes at most. It does not matter in which state volume, claim and
status are found, as long as none of them stands in the way.
-/

namespace SharedMount

namespace World

/-- The spec that a SharedVolume settles with: what its volume encodes, or else what it asks for. -/
def settledSpec (world : World) (key : ObjectKey) (asked : SharedVolumeSpec) : SharedVolumeSpec :=
  match (world.volumes.object? (volumeKey key)).map SharedVolumeSpec.ofVolume with
  | some (.ok encoded) => encoded
  | some (.error _) | none => asked

/-- Nothing stands in the way of a SharedVolume: no faults, no units of former passes, no other owner's
volume, nothing that is being deleted, and no invalid spec to settle with. -/
structure Unhindered (world : World) (key : ObjectKey) (shared : SharedVolume) : Prop where
  working : world.Working
  filed : world.sharedVolumes.WellFiled
  unlisted : world.roster.Lacks key
  stored : world.sharedVolumes.object? key = some shared
  stays : shared.isDeleting = false
  volume (volume : PersistentVolume) (found : world.volumes.object? (volumeKey key) = some volume) :
    FreeFor key volume ∧ volume.metadata.isDeleting = false
  claim (claim : PersistentVolumeClaim) (found : world.claims.object? (claimKey key) = some claim) :
    claim.metadata.isDeleting = false
  valid : (world.settledSpec key shared.spec).faultText? = none

/-- A SharedVolume has settled with a spec: it is registered and says that its claim is ready, and volume and
claim are there and carry the marker. The volume encodes the spec, unless it was there before and cannot be
read; the claim is as defined. -/
structure Settled (settings : Settings) (key : ObjectKey) (spec : SharedVolumeSpec) (before after : World) :
    Prop where
  shared : ∃ shared, after.sharedVolumes.object? key = some shared ∧ shared.spec = spec ∧
    shared.hasFinalizer = true ∧ PassM.SaysReady (claimKey key).name shared
  volume : ∃ volume, after.volumes.object? (volumeKey key) = some volume ∧ isManaged volume = true ∧
    (SharedVolumeSpec.ofVolume volume = .ok spec ∨
      before.volumes.object? (volumeKey key) = some volume ∧
        ∃ fault, SharedVolumeSpec.ofVolume volume = .error fault)
  claim : ∃ claim, after.claims.object? (claimKey key) = some claim ∧ isManaged claim = true ∧
    claim.spec = some (claimSpec key settings)

/-- The writes that a SharedVolume is short of before what it asks for is established. -/
def writesLeft (world : World) (key : ObjectKey) (shared : SharedVolume) : Nat :=
  (if shared.spec = world.settledSpec key shared.spec then 0 else 1) +
    (if shared.hasFinalizer then 0 else 1) + (if shared.phase?.isSome then 0 else 1)

theorem writesLeft_le (world : World) (key : ObjectKey) (shared : SharedVolume) :
    world.writesLeft key shared ≤ 3 := by
  unfold writesLeft
  split <;> split <;> split <;> decide

section Less

variable {world : World} {key : ObjectKey} {shared updated : SharedVolume}

private theorem writesLeft_lt_of_reverted (differs : shared.spec ≠ world.settledSpec key shared.spec)
    (agrees : updated.spec = world.settledSpec key updated.spec)
    (finalizer : updated.hasFinalizer = shared.hasFinalizer) (phase : updated.phase? = shared.phase?) :
    world.writesLeft key updated < world.writesLeft key shared := by
  rw [writesLeft, writesLeft, if_pos agrees, if_neg differs, finalizer, phase]
  omega

private theorem writesLeft_lt_of_registered (spec : updated.spec = shared.spec)
    (unregistered : shared.hasFinalizer = false) (registered : updated.hasFinalizer = true)
    (phase : updated.phase? = shared.phase?) :
    world.writesLeft key updated < world.writesLeft key shared := by
  rw [writesLeft, writesLeft, spec, phase, registered, unregistered, if_pos rfl, if_neg Bool.false_ne_true]
  omega

private theorem writesLeft_lt_of_noticed (spec : updated.spec = shared.spec)
    (finalizer : updated.hasFinalizer = shared.hasFinalizer) (unnoticed : shared.phase? = none)
    (noticed : updated.phase?.isSome) : world.writesLeft key updated < world.writesLeft key shared := by
  rw [writesLeft, writesLeft, spec, finalizer, noticed, unnoticed, Option.isSome_none, if_pos rfl,
    if_neg Bool.false_ne_true]
  omega

end Less

theorem settledSpec_of_undrifted {world : World} {shared : SharedVolume}
    (undrifted : Undrifted shared world.volumes) :
    world.settledSpec shared.key shared.spec = shared.spec := by
  rw [settledSpec]
  cases found : world.volumes.object? (volumeKey shared.key) with
  | none => rfl
  | some volume =>
    cases read : SharedVolumeSpec.ofVolume volume with
    | error fault => simp [read]
    | ok spec => simp [read, (undrifted.agrees volume found).2 spec read]

namespace Unhindered

variable {settings : Settings} {world : World} {key : ObjectKey} {shared : SharedVolume}

/-- Nothing stands in the way after a write to the SharedVolume either. -/
private theorem puts (unhindered : world.Unhindered key shared) {updated : SharedVolume}
    {after : Store SharedVolume} (puts : world.sharedVolumes.Puts after key updated)
    (own : updated.key = key) (stays : updated.isDeleting = false)
    (same : world.settledSpec key updated.spec = world.settledSpec key shared.spec) :
    { world with sharedVolumes := after }.Unhindered key updated where
  working := ⟨fun operation => puts.failing ▸ unhindered.working.sharedVolumes operation,
    unhindered.working.volumes, unhindered.working.claims⟩
  filed := unhindered.filed.puts puts own
  unlisted := unhindered.unlisted
  stored := puts.object?_self
  stays := stays
  volume := unhindered.volume
  claim := unhindered.claim
  valid := same.symm ▸ unhindered.valid

/-- A pass that finds nothing in its way either brings the SharedVolume closer to settling and leaves
volumes alone, or settles it. -/
theorem step (settings : Settings) (unhindered : world.Unhindered key shared) :
    (∃ shared', (world.reconcile settings key).2.Unhindered key shared' ∧
        (world.reconcile settings key).1 = .ok .again ∧
        (world.reconcile settings key).2.volumes = world.volumes ∧
        world.settledSpec key shared'.spec = world.settledSpec key shared.spec ∧
        (world.reconcile settings key).2.writesLeft key shared' < world.writesLeft key shared) ∨
      (world.reconcile settings key).1 = .ok .settled ∧
        Settled settings key (world.settledSpec key shared.spec) world
          (world.reconcile settings key).2 := by
  obtain rfl : shared.key = key := unhindered.filed _ _ unhindered.stored
  obtain ⟨shared', advanced⟩ := reconcile_of_held ((PassM.meets_pass_of_stays unhindered.stays).mpr
    (PassM.meets_advance settings unhindered.stored unhindered.stays))
    (unhindered.working.sharedVolumes .get) unhindered.stored
  generalize (world.reconcile settings shared.key).1 = result at advanced ⊢
  generalize (world.reconcile settings shared.key).2 = world' at advanced ⊢
  cases advanced with
  | failed failure faulty => exact absurd faulty (unhindered.working.not_faulty .get)
  | collided readable found labelled reported =>
    rw [otherOwner?_eq_none_iff.mpr (unhindered.volume _ found).1] at labelled
    cases labelled
  | @reverted volume spec after found free read differs puts =>
    have target (asked : SharedVolumeSpec) : world.settledSpec shared.key asked = spec := by
      simp [settledSpec, found, read]
    refine .inl ⟨_, unhindered.puts puts rfl unhindered.stays ?_, rfl, rfl, ?_, ?_⟩
    · rw [target, target]
    · rw [target, target]
    · exact writesLeft_lt_of_reverted (fun same => differs (same.trans (target _))) (target _).symm rfl rfl
  | @registered after undrifted unregistered puts =>
    refine .inl ⟨_, unhindered.puts puts rfl unhindered.stays rfl, rfl, rfl, rfl, ?_⟩
    exact writesLeft_lt_of_registered rfl unregistered (PassM.hasFinalizer_withFinalizer shared) rfl
  | @noticed status after undrifted registered unnoticed phased puts =>
    refine .inl ⟨_, unhindered.puts puts rfl unhindered.stays rfl, rfl, rfl, rfl, ?_⟩
    exact writesLeft_lt_of_noticed rfl rfl unnoticed phased
  | served undrifted registered noticed ends =>
    have served := PassM.meets_iff_outcome.mp (PassM.meets_serve settings unhindered.stored
      noticed undrifted unhindered.unlisted
      (fun ⟨volume, found, marked⟩ => absurd ((unhindered.volume volume found).2.symm.trans marked) (by simp))
      (fun ⟨claim, found, marked⟩ => absurd ((unhindered.claim claim found).symm.trans marked) (by simp)))
    rw [ends] at served
    have target := settledSpec_of_undrifted undrifted
    rcases result with failure | verdict
    · rcases served.failed rfl with invalid | ⟨operation, fails | fails | fails⟩
      · exact absurd (target ▸ unhindered.valid) invalid
      · exact absurd fails unhindered.working.no_shared_fault
      · exact absurd fails unhindered.working.no_volume_fault
      · exact absurd fails unhindered.working.no_claim_fault
    · obtain ⟨rfl, ⟨volume, claim⟩, ready⟩ := served.succeeded rfl
      refine .inr ⟨rfl, ?_, target.symm ▸ volume, claim⟩
      have held := served.held
      obtain ⟨version, status, rfl⟩ := served.restated
      exact ⟨_, held, target.symm, registered, ready⟩

/-- When a number of writes are left at most, as many passes ask for another one, and the next one settles. -/
private theorem settles {count : Nat} (unhindered : world.Unhindered key shared)
    (left : world.writesLeft key shared ≤ count) : ∃ again ≤ count,
      (∀ earlier < again, ((world.passes settings key earlier).reconcile settings key).1 = .ok .again) ∧
        ((world.passes settings key again).reconcile settings key).1 = .ok .settled ∧
        Settled settings key (world.settledSpec key shared.spec) world
          (world.passes settings key (again + 1)) := by
  induction count generalizing world shared with
  | zero =>
    rcases unhindered.step settings with ⟨shared', -, -, -, -, less⟩ | ⟨ended, settled⟩
    · omega
    · exact ⟨0, Nat.le_refl 0, by simp, ended, settled⟩
  | succ count ih =>
    rcases unhindered.step settings with
      ⟨shared', unhindered', ended, volumes, target, less⟩ | ⟨ended, settled⟩
    · obtain ⟨again, bound, earlier, last, settled⟩ := ih unhindered' (by omega)
      refine ⟨again + 1, by omega, ?_, last, ?_⟩
      · rintro (_ | before) some
        · exact ended
        · exact earlier before (by omega)
      · have same : (world.reconcile settings key).2.settledSpec key shared'.spec =
            world.settledSpec key shared.spec := by
          rw [← target, settledSpec, settledSpec, volumes]
        obtain ⟨shared, volume, claim⟩ := settled
        rw [same] at shared volume
        rw [volumes] at volume
        exact ⟨shared, volume, claim⟩
    · exact ⟨0, by omega, by simp, ended, settled⟩

end Unhindered

/-- When nothing stands in the way of a SharedVolume, at most three passes ask for another one without a
failure, and the pass after them settles it. -/
theorem settles_within_four_passes {settings : Settings} {world : World} {key : ObjectKey}
    {shared : SharedVolume} (unhindered : world.Unhindered key shared) : ∃ again ≤ 3,
      (∀ earlier < again, ((world.passes settings key earlier).reconcile settings key).1 = .ok .again) ∧
        ((world.passes settings key again).reconcile settings key).1 = .ok .settled ∧
        Settled settings key (world.settledSpec key shared.spec) world
          (world.passes settings key (again + 1)) :=
  unhindered.settles (world.writesLeft_le key shared)

/-- The sample asking for other identifiers than its volume has. -/
def drifted : SharedVolume :=
  { sample with spec := { fileSystemId := "fs-2", accessPointId := "fsap-2" } }

/-- A volume of the older form under the name of the sample's, without labels. -/
def legacyVolume : PersistentVolume where
  metadata := { name := some (volumeName sample.key) }
  spec := some {
    csi := some { driver := "efs.csi.aws.com", volumeHandle := "fs-1" }
    mountOptions := some ["tls", "accesspoint=fsap-1"] }

/-- A claim under the name of the sample's, made by somebody else. -/
def strangeClaim : PersistentVolumeClaim where
  metadata := { name := some (claimKey sample.key).name, ns := sample.key.ns }

/-- A world without a pass so far, in which nothing is as the operator would leave it. -/
def neglectedWorld : World where
  sharedVolumes := (({} : Store SharedVolume).insert drifted).2
  volumes := (({} : Store PersistentVolume).insert legacyVolume).2
  claims := (({} : Store PersistentVolumeClaim).insert strangeClaim).2

theorem neglectedWorld_unhindered :
    neglectedWorld.Unhindered sample.key (({} : Store SharedVolume).stamp drifted) where
  working := ⟨fun _ => rfl, fun _ => rfl, fun _ => rfl⟩
  filed := Store.wellFiled_empty.puts (Store.puts_insert {} drifted) (Store.key_stamp ..)
  unlisted := ⟨by decide +kernel, by decide +kernel⟩
  stored := (Store.puts_insert {} drifted).object?_self
  stays := rfl
  volume volume found := by
    obtain rfl := (Store.puts_insert {} legacyVolume).eq_of_object?_self found
    exact ⟨by rw [FreeFor, owner?_stamp]; decide, rfl⟩
  claim claim found := by
    obtain rfl := (Store.puts_insert {} strangeClaim).eq_of_object?_self found
    rfl
  valid := by decide +kernel

/-- The neglected sample settles, and with the identifiers that its volume has. -/
theorem settles_within_four_passes_sample : ∃ again ≤ 3,
    (∀ earlier < again,
      ((neglectedWorld.passes {} sample.key earlier).reconcile {} sample.key).1 = .ok .again) ∧
      ((neglectedWorld.passes {} sample.key again).reconcile {} sample.key).1 = .ok .settled ∧
      Settled {} sample.key sample.spec neglectedWorld
        (neglectedWorld.passes {} sample.key (again + 1)) := by
  have spec : neglectedWorld.settledSpec sample.key drifted.spec = sample.spec := by decide +kernel
  obtain ⟨again, bound, earlier, last, settled⟩ := settles_within_four_passes neglectedWorld_unhindered
  exact ⟨again, bound, earlier, last, spec ▸ settled⟩

end World

end SharedMount
