import SharedMount.Proofs.Provision.Handle
import SharedMount.Proofs.Reconcile.Steps
import SharedMount.Proofs.Upkeep.Charge
import SharedMount.Proofs.Upkeep.Rest

/-! # What provisioning comes to

For an owner without units, provisioning builds both of them from the SharedVolume at hand. It leaves a
volume and a claim that carry the marker and that the spec does not drift from, or fails because some
operation was made to fail; either way, provisioning again would end in the same way and change nothing.
-/

namespace SharedMount

/-! ## Contents of what units make -/

theorem Upkeep.Made.spec_volume {unit : Upkeep PersistentVolume} {store : Store PersistentVolume}
    {volume : PersistentVolume} (made : unit.Made store volume) :
    volume.spec = (unit.latest.getD unit.definition).spec := by
  cases made <;> rfl

theorem Upkeep.Made.spec_claim {unit : Upkeep PersistentVolumeClaim} {store : Store PersistentVolumeClaim}
    {claim : PersistentVolumeClaim} (made : unit.Made store claim) :
    claim.spec = (unit.latest.getD unit.definition).spec := by
  cases made <;> rfl

theorem Upkeep.spec_wanted_claim (unit : Upkeep PersistentVolumeClaim) :
    unit.wanted.spec = (unit.latest.getD unit.definition).spec := rfl

theorem PersistentVolumeClaim.agree_spec_iff {wanted stored : PersistentVolumeClaim} :
    (Comparison.field "spec").agree wanted stored = true ↔ wanted.spec = stored.spec := by
  simp only [Comparison.agree, decide_eq_true_eq, get?_spec_encode]
  refine ⟨fun same => ?_, congrArg _⟩
  refine Option.map_injective (fun spec other encoded => ?_) same
  have read := congrArg ClaimSpec.decode? encoded
  rwa [ClaimSpec.decode?_encode, ClaimSpec.decode?_encode, Option.some.injEq] at read

/-- The volume of a SharedVolume does not call for another spec: there is none, or it is free for the owner
and encodes the spec as far as it can be read. -/
structure Undrifted (shared : SharedVolume) (volumes : Store PersistentVolume) : Prop where
  readable : volumes.failing .get = false
  agrees (volume : PersistentVolume)
    (found : volumes.object? (volumeKey shared.key) = some volume) :
    FreeFor shared.key volume ∧
      ∀ spec, SharedVolumeSpec.ofVolume volume = .ok spec → shared.spec = spec

/-- What can be read from a volume that was provided is the spec, if the volume before did not drift. -/
theorem Undrifted.provides {settings : Settings} {shared : SharedVolume}
    {before after : Store PersistentVolume} {volume : PersistentVolume} (undrifted : Undrifted shared before)
    (valid : shared.spec.faultText? = none)
    (provides : (volumeUpkeep shared settings).Provides before after volume) :
    FreeFor shared.key volume ∧ (SharedVolumeSpec.ofVolume volume = .ok shared.spec ∨
      before.object? (volumeKey shared.key) = some volume ∧
        ∃ fault, SharedVolumeSpec.ofVolume volume = .error fault) := by
  rcases provides.origin with ⟨found, -⟩ | made
  · obtain ⟨free, agrees⟩ := undrifted.agrees volume found
    refine ⟨free, ?_⟩
    cases read : SharedVolumeSpec.ofVolume volume with
    | error fault => exact .inr ⟨found, fault, rfl⟩
    | ok spec => exact .inl (congrArg _ (agrees spec read).symm)
  · have spec : volume.spec = some (volumeSpec shared.spec settings) := made.spec_volume
    refine ⟨?_, .inl (SharedVolumeSpec.ofVolume_of_valid spec valid)⟩
    rw [FreeFor, made.owner?]
    exact (Upkeep.ChargedAs.fresh rfl).freeFor_wanted

theorem Undrifted.provided {settings : Settings} {shared : SharedVolume}
    {before after : Store PersistentVolume} {result : Except Failure Unit}
    (undrifted : Undrifted shared before) (valid : shared.spec.faultText? = none)
    (provided : (volumeUpkeep shared settings).Provided before after result) : Undrifted shared after := by
  rcases result with failure | ⟨⟩
  · exact provided.1 ▸ undrifted
  · obtain ⟨volume, provides⟩ := provided
    obtain ⟨free, reads⟩ := undrifted.provides valid provides
    refine ⟨provides.readable, fun other found => ?_⟩
    obtain rfl : volume = other := Option.some.inj (provides.stored.symm.trans found)
    refine ⟨free, fun spec read => ?_⟩
    rcases reads with same | ⟨-, fault, unread⟩
    · exact Except.ok.inj (same.symm.trans read)
    · exact absurd (unread.symm.trans read) (by simp)

/-- The spec of a claim that was provided is as defined. -/
theorem spec_of_provides {settings : Settings} {shared : SharedVolume}
    {before after : Store PersistentVolumeClaim} {claim : PersistentVolumeClaim}
    (provides : (claimUpkeep shared settings).Provides before after claim) :
    claim.spec = (claimDefinition shared settings).spec := by
  rcases provides.origin with ⟨-, agrees⟩ | made
  · exact (PersistentVolumeClaim.agree_spec_iff.mp agrees).symm.trans (Upkeep.spec_wanted_claim _)
  · exact made.spec_claim

/-- An owner has no units. -/
structure Roster.Lacks (roster : Roster) (owner : ObjectKey) : Prop where
  volume : roster.volumes.unit? owner = none
  claim : roster.claims.unit? owner = none

/-- The volume and the claim of a SharedVolume are there and carry the marker, and the claim is as defined.
The volume encodes the spec, unless it was there before and cannot be read. -/
structure Provisioned (settings : Settings) (shared : SharedVolume) (before after : World) : Prop where
  volume : ∃ volume, after.volumes.object? (volumeKey shared.key) = some volume ∧
    isManaged volume = true ∧ (SharedVolumeSpec.ofVolume volume = .ok shared.spec ∨
      before.volumes.object? (volumeKey shared.key) = some volume ∧
        ∃ fault, SharedVolumeSpec.ofVolume volume = .error fault)
  claim : ∃ claim, after.claims.object? (claimKey shared.key) = some claim ∧
    isManaged claim = true ∧ claim.spec = (claimDefinition shared settings).spec

namespace PassM

variable {settings : Settings} {shared : SharedVolume} {world : World}

/-! ## The units of an owner -/

theorem still_establishVolume {result : Except Failure Unit}
    (rests : world.roster.volumes.Rests shared.key world.volumes result) :
    (withVolumeUnit settings Upkeep.establish).Still shared world result := by
  obtain ⟨unit, listed, rests⟩ := rests
  have taken : world.roster.volume shared settings = (unit, world.roster) := by
    rw [Roster.volume, Shelf.take_of_some listed]
  rw [Still, meets_withVolumeUnit, taken]
  refine ⟨trivial, (StoreProgram.outcome_eq_iff.mp rests).imp ?_⟩
  rintro _ _ ⟨rfl, rfl⟩
  cases result with
  | error failure => exact ⟨rfl, rfl, rfl⟩
  | ok value =>
    refine ⟨trivial, rfl, rfl, ?_⟩
    simp only [Shelf.record_self listed]

theorem still_establishClaim {result : Except Failure Unit}
    (rests : world.roster.claims.Rests shared.key world.claims result) :
    (withClaimUnit settings Upkeep.establish).Still shared world result := by
  obtain ⟨unit, listed, rests⟩ := rests
  have taken : world.roster.claim shared settings = (unit, world.roster) := by
    rw [Roster.claim, Shelf.take_of_some listed]
  rw [Still, meets_withClaimUnit, taken]
  refine ⟨trivial, (StoreProgram.outcome_eq_iff.mp rests).imp ?_⟩
  rintro _ _ ⟨rfl, rfl⟩
  cases result with
  | error failure => exact ⟨rfl, rfl, rfl⟩
  | ok value =>
    refine ⟨trivial, rfl, rfl, ?_⟩
    simp only [Shelf.record_self listed]

private theorem establishVolume_provides (unlisted : world.roster.volumes.unit? shared.key = none)
    (calm : ¬world.volumes.Terminating (volumeKey shared.key)) :
    (withVolumeUnit settings Upkeep.establish).Meets (fun _ _ => True) (fun result shared' world' =>
      shared' = shared ∧ world'.sharedVolumes = world.sharedVolumes ∧ world'.claims = world.claims ∧
        world'.roster.claims = world.roster.claims ∧
        world'.roster.volumes.Rests shared.key world'.volumes result ∧
        (volumeUpkeep shared settings).Provided world.volumes world'.volumes result) shared world := by
  have own : Resource.key (volumeUpkeep shared settings).wanted = volumeKey shared.key :=
    Upkeep.key_wanted _
  have unversioned : Resource.version? (volumeUpkeep shared settings).wanted = none :=
    Upkeep.version?_wanted _
  rw [meets_withVolumeUnit]
  refine ⟨trivial, (Shelf.meets_establish unlisted own (isManaged_markManaged_linkOwner _ _)
    unversioned calm fun _ => rfl).imp ?_⟩
  rintro (failure | unit) volumes ⟨rests, provided⟩
  · exact ⟨rfl, rfl, rfl, rfl, rests, provided⟩
  · exact ⟨trivial, rfl, rfl, rfl, rfl, rests, provided⟩

private theorem establishClaim_provides (unlisted : world.roster.claims.unit? shared.key = none)
    (calm : ¬world.claims.Terminating (claimKey shared.key)) :
    (withClaimUnit settings Upkeep.establish).Meets (fun _ _ => True) (fun result shared' world' =>
      shared' = shared ∧ world'.sharedVolumes = world.sharedVolumes ∧ world'.volumes = world.volumes ∧
        world'.roster.volumes = world.roster.volumes ∧
        world'.roster.claims.Rests shared.key world'.claims result ∧
        (claimUpkeep shared settings).Provided world.claims world'.claims result) shared world := by
  have own : Resource.key (claimUpkeep shared settings).wanted = claimKey shared.key :=
    Upkeep.key_wanted _
  have unversioned : Resource.version? (claimUpkeep shared settings).wanted = none :=
    Upkeep.version?_wanted _
  rw [meets_withClaimUnit]
  refine ⟨trivial, (Shelf.meets_establish unlisted own (isManaged_markManaged_linkOwner _ _)
    unversioned calm fun _ => PersistentVolumeClaim.agree_spec_iff.mpr rfl).imp ?_⟩
  rintro (failure | unit) claims ⟨rests, provided⟩
  · exact ⟨rfl, rfl, rfl, rfl, rests, provided⟩
  · exact ⟨trivial, rfl, rfl, rfl, rfl, rests, provided⟩

private theorem establishVolume_leaving (unlisted : world.roster.volumes.unit? shared.key = none) :
    (withVolumeUnit settings Upkeep.establish).Meets (fun _ _ => True) (fun _ shared' world' =>
      shared' = shared ∧ world'.claims = world.claims ∧ world'.roster.claims = world.roster.claims ∧
        (world.volumes.Terminating (volumeKey shared.key) →
          world'.volumes.Leaving (volumeKey shared.key))) shared world := by
  rw [meets_withVolumeUnit, Roster.volume, Shelf.upkeep_take_of_none unlisted]
  refine ⟨trivial, (Upkeep.meets_establish (Upkeep.key_wanted _) trivial (fun _ => trivial)
    fun _ _ _ => trivial).imp ?_⟩
  rintro (failure | unit) volumes established
  · exact ⟨rfl, rfl, rfl, established.leaving⟩
  · exact ⟨trivial, rfl, rfl, rfl, established.leaving⟩

private theorem establishClaim_leaving (unlisted : world.roster.claims.unit? shared.key = none) :
    (withClaimUnit settings Upkeep.establish).Meets (fun _ _ => True) (fun _ _ world' =>
      world'.volumes = world.volumes ∧ (world.claims.Terminating (claimKey shared.key) →
        world'.claims.Leaving (claimKey shared.key))) shared world := by
  rw [meets_withClaimUnit, Roster.claim, Shelf.upkeep_take_of_none unlisted]
  refine ⟨trivial, (Upkeep.meets_establish (Upkeep.key_wanted _) trivial (fun _ => trivial)
    fun _ _ _ => trivial).imp ?_⟩
  rintro (failure | unit) claims established
  · exact ⟨rfl, established.leaving⟩
  · exact ⟨trivial, rfl, established.leaving⟩

/-! ## Both of them -/

/-- A volume or a claim that was being deleted is not to stay after provisioning. -/
theorem meets_provision_leaving (settings : Settings) (unlisted : world.roster.Lacks shared.key) :
    (provision settings).Meets (fun _ _ => True) (fun _ _ world' =>
      (world.volumes.Terminating (volumeKey shared.key) → world'.volumes.Leaving (volumeKey shared.key)) ∧
        (world.claims.Terminating (claimKey shared.key) → world'.claims.Leaving (claimKey shared.key)))
      shared world := by
  rw [provision, meets_bind]
  refine (establishVolume_leaving unlisted.volume).imp ?_
  rintro (failure | ⟨⟩) shared' world' ⟨rfl, claims, units, volume⟩
  · exact ⟨volume, claims.symm ▸ Store.Terminating.leaving⟩
  · refine (establishClaim_leaving (units ▸ unlisted.claim)).imp ?_
    rintro result shared'' world'' ⟨volumes, claim⟩
    exact ⟨volumes.symm ▸ volume, claims ▸ claim⟩

/-- What establishing both comes to with a valid spec that the volume does not drift from: provisioning again
would end in the same way and change nothing, also after writes to SharedVolumes. -/
theorem meets_provision (undrifted : Undrifted shared world.volumes) (valid : shared.spec.faultText? = none)
    (unlisted : world.roster.Lacks shared.key)
    (calmVolume : ¬world.volumes.Terminating (volumeKey shared.key))
    (calmClaim : ¬world.claims.Terminating (claimKey shared.key)) :
    (provision settings).Meets (fun _ _ => True) (fun result shared' world' =>
      shared' = shared ∧ world'.sharedVolumes = world.sharedVolumes ∧ Undrifted shared world'.volumes ∧
        (∀ later sharedVolumes, later.key = shared.key →
          (provision settings).Still later { world' with sharedVolumes } result) ∧
        match result with
        | .ok () => Provisioned settings shared world world'
        | .error _ => ∃ operation, world.volumes.failing operation = true ∨
            world.claims.failing operation = true) shared world := by
  rw [provision, meets_bind]
  refine (establishVolume_provides unlisted.volume calmVolume).imp ?_
  rintro result shared' world' ⟨rfl, sharedVolumes, claims, claimUnits, volumeRests, volume⟩
  have undrifted' := undrifted.provided valid volume
  rcases result with failure | ⟨⟩
  · refine ⟨rfl, sharedVolumes, undrifted', fun later stored own => ?_, volume.2.imp fun _ => .inl⟩
    exact (still_establishVolume (own ▸ volumeRests)).bind_error
  · simp only
    refine (establishClaim_provides (claimUnits ▸ unlisted.claim) (claims ▸ calmClaim)).imp ?_
    rintro result shared'' world'' ⟨rfl, sharedVolumes', volumes', volumeUnits, claimRests, claim⟩
    refine ⟨rfl, sharedVolumes'.trans sharedVolumes, volumes' ▸ undrifted', fun later stored own => ?_, ?_⟩
    · have volumeRests' : world''.roster.volumes.Rests later.key world''.volumes (.ok ()) := by
        rw [own, volumeUnits, volumes']
        exact volumeRests
      have claimRests' : world''.roster.claims.Rests later.key world''.claims result := own ▸ claimRests
      exact Still.bind (still_establishVolume volumeRests') (still_establishClaim claimRests')
    · rcases result with failure | ⟨⟩
      · exact claims ▸ claim.2.imp fun _ => .inr
      · obtain ⟨volume, provides⟩ := volume
        obtain ⟨claim, provides'⟩ := claim
        exact ⟨⟨volume, volumes' ▸ provides.stored, provides.managed,
          (undrifted.provides valid provides).2⟩, claim, provides'.stored, provides'.managed,
          spec_of_provides provides'⟩

end PassM

end SharedMount
