import SharedMount.Proofs.Reconcile.Stages
import SharedMount.Proofs.Run.Footprint
import SharedMount.Proofs.Run.Quiescence
import SharedMount.Proofs.Store.Contents
import SharedMount.Proofs.Upkeep.Convergence

/-! # Onboarding of a SharedVolume

Three passes bring a fresh SharedVolume to ready where nothing is there for it yet: the first registers for
cleanup, the second notices it, and the third provides volume and claim. `Onboarding` says how far the passes
over a SharedVolume have come. What it speaks of is a part of the footprint of those passes only, so passes over
others do not change it.
-/

namespace SharedMount

/-- A SharedVolume as users make it: no operator has worked on it, it is to stay, and it is valid. -/
structure SharedVolume.Fresh (shared : SharedVolume) : Prop where
  named : shared.key.Named
  unregistered : shared.metadata.finalizerList = []
  unreported : shared.status = none
  stays : shared.isDeleting = false
  valid : shared.spec.faultText? = none

/-- What a number of passes make of a fresh SharedVolume, versions apart. -/
def SharedVolume.onboarded (shared : SharedVolume) : Nat → SharedVolume
  | 0 => shared
  | 1 => PassM.withFinalizer shared
  | 2 => { PassM.withFinalizer shared with status := some { phase := some .pending } }
  | _ + 3 =>
      { PassM.withFinalizer shared with
        status := some (PassM.readyStatus (claimKey shared.key).name) }

namespace SharedVolume

variable (shared : SharedVolume) (passes : Nat)

@[simp] theorem key_onboarded : Resource.key (shared.onboarded passes) = shared.key := by
  rcases passes with _ | _ | _ | passes <;> rfl

@[simp] theorem spec_onboarded : (shared.onboarded passes).spec = shared.spec := by
  rcases passes with _ | _ | _ | passes <;> rfl

@[simp] theorem isDeleting_onboarded : (shared.onboarded passes).isDeleting = shared.isDeleting := by
  rcases passes with _ | _ | _ | passes <;> rfl

end SharedVolume

namespace Upkeep

/-! ## What units make for a SharedVolume -/

theorem key_volumeUpkeep (shared : SharedVolume) (settings : Settings) :
    Resource.key (volumeUpkeep shared settings).wanted = volumeKey shared.key :=
  key_wanted _

theorem key_claimUpkeep (shared : SharedVolume) (settings : Settings) :
    Resource.key (claimUpkeep shared settings).wanted = claimKey shared.key :=
  key_wanted _

theorem belongsTo_volumeUpkeep {shared : SharedVolume} (named : shared.key.Named) (settings : Settings) :
    BelongsTo shared.key (volumeKey shared.key) (volumeUpkeep shared settings).wanted := by
  refine belongsTo_wanted (belongsTo_volumeDefinition named settings) fun latest seen => ?_
  cases seen

theorem belongsTo_claimUpkeep {shared : SharedVolume} (named : shared.key.Named) (settings : Settings) :
    BelongsTo shared.key (claimKey shared.key) (claimUpkeep shared settings).wanted := by
  refine belongsTo_wanted (belongsTo_claimDefinition named settings) fun latest seen => ?_
  cases seen

/-- The volume that the unit for a SharedVolume makes encodes the spec. -/
theorem ofVolume_wanted {shared : SharedVolume} (valid : shared.spec.faultText? = none) (settings : Settings)
    (version : Option String) : SharedVolumeSpec.ofVolume
      (Resource.withVersion version (volumeUpkeep shared settings).wanted) = .ok shared.spec := by
  have spec : (Resource.withVersion version (volumeUpkeep shared settings).wanted).spec =
      some (volumeSpec shared.spec settings) := rfl
  exact SharedVolumeSpec.ofVolume_of_valid spec valid

variable {K : Type} [Resource K] [StatusKind K]

/-! ## Units that make their object and keep it -/

/-- For an owner without a unit and where nothing is stored, the unit that is built creates its object and has
seen it then. -/
theorem meets_establish_missing {shelf : Shelf K} {owner : ObjectKey} {fresh : Upkeep K} {store : Store K}
    (unlisted : shelf.unit? owner = none) (own : Resource.key fresh.wanted = fresh.key)
    (missing : store.object? fresh.key = none) (working : ∀ operation, store.failing operation = false) :
    (shelf.take owner fresh).1.upkeep.establish.Meets (fun _ _ => True) (fun result after =>
      ∃ unit, result = .ok unit ∧ after.Holds fresh.wanted ∧
        ∃ listed, ((shelf.take owner fresh).2.record owner unit.latest).unit? owner = some listed ∧
          listed.upkeep = { fresh with latest := after.object? fresh.key }) store := by
  have listed : (shelf.take owner fresh).2.unit? owner = some (shelf.take owner fresh).1 := by
    rw [Shelf.unit?_take, if_pos rfl]
  rw [Shelf.upkeep_take_of_none unlisted]
  refine (meets_establish own trivial (fun _ => trivial) fun _ _ _ => trivial).imp ?_
  intro result after established
  cases established with
  | failed failure faulty =>
    obtain ⟨operation, fails⟩ := faulty
    rw [working] at fails
    cases fails
  | accepted found | replaced found | finished found =>
    rw [missing] at found
    cases found
  | created missing puts =>
    refine ⟨_, rfl, ⟨_, own.symm ▸ puts.object?_self⟩, _, Shelf.unit?_record_of_some listed _, ?_⟩
    rw [Shelf.upkeep_take_of_none unlisted, puts.object?_self]

/-- A unit that has seen the object that it made is content with it. -/
theorem rests_of_held [DocumentKind K] {fresh : Upkeep K} {store : Store K}
    (own : Resource.key fresh.wanted = fresh.key) (managed : isManaged fresh.definition = true)
    (compares : fresh.comparison ≠ .field "metadata") (readable : store.failing .get = false)
    (holds : store.Holds fresh.wanted) : { fresh with latest := store.object? fresh.key }.Rests store (.ok ()) := by
  obtain ⟨version, found⟩ := holds
  rw [own] at found
  have seen : { fresh with latest := store.object? fresh.key }.latest =
      some (Resource.withVersion version fresh.wanted) := found
  refine rests_of_accepts readable found seen ?_
  rw [accepts, agree_wanted_of_latest seen compares, isManaged_withVersion, isManaged_wanted managed]
  simp

end Upkeep

namespace World

/-- The volume and the claim of a SharedVolume are as its units made them, and that is what they have seen
last. -/
structure Keeps (settings : Settings) (shared : SharedVolume) (world : World) : Prop where
  volume : world.volumes.Holds (volumeUpkeep shared settings).wanted
  claim : world.claims.Holds (claimUpkeep shared settings).wanted
  volumeUnit : ∃ unit, world.roster.volumes.unit? shared.key = some unit ∧
    unit.upkeep = { volumeUpkeep shared settings with latest := world.volumes.object? (volumeKey shared.key) }
  claimUnit : ∃ unit, world.roster.claims.unit? shared.key = some unit ∧
    unit.upkeep = { claimUpkeep shared settings with latest := world.claims.object? (claimKey shared.key) }

/-- How far the operator has come with a fresh SharedVolume after a number of passes over it. -/
inductive Onboarding (settings : Settings) (shared : SharedVolume) (world : World) : Nat → Prop where
  | preparing {passes : Nat} (few : passes < 3) (held : world.sharedVolumes.Holds (shared.onboarded passes))
      (volume : world.volumes.object? (volumeKey shared.key) = none)
      (claim : world.claims.object? (claimKey shared.key) = none) (unlisted : world.roster.Lacks shared.key) :
      Onboarding settings shared world passes
  | ready {passes : Nat} (held : world.sharedVolumes.Holds (shared.onboarded (passes + 3)))
      (keeps : world.Keeps settings shared) : Onboarding settings shared world (passes + 3)

variable {settings : Settings} {shared : SharedVolume} {world after : World} {key : ObjectKey} {passes : Nat}

/-- A pass over another SharedVolume, whose volume has another name, changes nothing of it. -/
theorem Onboarding.elsewhere (onboarding : Onboarding settings shared world passes)
    (same : SameApartFrom key world after) (differ : shared.key ≠ key)
    (apart : volumeKey shared.key ≠ volumeKey key) : Onboarding settings shared after passes := by
  have sharedSame : after.sharedVolumes.object? (Resource.key (shared.onboarded passes)) =
      world.sharedVolumes.object? (Resource.key (shared.onboarded passes)) := by
    rw [SharedVolume.key_onboarded, same.sharedVolumes differ]
  have volumeSame := same.volumes apart
  have claimSame := same.claims fun own => differ (claimKey_inj.mp own)
  cases onboarding with
  | preparing few held volume claim unlisted =>
    exact .preparing few (held.of_eq sharedSame) (volumeSame.trans volume) (claimSame.trans claim)
      ⟨(same.volumeUnits differ).trans unlisted.volume, (same.claimUnits differ).trans unlisted.claim⟩
  | ready held keeps =>
    refine .ready (held.of_eq sharedSame) ⟨?_, ?_, ?_, ?_⟩
    · exact keeps.volume.of_eq ((Upkeep.key_volumeUpkeep shared settings).symm ▸ volumeSame)
    · exact keeps.claim.of_eq ((Upkeep.key_claimUpkeep shared settings).symm ▸ claimSame)
    · rw [same.volumeUnits differ, volumeSame]
      exact keeps.volumeUnit
    · rw [same.claimUnits differ, claimSame]
      exact keeps.claimUnit

/-- After three passes a SharedVolume is ready. -/
theorem Onboarding.finished (onboarding : Onboarding settings shared world passes) (often : 3 ≤ passes) :
    world.sharedVolumes.Holds (shared.onboarded 3) ∧ world.Keeps settings shared := by
  cases onboarding with
  | preparing few => omega
  | ready held keeps => exact ⟨held, keeps⟩

end World

namespace PassM

variable {settings : Settings} {shared : SharedVolume} {world : World}

/-! ## The work of each stage -/

theorem meets_work_register (working : world.Working)
    (held : world.sharedVolumes.object? shared.key = some shared) (stays : shared.isDeleting = false) :
    (Stage.register.work settings).Meets (fun _ _ => True) (fun result _ world' =>
      result = .ok .again ∧ ∃ after, world' = { world with sharedVolumes := after } ∧
        world.sharedVolumes.Puts after shared.key (world.sharedVolumes.stamp (withFinalizer shared)))
      shared world := by
  have merged : Store.merged (withFinalizer shared) shared = withFinalizer shared := merged_eq_self rfl rfl
  rw [Stage.work, meets_bind, meets_get]
  simp only
  rw [meets_bind]
  refine meets_replace trivial held rfl rfl ?_ ?_ ?_
  · exact fun failure faulty => absurd faulty working.no_shared_fault
  · exact fun after finishes _ => absurd stays finishes.not_stays
  · intro after _ puts
    rw [merged] at puts
    exact ⟨rfl, after, rfl, puts⟩

theorem meets_work_notice (working : world.Working)
    (held : world.sharedVolumes.object? shared.key = some shared) (unreported : shared.status = none) :
    (Stage.notice.work settings).Meets (fun _ _ => True) (fun result _ world' =>
      result = .ok .again ∧ ∃ after, world' = { world with sharedVolumes := after } ∧
        world.sharedVolumes.Puts after shared.key
          (world.sharedVolumes.stamp { shared with status := some { phase := some .pending } }))
      shared world := by
  rw [Stage.work, meets_bind]
  refine (meets_report trivial held).imp ?_
  intro result shared' world' reported
  rw [unreported] at reported
  cases reported with
  | kept phase message =>
    rw [unreported] at phase
    cases phase
  | failed failure faulty => exact absurd faulty working.no_shared_fault
  | written puts => exact ⟨rfl, _, rfl, puts⟩

/-- Providing for an owner for whom nothing is there yet. -/
theorem meets_provision_missing (working : world.Working) (unlisted : world.roster.Lacks shared.key)
    (volume : world.volumes.object? (volumeKey shared.key) = none)
    (claim : world.claims.object? (claimKey shared.key) = none) :
    (provision settings).Meets (fun _ _ => True) (fun result shared' world' =>
      result = .ok () ∧ shared' = shared ∧ world'.sharedVolumes = world.sharedVolumes ∧
        world'.Keeps settings shared) shared world := by
  rw [provision, meets_bind, meets_withVolumeUnit]
  refine ⟨trivial, (Upkeep.meets_establish_missing unlisted.volume (Upkeep.key_volumeUpkeep shared settings)
    volume working.volumes).imp ?_⟩
  rintro _ volumes ⟨unit, rfl, holdsVolume, volumeUnit⟩
  refine ⟨trivial, ?_⟩
  simp only
  rw [meets_withClaimUnit]
  refine ⟨trivial, (Upkeep.meets_establish_missing unlisted.claim (Upkeep.key_claimUpkeep shared settings)
    claim working.claims).imp ?_⟩
  rintro _ claims ⟨unit', rfl, holdsClaim, claimUnit⟩
  exact ⟨trivial, rfl, rfl, rfl, holdsVolume, holdsClaim, volumeUnit, claimUnit⟩

theorem meets_work_serve (working : world.Working)
    (held : world.sharedVolumes.object? shared.key = some shared) (pending : shared.phase? = some .pending)
    (unlisted : world.roster.Lacks shared.key)
    (volume : world.volumes.object? (volumeKey shared.key) = none)
    (claim : world.claims.object? (claimKey shared.key) = none) :
    (Stage.serve.work settings).Meets (fun _ _ => True) (fun result _ world' =>
      result = .ok .settled ∧ world'.Keeps settings shared ∧
        world.sharedVolumes.Puts world'.sharedVolumes shared.key (world.sharedVolumes.stamp
          { shared with status := some (readyStatus (claimKey shared.key).name) })) shared world := by
  rw [Stage.work, meets_bind, meets_get]
  simp only
  rw [meets_bind, meets_attempt]
  refine (meets_provision_missing working unlisted volume claim).imp ?_
  rintro _ shared' world' ⟨rfl, rfl, same, keeps⟩
  simp only [Stage.conclude]
  rw [meets_bind]
  refine (meets_reportReady trivial (same ▸ held)).imp ?_
  intro result shared'' world'' reported
  cases reported with
  | kept phase message =>
    rw [← SharedVolume.phase?_eq, pending] at phase
    cases phase
  | failed failure faulty =>
    rw [same] at faulty
    exact absurd faulty working.no_shared_fault
  | written puts =>
    rw [same] at puts
    exact ⟨rfl, ⟨keeps.volume, keeps.claim, keeps.volumeUnit, keeps.claimUnit⟩, puts⟩

end PassM

/-! ## One pass -/

/-- The stage of a SharedVolume that has come so far. -/
theorem Stage.undrifted_onboarded {shared : SharedVolume} (fresh : shared.Fresh) (version : Option String)
    (passes : Nat) : Stage.undrifted (Resource.withVersion version (shared.onboarded passes)) =
      match passes with
      | 0 => register
      | 1 => notice
      | _ + 2 => serve := by
  have unregistered : (Resource.withVersion version shared).hasFinalizer = false := by
    change decide (cleanupFinalizer ∈ shared.metadata.finalizerList) = false
    rw [fresh.unregistered]
    rfl
  have registered (passes : Nat) :
      (Resource.withVersion version (shared.onboarded (passes + 1))).hasFinalizer = true := by
    rcases passes with _ | _ | passes <;> exact PassM.hasFinalizer_withFinalizer shared
  have unphased : (Resource.withVersion version (shared.onboarded 1)).phase? = none := by
    change shared.status.bind (·.phase) = none
    rw [fresh.unreported]
    rfl
  have phased (passes : Nat) :
      (Resource.withVersion version (shared.onboarded (passes + 2))).phase?.isNone = false := by
    rcases passes with _ | passes <;> rfl
  have valid (passes : Nat) :
      (Resource.withVersion version (shared.onboarded passes)).spec.faultText? = none := by
    change (shared.onboarded passes).spec.faultText? = none
    rw [SharedVolume.spec_onboarded, fresh.valid]
  rcases passes with _ | _ | passes
  · rw [undrifted, SharedVolume.onboarded, unregistered]
    rfl
  · rw [undrifted, registered, unphased]
    rfl
  · rw [undrifted, registered, phased, valid]
    rfl

theorem Stage.among_of_undrifted {shared : SharedVolume} {volumes : Store PersistentVolume}
    (agrees : Undrifted shared volumes) : Stage.among volumes shared = undrifted shared := by
  rw [among, Store.get_eq_ok_iff.mpr ⟨agrees.readable, rfl⟩]
  cases found : volumes.object? (volumeKey shared.key) with
  | none => rfl
  | some volume =>
    obtain ⟨free, same⟩ := agrees.agrees volume found
    simp only [of, otherOwner?_eq_none_iff.mpr free]
    cases read : SharedVolumeSpec.ofVolume volume with
    | error fault => rfl
    | ok spec => simp only [same spec read, ↓reduceIte]

namespace World

variable {settings : Settings} {shared : SharedVolume} {world : World} {passes : Nat}

/-- A pass over a SharedVolume that nothing is said against does the work of its stage. -/
private theorem reconcile_of_undrifted {key : ObjectKey} {stage : Stage}
    {wanted : Except Failure Verdict → SharedVolume → World → Prop}
    (reached : Stage.undrifted shared = stage) (undrifted : Undrifted shared world.volumes)
    (working : world.Working) (held : world.sharedVolumes.object? key = some shared)
    (stays : shared.isDeleting = false)
    (work : (stage.work settings).Meets (fun _ _ => True) wanted shared world) :
    ∃ shared', wanted (world.reconcile settings key).1 shared' (world.reconcile settings key).2 := by
  refine reconcile_of_held ((PassM.meets_pass_of_stays stays).mpr ?_) (working.sharedVolumes .get) held
  rw [PassM.meets_advance_iff, Stage.among_of_undrifted undrifted, reached]
  exact ⟨trivial, work⟩

/-- What was made for a SharedVolume does not call for another spec. -/
theorem Keeps.undrifted (keeps : world.Keeps settings shared) (fresh : shared.Fresh)
    (readable : world.volumes.failing .get = false) : Undrifted shared world.volumes where
  readable := readable
  agrees volume found := by
    obtain ⟨version, made⟩ := keeps.volume
    rw [Upkeep.key_volumeUpkeep] at made
    obtain rfl := Option.some.inj (made.symm.trans found)
    have belongs := (Upkeep.belongsTo_volumeUpkeep fresh.named settings).withVersion version
    refine ⟨belongs.freeFor, fun spec read => ?_⟩
    exact Except.ok.inj ((Upkeep.ofVolume_wanted fresh.valid settings version).symm.trans read)

/-- Where a SharedVolume is ready, a pass over it finds it so and changes nothing. -/
private theorem reconcile_of_keeps (fresh : shared.Fresh) (working : world.Working)
    (held : world.sharedVolumes.Holds (shared.onboarded (passes + 3))) (keeps : world.Keeps settings shared) :
    world.reconcile settings shared.key = (.ok .settled, world) := by
  obtain ⟨version, held⟩ := held
  rw [SharedVolume.key_onboarded] at held
  have volumeRests : world.roster.volumes.Rests shared.key world.volumes (.ok ()) := by
    obtain ⟨unit, listed, seen⟩ := keeps.volumeUnit
    refine ⟨unit, listed, seen ▸ Upkeep.rests_of_held (Upkeep.key_volumeUpkeep shared settings) ?_ ?_
      (working.volumes .get) keeps.volume⟩
    · exact isManaged_markManaged_linkOwner ..
    · nofun
  have claimRests : world.roster.claims.Rests shared.key world.claims (.ok ()) := by
    obtain ⟨unit, listed, seen⟩ := keeps.claimUnit
    refine ⟨unit, listed, seen ▸ Upkeep.rests_of_held (Upkeep.key_claimUpkeep shared settings) ?_ ?_
      (working.claims .get) keeps.claim⟩
    · exact isManaged_markManaged_linkOwner ..
    · simp [claimUpkeep]
  have keepsVolume : (PassM.withVolumeUnit settings Upkeep.establish).Still
      (Resource.withVersion version (shared.onboarded (passes + 3))) world (.ok ()) :=
    PassM.still_establishVolume volumeRests
  have keepsClaim : (PassM.withClaimUnit settings Upkeep.establish).Still
      (Resource.withVersion version (shared.onboarded (passes + 3))) world (.ok ()) :=
    PassM.still_establishClaim claimRests
  have ready : PassM.SaysReady (claimKey shared.key).name
      (Resource.withVersion version (shared.onboarded (passes + 3))) := ⟨rfl, rfl, rfl⟩
  have valid : (Resource.withVersion version (shared.onboarded (passes + 3))).spec.faultText? = none :=
    fresh.valid
  have serves := PassM.still_serve_ready valid (keepsVolume.bind keepsClaim) ready.still
  have undrifted := keeps.undrifted fresh (working.volumes .get)
  exact reconcile_of_still (working.sharedVolumes .get) held fresh.stays
    (PassM.still_advance ⟨undrifted.readable, undrifted.agrees⟩
      (PassM.hasFinalizer_withFinalizer shared) rfl serves)

/-- A pass over a fresh SharedVolume succeeds and brings it one step further. -/
theorem Onboarding.step (fresh : shared.Fresh) (working : world.Working)
    (onboarding : Onboarding settings shared world passes) :
    (∃ verdict, (world.reconcile settings shared.key).1 = .ok verdict) ∧
      Onboarding settings shared (world.reconcile settings shared.key).2 (passes + 1) := by
  cases onboarding with
  | preparing few held volume claim unlisted =>
    obtain ⟨version, held⟩ := held
    rw [SharedVolume.key_onboarded] at held
    have own : (Resource.withVersion version (shared.onboarded passes)).key = shared.key :=
      (Resource.key_withVersion ..).trans (SharedVolume.key_onboarded ..)
    have stays : (Resource.withVersion version (shared.onboarded passes)).isDeleting = false :=
      (SharedVolume.isDeleting_onboarded ..).trans fresh.stays
    have undrifted : Undrifted (Resource.withVersion version (shared.onboarded passes)) world.volumes :=
      ⟨working.volumes .get, by rw [own, volume]; simp⟩
    have does {stage : Stage} {wanted : Except Failure Verdict → SharedVolume → World → Prop}
        (reached : Stage.undrifted (Resource.withVersion version (shared.onboarded passes)) = stage)
        (work : (stage.work settings).Meets (fun _ _ => True) wanted
          (Resource.withVersion version (shared.onboarded passes)) world) :
        ∃ shared', wanted (world.reconcile settings shared.key).1 shared'
          (world.reconcile settings shared.key).2 :=
      reconcile_of_undrifted reached undrifted working held stays work
    have stage := Stage.undrifted_onboarded fresh version passes
    rcases passes with _ | _ | _ | passes
    · obtain ⟨_, ended, after, same, puts⟩ := does stage (PassM.meets_work_register working held stays)
      rw [same]
      exact ⟨⟨_, ended⟩, .preparing (by decide) ⟨_, puts.object?_self⟩ volume claim unlisted⟩
    · obtain ⟨_, ended, after, same, puts⟩ :=
        does stage (PassM.meets_work_notice working held fresh.unreported)
      rw [same]
      exact ⟨⟨_, ended⟩, .preparing (by decide) ⟨_, puts.object?_self⟩ volume claim unlisted⟩
    · obtain ⟨_, ended, keeps, puts⟩ :=
        does stage (PassM.meets_work_serve working held rfl unlisted volume claim)
      obtain ⟨heldVolume, heldClaim, volumeUnit, claimUnit⟩ := keeps
      exact ⟨⟨_, ended⟩, .ready ⟨_, puts.object?_self⟩ ⟨heldVolume, heldClaim, volumeUnit, claimUnit⟩⟩
    · omega
  | ready held keeps =>
    rw [reconcile_of_keeps fresh working held keeps]
    exact ⟨⟨_, rfl⟩, .ready held keeps⟩

end World

end SharedMount
