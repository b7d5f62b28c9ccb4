import SharedMount.Proofs.Program.Aside
import SharedMount.Proofs.Reconcile.Advancing
import SharedMount.Proofs.Reconcile.Recording
import SharedMount.Proofs.Run.Reachable
import SharedMount.Proofs.Upkeep.Existence

/-! # Whether what is reported ready exists

A pass that settles over a SharedVolume that is to stay has reported that all is ready. Volume and claim are then
stored, but for what the unit of one of them forfeits: it wrote an object without finalizers over one that was being
deleted, so that the pass itself has removed what it reports ready.
-/

namespace SharedMount

namespace PassM

variable {settings : Settings} {shared shared' : SharedVolume} {world world' : World}
  {volumes : Store PersistentVolume → Prop} {claims : Store PersistentVolumeClaim → Prop}

/-- What each unit leaves when it succeeds is left when provisioning succeeds. -/
private theorem provision_leaves
    (volume : (world.roster.volume shared settings).1.upkeep.establish.Meets (fun _ _ => True)
      (fun result after => result.toOption.isSome → volumes after) world.volumes)
    (claim : (world.roster.claim shared settings).1.upkeep.establish.Meets (fun _ _ => True)
      (fun result after => result.toOption.isSome → claims after) world.claims) :
    (provision settings).Meets (fun _ _ => True) (fun result _ world' =>
      result.toOption.isSome → volumes world'.volumes ∧ claims world'.claims) shared world := by
  rw [provision, meets_bind, meets_withVolumeUnit]
  refine ⟨trivial, volume.imp ?_⟩
  rintro (failure | unit) left leaves
  · exact fun succeeds => absurd succeeds (by simp [Except.toOption])
  · simp only
    rw [meets_withClaimUnit]
    refine ⟨trivial, trivial, claim.imp ?_⟩
    rintro (failure | unit) left' leaves'
    · exact fun succeeds => absurd succeeds (by simp [Except.toOption])
    · exact ⟨trivial, fun _ => ⟨leaves rfl, leaves' rfl⟩⟩

/-- When serving has settled, the SharedVolume is reported ready, and each unit has left what it leaves when it
succeeds. -/
theorem serve_leaves (held : world.sharedVolumes.object? shared.key = some shared)
    (volume : (world.roster.volume shared settings).1.upkeep.establish.Meets (fun _ _ => True)
      (fun result after => result.toOption.isSome → volumes after) world.volumes)
    (claim : (world.roster.claim shared settings).1.upkeep.establish.Meets (fun _ _ => True)
      (fun result after => result.toOption.isSome → claims after) world.claims)
    (ends : (serve settings).outcome shared world = (.ok .settled, shared', world')) :
    world'.sharedVolumes.object? shared.key = some shared' ∧ shared'.phase? = some .ready ∧
      volumes world'.volumes ∧ claims world'.claims := by
  obtain ⟨-, shared₁, world₁, provided, reported⟩ := serve_settled ends
  obtain ⟨kept, same⟩ := (aside_provision settings).kept shared world
  have left := meets_iff_outcome.mp (provision_leaves volume claim)
  rw [provided] at kept same left
  simp only at kept same
  subst kept
  have held₁ : world₁.sharedVolumes.object? shared₁.key = some shared₁ := same ▸ held
  have report : (reportReady (claimKey shared₁.key).name).Meets (fun _ _ => True) _ shared₁ world₁ :=
    reportReady_again held₁
  have ready := meets_iff_outcome.mp report
  rw [reported] at ready
  obtain ⟨reported, -, ready⟩ := ready
  have stored := reported.held held₁
  obtain ⟨sharedVolumes, -, rfl⟩ := reported.store
  exact ⟨stored, (SharedVolume.phase?_eq _).trans (ready rfl).phase, left rfl⟩

end PassM

namespace World

variable {settings : Settings} {world after : World} {key : ObjectKey} {shared : SharedVolume}

theorem WellKept.key_volumeUpkeep (kept : world.WellKept settings) (own : shared.key = key) :
    (world.roster.volume shared settings).1.upkeep.key = volumeKey key := by
  subst own
  cases listed : world.roster.volumes.unit? shared.key with
  | none => simp only [Roster.volume, Shelf.take, listed, volumeUpkeep]
  | some unit =>
    simp only [Roster.volume, Shelf.take, listed]
    exact kept.key_volumeUnit listed

theorem WellKept.key_claimUpkeep (kept : world.WellKept settings) (own : shared.key = key) :
    (world.roster.claim shared settings).1.upkeep.key = claimKey key := by
  subst own
  cases listed : world.roster.claims.unit? shared.key with
  | none => simp only [Roster.claim, Shelf.take, listed, claimUpkeep]
  | some unit =>
    simp only [Roster.claim, Shelf.take, listed]
    exact kept.key_claimUnit listed

/-- A pass that settles over a SharedVolume that is to stay has served it. -/
theorem WellKept.served_of_settled (kept : world.WellKept settings)
    (held : world.sharedVolumes.object? key = some shared) (stays : shared.isDeleting = false)
    (ended : world.reconcile settings key = (.ok .settled, after)) :
    shared.key = key ∧ ∃ later, (PassM.serve settings).outcome shared world = (.ok .settled, later, after) := by
  obtain rfl : shared.key = key := kept.sharedVolumes _ _ held
  obtain ⟨later, advanced⟩ := reconcile_of_held ((PassM.meets_pass_of_stays stays).mpr
    (PassM.meets_advance settings held stays)) (readable_of_succeeded (congrArg Prod.fst ended)) held
  rw [ended] at advanced
  cases advanced with
  | served undrifted registered noticed ends => exact ⟨rfl, later, ends⟩

/-- A unit that succeeds when nothing interferes leaves an object under its key exactly if it does not forfeit it. So
a pass that settles over a SharedVolume that is to stay, and thereby reports it ready, leaves its volume and its claim
exactly if the unit for the one and the unit for the other do not forfeit them. -/
theorem established_is_stored_iff {K : Type} [Resource K] [StatusKind K] (unit : Upkeep K) (store : Store K) :
    (∀ unit' after, unit.establish.outcome store = (.ok unit', after) →
      ((after.object? unit.key).isSome ↔ ¬unit.Forfeits store)) ∧
    ∀ (settings : Settings) (world after : World) (key : ObjectKey) (shared : SharedVolume),
      Reachable (Event settings) world → world.sharedVolumes.object? key = some shared →
      shared.isDeleting = false → world.reconcile settings key = (.ok .settled, after) →
        (∃ later, after.sharedVolumes.object? key = some later ∧ later.phase? = some .ready) ∧
        ((after.volumes.object? (volumeKey key)).isSome ↔
          ¬(world.roster.volume shared settings).1.upkeep.Forfeits world.volumes) ∧
        ((after.claims.object? (claimKey key)).isSome ↔
          ¬(world.roster.claim shared settings).1.upkeep.Forfeits world.claims) := by
  refine ⟨fun unit' after ended => ?_, ?_⟩
  · have leaves := StoreProgram.meets_iff_outcome.mp (unit.meets_establish_isSome store)
    rw [ended] at leaves
    exact leaves rfl
  · intro settings world after key shared reached held stays ended
    have kept := reached.wellKept
    obtain ⟨rfl, later, served⟩ := kept.served_of_settled held stays ended
    obtain ⟨stored, ready, volume, claim⟩ := PassM.serve_leaves held
      (Upkeep.meets_establish_isSome _ world.volumes) (Upkeep.meets_establish_isSome _ world.claims) served
    rw [kept.key_volumeUpkeep rfl] at volume
    rw [kept.key_claimUpkeep rfl] at claim
    exact ⟨⟨later, stored, ready⟩, volume, claim⟩

/-- The third pass over the sample reports it ready, and leaves its volume and its claim. -/
theorem established_is_stored_iff_sample :
    ((sampleWorld 3).volumes.object? (volumeKey sample.key)).isSome ∧
      ((sampleWorld 3).claims.object? (claimKey sample.key)).isSome ∧
      ∃ unit after, (claimUpkeep sample {}).establish.outcome {} = (.ok unit, after) ∧
        (after.object? (claimKey sample.key)).isSome := by
  have found : ((sampleWorld 2).sharedVolumes.object? sample.key).any (fun shared => !shared.isDeleting &&
      decide (¬((sampleWorld 2).roster.volume shared {}).1.upkeep.Forfeits (sampleWorld 2).volumes ∧
        ¬((sampleWorld 2).roster.claim shared {}).1.upkeep.Forfeits (sampleWorld 2).claims)) = true := by
    decide +kernel
  have settles : ((sampleWorld 2).reconcile {} sample.key).1 = .ok .settled := by
    decide +kernel
  have succeeds : ((claimUpkeep sample {}).establish.outcome {}).1.toOption.isSome := by
    decide +kernel
  obtain ⟨shared, held, keeps⟩ := (Option.any_eq_true ..).mp found
  rw [Bool.and_eq_true, Bool.not_eq_true', decide_eq_true_eq] at keeps
  obtain ⟨stays, volume, claim⟩ := keeps
  obtain ⟨leaves, passes⟩ := established_is_stored_iff (claimUpkeep sample {}) {}
  obtain ⟨-, volume', claim'⟩ := passes {} (sampleWorld 2) (sampleWorld 3) sample.key shared
    (sampleWorld_reachable 2).of_userEvents held stays (by rw [reconcile_sampleWorld, settles])
  obtain ⟨unit, ended⟩ := StoreProgram.outcome_eq_of_isSome succeeds
  exact ⟨volume'.mpr volume, claim'.mpr claim, unit, _, ended,
    (leaves unit _ ended).mpr (by decide +kernel)⟩

/-- A claim with the name of the sample's, which is kept while it is in use. -/
def usedClaim : PersistentVolumeClaim where
  metadata := { name := some "pvc-a-b", ns := some "x", finalizers := some ["kubernetes.io/pvc-protection"] }

/-- A world in which such a claim was made and then deleted, and is still in use. -/
def claimed (world : World) : World :=
  { world with claims := ((world.claims.insert usedClaim).2.perform (.delete (claimKey sample.key))).2 }

theorem Reachable.claimed (reached : Reachable (Event settings) world) :
    Reachable (Event settings) world.claimed :=
  (reached.next (.claims (.insert usedClaim))).next (.claims (.call (.delete (claimKey sample.key))))

/-- The sample world before its third pass, with such a claim in it. -/
def claimedWorld : World := (sampleWorld 2).claimed

theorem claimedWorld_reachable : Reachable (Event {}) claimedWorld :=
  (sampleWorld_reachable 2).of_userEvents.claimed

/-- The next pass takes the finalizer off the claim, and so removes it, and reports the sample ready. -/
theorem reports_ready_and_removes_claim :
    isManaged (claimUpkeep sample {}).definition = true ∧
      Resource.key (claimUpkeep sample {}).definition = claimKey sample.key ∧
      (∃ unit after, (claimUpkeep sample {}).establish.outcome claimedWorld.claims = (.ok unit, after) ∧
        after.object? (claimKey sample.key) = none) ∧
      Reachable (Event {}) claimedWorld ∧ (claimedWorld.claims.object? (claimKey sample.key)).isSome ∧
      (claimedWorld.reconcile {} sample.key).1 = .ok .settled ∧
      (∃ later, (claimedWorld.reconcile {} sample.key).2.sharedVolumes.object? sample.key = some later ∧
        later.phase? = some .ready) ∧
      (claimedWorld.reconcile {} sample.key).2.claims.object? (claimKey sample.key) = none := by
  have succeeds : ((claimUpkeep sample {}).establish.outcome claimedWorld.claims).1.toOption.isSome ∧
      ((claimUpkeep sample {}).establish.outcome claimedWorld.claims).2.object? (claimKey sample.key) = none := by
    decide +kernel
  have settles : (claimedWorld.reconcile {} sample.key).1 = .ok .settled ∧
      (claimedWorld.reconcile {} sample.key).2.claims.object? (claimKey sample.key) = none := by
    decide +kernel
  have ready : ((claimedWorld.reconcile {} sample.key).2.sharedVolumes.object? sample.key).bind (·.phase?) =
      some .ready := by
    decide +kernel
  obtain ⟨some_unit, gone⟩ := succeeds
  obtain ⟨unit, ended⟩ := StoreProgram.outcome_eq_of_isSome some_unit
  exact ⟨by decide +kernel, by decide +kernel, ⟨unit, _, ended, gone⟩, claimedWorld_reachable,
    by decide +kernel, settles.1, Option.bind_eq_some_iff.mp ready, settles.2⟩

end World

end SharedMount
