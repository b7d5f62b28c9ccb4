import SharedMount.Proofs.Reconcile.Recording
import SharedMount.Proofs.Reconcile.Retiring
import SharedMount.Proofs.Reconcile.Reverting
import SharedMount.Proofs.Run.Reachable

/-! # Quiescence

A pass that does not ask for another one has written all that there is to write: whether it succeeded or
failed, and whatever operations are made to fail, passes after it end in the same way and change no store. The
worlds of passes over a SharedVolume that is to stay are even the same altogether; those of passes over one
that is being deleted differ in the roster, whose units are built and dropped each time.
-/

namespace SharedMount

namespace PassM

variable {settings : Settings} {shared : SharedVolume} {world : World}

/-! ## Passes over a SharedVolume that is to stay -/

private theorem still_revertDrift_collided {volume : PersistentVolume} {other : ObjectKey}
    (told : Told .failed (collisionText (volumeKey shared.key) other) shared world.sharedVolumes)
    (readable : world.volumes.failing .get = false)
    (found : world.volumes.object? (volumeKey shared.key) = some volume)
    (labelled : otherOwner? volume shared = some other) :
    revertDrift.Still shared world
      (.error (.reconcileFailed (collisionText (volumeKey shared.key) other))) := by
  rw [Still, meets_revertDrift_of_foreign readable found (otherOwner?_eq_some_iff.mp labelled)]
  exact told.still.imp fun _ _ _ still => ⟨rfl, still.2⟩

theorem still_advance {result : Except Failure Verdict} (undrifted : Undrifted shared world.volumes)
    (registered : shared.hasFinalizer = true) (noticed : shared.phase?.isSome)
    (serves : (serve settings).Still shared world result) :
    (advance settings).Still shared world result := by
  refine (still_revertDrift undrifted).bind ?_
  simp only [Bool.false_eq_true, ↓reduceIte]
  have unchanged : registerCleanup.Still shared world (.ok false) := by
    refine still_get.bind ?_
    simp only [registered, ↓reduceIte]
    exact ⟨rfl, rfl, rfl⟩
  refine unchanged.bind ?_
  simp only [Bool.false_eq_true, ↓reduceIte]
  refine still_get.bind ?_
  simp only [Option.isNone_iff_eq_none, Option.isSome_iff_ne_none.mp noticed, ↓reduceIte]
  exact serves

/-- A pass over a SharedVolume that is to stay asks for another one, or would end in the same way once more
and change nothing. -/
theorem advance_rests (settings : Settings) (held : world.sharedVolumes.object? shared.key = some shared)
    (stays : shared.isDeleting = false) (unlisted : world.roster.Lacks shared.key)
    (calmVolume : ¬world.volumes.Terminating (volumeKey shared.key))
    (calmClaim : ¬world.claims.Terminating (claimKey shared.key)) :
    (advance settings).Meets (fun _ _ => True) (fun result shared' world' => result ≠ .ok .again →
      world'.sharedVolumes.failing = world.sharedVolumes.failing ∧
        world'.sharedVolumes.object? shared.key = some shared' ∧ shared'.isDeleting = false ∧
        (advance settings).Still shared' world' result) shared world := by
  refine (meets_advance settings held stays).outcome.imp ?_
  rintro result shared' world' ⟨advanced, ends⟩ last
  cases advanced with
  | failed failure => exact ⟨rfl, held, stays, still_iff.mpr ends⟩
  | collided readable found labelled reported =>
    have told := reported.told
    have held' := reported.held held
    obtain ⟨version, status, rfl⟩ := reported.restated
    obtain ⟨sharedVolumes, failing, rfl⟩ := reported.store
    exact ⟨failing, held', stays,
      (still_revertDrift_collided told readable found labelled).bind_error⟩
  | reverted | registered | noticed => exact absurd rfl last
  | served undrifted registered noticed ends' =>
    have served := meets_iff_outcome.mp (meets_serve settings held noticed undrifted unlisted
      calmVolume calmClaim)
    rw [ends'] at served
    have still := still_advance served.undrifted ?_ served.noticed served.still
    · have held' := served.held
      obtain ⟨version, status, rfl⟩ := served.restated
      exact ⟨served.failing, held', stays, still⟩
    · obtain ⟨version, status, rfl⟩ := served.restated
      exact registered

end PassM

namespace World

/-- A pass whose work changes nothing changes nothing. -/
theorem reconcile_of_still {settings : Settings} {key : ObjectKey} {shared : SharedVolume} {world : World}
    {result : Except Failure Verdict} (readable : world.sharedVolumes.failing .get = false)
    (held : world.sharedVolumes.object? key = some shared) (stays : shared.isDeleting = false)
    (still : (PassM.advance settings).Still shared world result) :
    world.reconcile settings key = (result, world) := by
  obtain ⟨_, ended, -, same⟩ := reconcile_of_held ((PassM.meets_pass_of_stays stays).mpr still) readable held
  exact Prod.ext ended same

/-! ## Passes that end quietly -/

/-- Two worlds have the same stores: the same objects, versions, counts of writes and faults. -/
structure SameStores (world other : World) : Prop where
  sharedVolumes : other.sharedVolumes = world.sharedVolumes
  volumes : other.volumes = world.volumes
  claims : other.claims = world.claims

/-- A pass for a key ends with a result and changes no store: it changes nothing at all, or the owner has no
units before or after it, and it does not matter which units others have. -/
inductive Quiet (settings : Settings) (key : ObjectKey) (result : Except Failure Verdict) (world : World) :
    Prop where
  | still (same : world.reconcile settings key = (result, world))
  | unlisted (lacks : world.roster.Lacks key)
      (again : ∀ roster : Roster, roster.Lacks key → ∃ roster' : Roster, roster'.Lacks key ∧
        { world with roster }.reconcile settings key = (result, { world with roster := roster' }))

variable {settings : Settings} {key : ObjectKey} {world : World}

/-- After a quiet pass the next one is quiet, too. -/
theorem Quiet.next {result : Except Failure Verdict} (quiet : world.Quiet settings key result) :
    (world.reconcile settings key).1 = result ∧ SameStores world (world.reconcile settings key).2 ∧
      (world.reconcile settings key).2.Quiet settings key result := by
  cases quiet with
  | still same =>
    rw [same]
    exact ⟨rfl, ⟨rfl, rfl, rfl⟩, .still same⟩
  | unlisted lacks again =>
    obtain ⟨roster, lacks', same⟩ := again world.roster lacks
    change world.reconcile settings key = _ at same
    rw [same]
    exact ⟨rfl, ⟨rfl, rfl, rfl⟩, .unlisted lacks' again⟩

theorem Quiet.passes {result : Except Failure Verdict} (quiet : world.Quiet settings key result)
    (count : Nat) : ((world.passes settings key count).reconcile settings key).1 = result ∧
      SameStores world (world.passes settings key count) := by
  induction count generalizing world with
  | zero => exact ⟨quiet.next.1, rfl, rfl, rfl⟩
  | succ count ih =>
    obtain ⟨-, same, quiet'⟩ := quiet.next
    obtain ⟨ended, later⟩ := ih quiet'
    exact ⟨ended, later.sharedVolumes.trans same.sharedVolumes, later.volumes.trans same.volumes,
      later.claims.trans same.claims⟩

/-! ## Passes that do not ask for another one -/

private theorem quiet_of_missing (readable : world.sharedVolumes.failing .get = false)
    (missing : world.sharedVolumes.object? key = none) (lacks : world.roster.Lacks key) :
    world.Quiet settings key (.ok .settled) := by
  refine .unlisted lacks fun roster _ => ⟨_, roster.lacks_dismiss key, ?_⟩
  have readable' : { world with roster }.sharedVolumes.failing .get = false := readable
  exact (reconcile_of_gone settings readable' missing).1

/-- Where nothing holds the volume or the claim, and the owner has no units, a pass that does not ask for
another one leaves a world in which passes are quiet. -/
private theorem quiet_after_pass (filed : world.sharedVolumes.WellFiled) (unlisted : world.roster.Lacks key)
    (calmVolume : ¬world.volumes.Terminating (volumeKey key)) (bareVolume : world.volumes.Bare (volumeKey key))
    (calmClaim : ¬world.claims.Terminating (claimKey key)) (bareClaim : world.claims.Bare (claimKey key))
    (last : (world.reconcile settings key).1 ≠ .ok .again) :
    (world.reconcile settings key).2.Quiet settings key (world.reconcile settings key).1 := by
  cases readable : world.sharedVolumes.failing .get with
  | true =>
    have same := (reconcile_of_unreadable settings key readable).1
    rw [same]
    exact .still same
  | false =>
    cases found : world.sharedVolumes.object? key with
    | none =>
      rw [(reconcile_of_gone settings readable found).1]
      exact quiet_of_missing readable found (world.roster.lacks_dismiss key)
    | some shared =>
      obtain rfl : shared.key = key := filed _ _ found
      cases leaves : shared.isDeleting with
      | false =>
        obtain ⟨shared', rests⟩ := reconcile_of_held ((PassM.meets_pass_of_stays leaves).mpr
          (PassM.advance_rests settings found leaves unlisted calmVolume calmClaim)) readable found
        obtain ⟨failing, held, stays, still⟩ := rests last
        exact .still (reconcile_of_still (failing ▸ readable) held stays still)
      | true =>
        obtain ⟨shared', lacks, failing, rests⟩ := reconcile_of_held
          ((PassM.meets_pass_of_leaves leaves).mpr
            (PassM.meets_retire settings found leaves unlisted bareClaim bareVolume)) readable found
        have readable' := failing.symm ▸ readable
        rcases rests with ⟨ended, missing⟩ | ⟨own, leaves', held, still⟩
        · rw [ended]
          exact quiet_of_missing readable' missing lacks
        · refine .unlisted lacks fun roster lacks' => ?_
          obtain ⟨_, ended, -, roster', left, same⟩ := reconcile_of_held
            ((PassM.meets_pass_of_leaves leaves').mpr (still roster (own ▸ lacks'))) readable' held
          exact ⟨roster', own ▸ left, Prod.ext ended same⟩

/-- A pass that does not ask for another one, with a result of any kind and any operations made to fail, is
followed by passes that end in the same way and change no store. The owner has no units at first, and nothing
holds its volume or its claim. -/
theorem quiescent_after_last_pass {settings : Settings} {world : World} {key : ObjectKey}
    (filed : world.sharedVolumes.WellFiled) (unlisted : world.roster.Lacks key)
    (calmVolume : ¬world.volumes.Terminating (volumeKey key)) (bareVolume : world.volumes.Bare (volumeKey key))
    (calmClaim : ¬world.claims.Terminating (claimKey key)) (bareClaim : world.claims.Bare (claimKey key))
    (last : (world.reconcile settings key).1 ≠ .ok .again) (count : Nat) :
    let after := (world.reconcile settings key).2
    ((after.passes settings key count).reconcile settings key).1 = (world.reconcile settings key).1 ∧
      SameStores after (after.passes settings key count) :=
  (quiet_after_pass filed unlisted calmVolume bareVolume calmClaim bareClaim last).passes count

/-- The registered sample at a time when claims cannot be created. -/
def claimlessWorld : World :=
  (sampleWorld 2).withFaults { claims := (· == .create) }

/-- The pass over the sample makes the volume, fails to make the claim and reports that; the passes after it
fail alike without a write. -/
theorem quiescent_after_last_pass_sample :
    let failure : Except Failure Verdict := .error (.internal "injected Create failure")
    let after := (claimlessWorld.reconcile {} sample.key).2
    after.volumes.writes.creates = 1 ∧ after.sharedVolumes.writes.statusUpdates = 2 ∧
      (claimlessWorld.reconcile {} sample.key).1 = failure ∧
      ((after.passes {} sample.key 5).reconcile {} sample.key).1 = failure ∧
      SameStores after (after.passes {} sample.key 5) := by
  have facts : (claimlessWorld.volumes.object? (volumeKey sample.key)).isNone ∧
      (claimlessWorld.claims.object? (claimKey sample.key)).isNone ∧
      (claimlessWorld.roster.volumes.unit? sample.key).isNone ∧
      (claimlessWorld.roster.claims.unit? sample.key).isNone ∧
      (claimlessWorld.reconcile {} sample.key).2.volumes.writes.creates = 1 ∧
      (claimlessWorld.reconcile {} sample.key).2.sharedVolumes.writes.statusUpdates = 2 := by
    decide +kernel
  have failed : (claimlessWorld.reconcile {} sample.key).1 =
      .error (.internal "injected Create failure") := by
    decide +kernel
  have last : (claimlessWorld.reconcile {} sample.key).1 ≠ .ok .again := by
    rw [failed]
    simp
  obtain ⟨no_volume, no_claim, no_volumeUnit, no_claimUnit, created, reported⟩ := facts
  have noVolume := Option.isNone_iff_eq_none.mp no_volume
  have noClaim := Option.isNone_iff_eq_none.mp no_claim
  have filed : claimlessWorld.sharedVolumes.WellFiled :=
    ((sampleWorld_reachable 2).next (.faults { claims := (· == .create) })).of_userEvents.wellKept.sharedVolumes
  obtain ⟨again, same⟩ := quiescent_after_last_pass filed
    ⟨Option.isNone_iff_eq_none.mp no_volumeUnit, Option.isNone_iff_eq_none.mp no_claimUnit⟩
    (fun ⟨_, found, _⟩ => absurd (noVolume.symm.trans found) (by simp))
    (fun _ found => absurd (noVolume.symm.trans found) (by simp))
    (fun ⟨_, found, _⟩ => absurd (noClaim.symm.trans found) (by simp))
    (fun _ found => absurd (noClaim.symm.trans found) (by simp))
    last 5
  exact ⟨created, reported, failed, again.trans failed, same⟩

end World

end SharedMount
