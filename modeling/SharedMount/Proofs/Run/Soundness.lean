import SharedMount.Proofs.Reconcile.Recording
import SharedMount.Proofs.Run.Reachable
import SharedMount.Proofs.Upkeep.Amid

/-! # What the units on the roster have seen

Every unit on the roster was built for the owner that it is listed under, and what it has seen of its object is known
by its version and faithful to the definition (`World.Sound`). Work of a unit keeps that for the unit itself, and for
all others since the store only ages meanwhile; nothing else in a pass touches what units have seen. It also outlives
the operator: one that is started anew has no units at all.
-/

namespace SharedMount

/-! ## Tasks that keep something -/

namespace PassM

variable {α β : Type} {holds : World → Prop} {task : PassM α}

/-- Whatever SharedVolume is at hand, what holds of a world before a task holds after it. -/
def Keeps (holds : World → Prop) (task : PassM α) : Prop :=
  ∀ shared world, holds world → task.Meets (fun _ _ => True) (fun _ _ => holds) shared world

theorem keeps_get : (get : PassM SharedVolume).Keeps holds := fun _ _ initial => initial

theorem keeps_pure (value : α) : (pure value : PassM α).Keeps holds := fun _ _ initial => initial

theorem keeps_ofResult (result : Except Failure α) : (ofResult result).Keeps holds :=
  fun _ _ initial => initial

theorem keeps_fetchVolume (key : ObjectKey) : (fetchVolume key).Keeps holds :=
  fun _ _ initial => (meets_fetchVolume key).mpr ⟨trivial, initial⟩

theorem Keeps.bind {next : α → PassM β} (keeps : task.Keeps holds) (rest : ∀ value, (next value).Keeps holds) :
    (task >>= next).Keeps holds := by
  intro shared world initial
  rw [meets_bind]
  refine (keeps shared world initial).imp ?_
  rintro (failure | value) shared' world' kept
  · exact kept
  · exact rest value shared' world' kept

theorem Keeps.attempt (keeps : task.Keeps holds) : task.attempt.Keeps holds :=
  fun shared world initial => (meets_attempt task).mpr (keeps shared world initial)

theorem Keeps.mapFailure (change : Failure → Failure) (keeps : task.Keeps holds) :
    (mapFailure change task).Keeps holds :=
  fun shared world initial => (meets_mapFailure change task).mpr (keeps shared world initial)

/-- What calls of one kind keep is kept by a task that makes no others. -/
theorem Makes.keeps {kind : OperatorCall → Prop} (makes : task.Makes kind)
    (kept : ∀ world call, holds world → kind call → holds ((World.perform call).run world).2) :
    task.Keeps holds := fun shared _ initial =>
  Program.Meets.imp (Program.Makes.meets (makes shared) (fun _ _ _ => trivial) kept initial) fun _ _ ends => ends.2

end PassM

/-- What is kept by all that a pass consists of: by calls to the store of SharedVolumes, by dropping units, and by the
work of units. -/
structure World.KeptInParts (settings : Settings) (holds : World → Prop) : Prop where
  sharedVolumes {world : World} (holding : holds world) (call : StoreCall SharedVolume) :
    holds { world with sharedVolumes := (world.sharedVolumes.perform call).2 }
  dismiss {world : World} (holding : holds world) (owner : ObjectKey) :
    holds { world with roster := world.roster.dismiss owner }
  establishVolume : (PassM.withVolumeUnit settings Upkeep.establish).Keeps holds
  withdrawVolume : (PassM.withVolumeUnit settings Upkeep.withdraw).Keeps holds
  establishClaim : (PassM.withClaimUnit settings Upkeep.establish).Keeps holds
  withdrawClaim : (PassM.withClaimUnit settings Upkeep.withdraw).Keeps holds

namespace World.KeptInParts

open PassM

variable {settings : Settings} {holds : World → Prop}

theorem amends (kept : KeptInParts settings holds) (world : World) (call : OperatorCall) (holding : holds world)
    (amends : call.Amends) : holds ((World.perform call).run world).2 := by
  cases call with
  | sharedVolumes call => exact kept.sharedVolumes holding call
  | volumes | claims | roster => rcases amends with target | target <;> cases target

private theorem keeps_work (kept : KeptInParts settings holds) (stage : Stage) :
    (stage.work settings).Keeps holds := by
  by_cases served : stage = .serve
  · subst served
    have provisioning : (provision settings).Keeps holds :=
      kept.establishVolume.bind fun _ => kept.establishClaim
    exact keeps_get.bind fun shared => provisioning.attempt.bind fun result =>
      (Stage.makes_conclude _ result).keeps kept.amends
  · exact (Stage.makes_work served).keeps kept.amends

private theorem keeps_advance (kept : KeptInParts settings holds) : (advance settings).Keeps holds := by
  rw [advance_eq]
  exact keeps_get.bind fun shared => (keeps_fetchVolume _).attempt.bind fun found => kept.keeps_work _

private theorem keeps_removeDependents (kept : KeptInParts settings holds) :
    (removeDependents settings).Keeps holds := by
  refine kept.withdrawClaim.bind fun _ => keeps_get.bind fun shared => (keeps_fetchVolume _).bind fun volume => ?_
  split
  · exact keeps_pure ()
  · exact kept.withdrawVolume

private theorem keeps_retire (kept : KeptInParts settings holds) : (retire settings).Keeps holds := by
  have released (shared : SharedVolume) : (replace (withoutFinalizer shared)).Keeps holds :=
    (makes_replace (.inl rfl)).keeps kept.amends
  have dismisses (owner : ObjectKey) : (PassM.dismiss owner).Keeps holds :=
    fun _ _ holding => (meets_dismiss owner).mpr ⟨trivial, kept.dismiss holding owner⟩
  have cleaned : (cleanUp settings).Keeps holds := by
    refine keeps_get.bind fun shared => ?_
    split
    · exact kept.keeps_removeDependents.attempt.bind fun removed => (dismisses _).bind fun _ =>
        (keeps_ofResult removed).bind fun _ => (released shared).mapFailure _
    · exact keeps_pure ()
  exact (makes_report_amends.bestEffort.keeps kept.amends).bind fun _ => cleaned.bind fun _ => keeps_pure _

/-- What is kept by all that a pass consists of is kept by a pass. -/
theorem reconcile (kept : KeptInParts settings holds) {world : World} (initial : holds world) (key : ObjectKey) :
    holds (world.reconcile settings key).2 := by
  have keeps : (SharedMount.reconcile settings key).Meets (fun _ _ => True) (fun _ => holds) world := by
    rw [SharedMount.reconcile, OperatorProgram.meets_bind, OperatorProgram.meets_onSharedVolumes,
      StoreProgram.meets_get]
    refine ⟨trivial, ?_⟩
    rcases world.sharedVolumes.get key with failure | _ | shared
    · exact initial
    · exact (OperatorProgram.meets_bind (.onRoster (.dismiss key)) _).mpr ⟨trivial, kept.dismiss initial key⟩
    · have pass : (pass settings).Keeps holds := keeps_get.bind fun shared => by
        split
        · exact kept.keeps_retire
        · exact kept.keeps_advance
      exact (Program.meets_bind ((PassM.pass settings).perform shared) _).mpr (pass shared world initial)
  exact keeps.run

end World.KeptInParts

/-! ## Units on a shelf -/

namespace Post

variable {K : Type} [Resource K] [StatusKind K]

/-- Work of a unit that nobody interferes with leaves a unit that is sound at its post, if it was before. -/
def KeepsSound (work : Upkeep K → StoreProgram K (Upkeep K)) : Prop :=
  ∀ ⦃fresh : Upkeep K⦄ ⦃post : Post K⦄, fresh.Fresh → Sound fresh post →
    Sound fresh (post.conclude ((work post.unit).outcome post.store)).2

theorem keepsSound_establish [DocumentKind K] : KeepsSound (Upkeep.establish (K := K)) := by
  intro fresh post new sound
  have alone : post.unit.establish.interrupted post.store post.store = post.unit.establish.outcome post.store :=
    StoreProgram.interrupted_self ..
  rw [← alone]
  exact sound.establish new sound.regular (.refl _)

theorem keepsSound_withdraw : KeepsSound (Upkeep.withdraw (K := K)) := by
  intro fresh post _ sound
  have alone : post.unit.withdraw.interrupted post.store post.store = post.unit.withdraw.outcome post.store :=
    StoreProgram.interrupted_self ..
  rw [← alone]
  exact sound.withdraw sound.regular (.refl _)

end Post

namespace Shelf

variable {K : Type} [Resource K] {shelf : Shelf K} {build : SharedVolume → Upkeep K} {store : Store K}

/-- Every unit was built for the owner that it is listed under, and what it has seen is known by its version and
faithful to the definition. -/
structure Sound (shelf : Shelf K) (build : SharedVolume → Upkeep K) (store : Store K) : Prop where
  regular : store.Regular
  unit {owner : ObjectKey} {unit : Numbered K} (listed : shelf.unit? owner = some unit) :
    ∃ shared : SharedVolume, shared.key = owner ∧ Post.Sound (build shared) ⟨unit.upkeep, store⟩

namespace Sound

theorem initial (build : SharedVolume → Upkeep K) (regular : store.Regular) : ({} : Shelf K).Sound build store where
  regular := regular
  unit listed := by
    rw [unit?_empty] at listed
    cases listed

theorem ages (sound : shelf.Sound build store) {after : Store K} (regular : after.Regular)
    (ages : store.Ages after) : shelf.Sound build after where
  regular := regular
  unit listed := by
    obtain ⟨shared, own, sound⟩ := sound.unit listed
    exact ⟨shared, own, sound.ages regular ages⟩

theorem touched [StatusKind K] (sound : shelf.Sound build store) {after : Store K} (touched : store.Touched after) :
    shelf.Sound build after :=
  sound.ages (sound.regular.touched touched) (.of_touched touched)

theorem take (sound : shelf.Sound build store) {shared : SharedVolume} (new : (build shared).Fresh) :
    (shelf.take shared.key (build shared)).2.Sound build store where
  regular := sound.regular
  unit listed := by
    rcases unit?_take_eq_some listed with former | ⟨rfl, fresh⟩
    · exact sound.unit former
    · rw [fresh]
      exact ⟨shared, rfl, .of_fresh new sound.regular⟩

/-- The unit that is taken is sound, for whichever SharedVolume of the owner it was built. -/
theorem taken (sound : shelf.Sound build store) {shared : SharedVolume} (new : (build shared).Fresh) :
    ∃ builder : SharedVolume, builder.key = shared.key ∧
      Post.Sound (build builder) ⟨(shelf.take shared.key (build shared)).1.upkeep, store⟩ :=
  (sound.take new).unit (unit?_take_self ..)

theorem dismiss (sound : shelf.Sound build store) (owner : ObjectKey) : (shelf.dismiss owner).Sound build store where
  regular := sound.regular
  unit listed := sound.unit (unit?_dismiss_eq_some listed).2

/-- What a listed unit saw by its work may be recorded. -/
theorem record (sound : shelf.Sound build store) {owner : ObjectKey} {unit : Numbered K}
    (listed : shelf.unit? owner = some unit) {worked : Upkeep K} {after : Store K} (regular : after.Regular)
    (ages : store.Ages after)
    (comes : ∀ shared : SharedVolume, Post.Sound (build shared) ⟨unit.upkeep, store⟩ →
      Post.Sound (build shared) ⟨worked, after⟩) : (shelf.record owner worked.latest).Sound build after where
  regular := regular
  unit present := by
    rcases unit?_record_eq_some present with former | ⟨former, rfl, found, same⟩
    · exact (sound.ages regular ages).unit former
    · obtain rfl : former = unit := Option.some.inj (found.symm.trans listed)
      obtain ⟨shared, own, sound⟩ := sound.unit listed
      have worked := comes shared sound
      refine ⟨shared, own, ?_⟩
      rw [same, sound.charged.record_eq worked.charged]
      exact worked

variable [StatusKind K] {work : Upkeep K → StoreProgram K (Upkeep K)}

/-- The unit of an owner is taken and works, and what it saw is recorded. -/
theorem meets_work (sound : shelf.Sound build store) (new : ∀ shared, (build shared).Fresh)
    (keeps : Post.KeepsSound work) (shared : SharedVolume) :
    (work (shelf.take shared.key (build shared)).1.upkeep).Meets (fun _ _ => True) (fun result after =>
      match result with
      | .ok worked =>
        ((shelf.take shared.key (build shared)).2.record shared.key worked.latest).Sound build after
      | .error _ => (shelf.take shared.key (build shared)).2.Sound build after) store := by
  have sound := sound.take (new shared)
  have listed := shelf.unit?_take_self shared.key (build shared)
  generalize shelf.take shared.key (build shared) = taken at sound listed ⊢
  obtain ⟨unit, taken⟩ := taken
  have regular : ((work unit.upkeep).outcome store).2.Regular :=
    StoreProgram.outcome_keeps (fun _ call regular => regular.touched (.call call)) _ sound.regular
  have ages : store.Ages ((work unit.upkeep).outcome store).2 :=
    StoreProgram.outcome_keeps (fun store call ages => ages.trans (.perform store call)) _ (.refl store)
  have comes (builder : SharedVolume) := @keeps _ ⟨unit.upkeep, store⟩ (new builder)
  rw [StoreProgram.meets_iff_outcome]
  revert regular ages comes
  simp only
  obtain ⟨failure | worked, after⟩ := (work unit.upkeep).outcome store <;> intro regular ages comes
  · exact sound.ages regular ages
  · exact sound.record listed regular ages comes

end Sound

end Shelf

/-! ## The whole roster -/

theorem volumeUpkeep_fresh (shared : SharedVolume) (settings : Settings) : (volumeUpkeep shared settings).Fresh where
  unseen := rfl
  filed := rfl
  unversioned := rfl

theorem claimUpkeep_fresh (shared : SharedVolume) (settings : Settings) : (claimUpkeep shared settings).Fresh where
  unseen := rfl
  filed := rfl
  unversioned := rfl

namespace World

variable {settings : Settings} {world : World}

/-- What the units on the roster have seen of volumes and claims is true. -/
structure Sound (settings : Settings) (world : World) : Prop where
  volumes : world.roster.volumes.Sound (volumeUpkeep · settings) world.volumes
  claims : world.roster.claims.Sound (claimUpkeep · settings) world.claims

theorem Sound.keeps_withVolumeUnit
    {work : Upkeep PersistentVolume → StoreProgram PersistentVolume (Upkeep PersistentVolume)}
    (keeps : Post.KeepsSound work) : (PassM.withVolumeUnit settings work).Keeps (Sound settings) := by
  intro shared world sound
  rw [PassM.meets_withVolumeUnit]
  refine ⟨trivial, (sound.volumes.meets_work (volumeUpkeep_fresh · settings) keeps shared).imp ?_⟩
  rintro (failure | unit) volumes recorded
  · exact ⟨recorded, sound.claims⟩
  · exact ⟨trivial, recorded, sound.claims⟩

theorem Sound.keeps_withClaimUnit
    {work : Upkeep PersistentVolumeClaim → StoreProgram PersistentVolumeClaim (Upkeep PersistentVolumeClaim)}
    (keeps : Post.KeepsSound work) : (PassM.withClaimUnit settings work).Keeps (Sound settings) := by
  intro shared world sound
  rw [PassM.meets_withClaimUnit]
  refine ⟨trivial, (sound.claims.meets_work (claimUpkeep_fresh · settings) keeps shared).imp ?_⟩
  rintro (failure | unit) claims recorded
  · exact ⟨sound.volumes, recorded⟩
  · exact ⟨trivial, sound.volumes, recorded⟩

/-- A pass keeps it, since all of its parts do. -/
theorem Sound.keptInParts (settings : Settings) : KeptInParts settings (Sound settings) where
  sharedVolumes sound _ := ⟨sound.volumes, sound.claims⟩
  dismiss sound owner := ⟨sound.volumes.dismiss owner, sound.claims.dismiss owner⟩
  establishVolume := keeps_withVolumeUnit Post.keepsSound_establish
  withdrawVolume := keeps_withVolumeUnit Post.keepsSound_withdraw
  establishClaim := keeps_withClaimUnit Post.keepsSound_establish
  withdrawClaim := keeps_withClaimUnit Post.keepsSound_withdraw

/-- Whatever happens keeps it. -/
theorem Sound.event {after : World} (sound : world.Sound settings) (happens : Event settings world after) :
    after.Sound settings := by
  cases happens with
  | pass key => exact (keptInParts settings).reconcile sound key
  | sharedVolumes touched => exact ⟨sound.volumes, sound.claims⟩
  | volumes touched => exact ⟨sound.volumes.touched touched, sound.claims⟩
  | claims touched => exact ⟨sound.volumes, sound.claims.touched touched⟩

/-- The worlds that an operator with certain settings may find itself in: anything may have happened, and operators
before it, maybe with other settings, may have left what they left. -/
inductive Arises : Settings → World → Prop where
  | start (settings : Settings) : Arises settings {}
  | next {settings : Settings} {world after : World} (arises : Arises settings world)
      (happens : Event settings world after) : Arises settings after
  /-- The operator is started anew, with an empty roster. -/
  | restart {former : Settings} {world : World} (arises : Arises former world) (settings : Settings) :
      Arises settings { world with roster := {} }

theorem Reachable.arises (reached : Reachable (Event settings) world) : Arises settings world := by
  induction reached with
  | start => exact .start settings
  | next _ happens arises => exact arises.next happens

theorem Arises.sound (arises : Arises settings world) : world.Sound settings := by
  induction arises with
  | start settings => exact ⟨.initial _ Store.regular_empty, .initial _ Store.regular_empty⟩
  | next _ happens sound => exact sound.event happens
  | restart _ settings sound => exact ⟨.initial _ sound.volumes.regular, .initial _ sound.claims.regular⟩

theorem Arises.wellKept (arises : Arises settings world) : world.WellKept settings := by
  induction arises with
  | start settings => exact .initial settings
  | next _ happens kept => exact kept.event happens
  | restart _ settings kept =>
    exact { kept with volumeUnits := Shelf.charged_empty _, claimUnits := Shelf.charged_empty _ }

end World

end SharedMount
