import SharedMount.Proofs.Run.Existence
import SharedMount.Proofs.Run.Soundness
import SharedMount.Rehearsal.Timeline

/-! # Whether events about volumes and claims find their owner

The operator watches objects that carry its marker, and passes over the owner that their labels name. Establishing
puts all of these labels on an object that it writes; but whether it writes is decided by the marker and the contents
alone. So an object that kept both is left as it is, whatever became of the labels that name its owner (`Astray`), and
this is the only way in which a pass can settle over an object that does not lead back to its owner.
-/

namespace SharedMount

/-! ## Watched objects -/

section Labels

variable {K : Type} [Resource K] {object : K} {key : ObjectKey}

/-- Whether a selector takes an object; it asks for one label, with its name, an equals sign and its value. -/
def selects (selector : String) (object : K) : Bool :=
  match Text.divide? '=' selector.toList with
  | some (name, value) => (Resource.metadata object).label? (String.ofList name) = some (String.ofList value)
  | none => false

theorem selects_managedSelector (object : K) : selects managedSelector object = isManaged object := by
  have divided : Text.divide? '=' managedSelector.toList = some (managedLabel.toList, managedValue.toList) := by
    decide +kernel
  simp only [selects, divided, String.ofList_toList]
  rfl

/-- An event about an object that reaches the operator makes a SharedVolume due, and does nothing else. -/
def Wakes (key : ObjectKey) (object : K) : Prop :=
  ∀ (second : Nat) (timeline : Timeline),
    timeline.noteDependent second true object = timeline.schedule second key

theorem wakes_iff : Wakes key object ↔ selects managedSelector object = true ∧ route? object = some key := by
  rw [selects_managedSelector]
  constructor
  · intro wakes
    have due : (Timeline.noteDependent 0 true object {}).due = [(0, key)] := by
      rw [wakes 0 {}]
      rfl
    cases managed : isManaged object with
    | false =>
      simp [Timeline.noteDependent, managed] at due
    | true =>
      cases routed : route? object with
      | none => simp [Timeline.noteDependent, managed, routed] at due
      | some owner =>
        obtain rfl : owner = key := by simpa [Timeline.noteDependent, managed, routed, Timeline.schedule] using due
        exact ⟨rfl, rfl⟩
  · rintro ⟨managed, routed⟩ second timeline
    simp [Timeline.noteDependent, managed, routed]

end Labels

/-- An object is stored that carries the marker and the contents it is to have, but does not lead back to its
owner. -/
def Store.Astray {K : Type} [Resource K] (store : Store K) (place owner : ObjectKey) (contents : K → Prop) : Prop :=
  ∃ object, store.object? place = some object ∧ isManaged object = true ∧ contents object ∧
    route? object ≠ some owner

instance {K : Type} [Resource K] (store : Store K) (place owner : ObjectKey) (contents : K → Prop)
    [DecidablePred contents] : Decidable (store.Astray place owner contents) :=
  decidable_of_iff ((store.object? place).any fun object => isManaged object && decide (contents object) &&
      decide (route? object ≠ some owner))
    (by simp [Store.Astray, Option.any_eq_true, and_assoc])

/-! ## What units leave -/

namespace Upkeep

variable {K : Type} [Resource K] [StatusKind K] {unit unit' : Upkeep K} {store after : Store K}

/-- Where nothing is being deleted, success leaves what was there and may stay, or what the unit made. -/
theorem Established.stored (ends : Established unit store (.ok unit') after)
    (calm : ¬store.Terminating unit.key) :
    ∃ object, after.object? unit.key = some object ∧
      (store.object? unit.key = some object ∧ unit.accepts object = true ∨
        (∀ former, store.object? unit.key = some former → unit.accepts former = false) ∧
          unit.Made store object) := by
  cases ends with
  | @accepted stored found accepts => exact ⟨stored, found, .inl ⟨found, accepts⟩⟩
  | created missing puts => exact ⟨_, puts.object?_self, .inr ⟨by simp [missing], .created⟩⟩
  | @replaced stored _ found differs stays puts =>
    refine ⟨_, puts.object?_self, .inr ⟨fun former found' => ?_, .replaced stored⟩⟩
    obtain rfl : stored = former := Option.some.inj (found.symm.trans found')
    exact differs
  | finished found differs finishes drops => exact absurd ⟨_, found, finishes.1⟩ calm

end Upkeep

/-- A comparison that looks at contents only: not at metadata, nor at the status. -/
def Comparison.OfContents : Comparison → Prop
  | always => True
  | ignoringMetadata => False
  | field name => "metadata" ≠ name ∧ "status" ≠ name

/-- A faithful object agrees with what the definition agrees with, as long as contents are compared. -/
theorem Upkeep.Faithful.agree_eq {K : Type} [Resource K] {unit : Upkeep K} {object : K}
    (faithful : unit.Faithful object) (contents : unit.comparison.OfContents) (stored : K) :
    unit.comparison.agree object stored = unit.comparison.agree unit.definition stored := by
  cases compared : unit.comparison with
  | always => rfl
  | ignoringMetadata =>
    rw [compared] at contents
    exact contents.elim
  | field name =>
    rw [compared] at contents
    rw [Comparison.agree, Comparison.agree, faithful.field compared contents.1 contents.2]

namespace Post.Sound

variable {K : Type} [Resource K] [StatusKind K] [DocumentKind K] {fresh : Upkeep K} {post : Post K}
  {owner : ObjectKey}

/-- Whatever it has seen, a unit may leave a stored object as it is exactly if it carries the marker and agrees with
the definition. -/
theorem accepts_iff (sound : Sound fresh post) (new : fresh.Fresh) (contents : fresh.comparison.OfContents)
    (defined : isManaged fresh.definition = true) {stored : K}
    (found : post.store.object? post.unit.key = some stored) :
    post.unit.accepts stored = true ↔
      isManaged stored = true ∧ fresh.comparison.agree fresh.definition stored = true := by
  rw [← sound.charged.comparison_eq] at contents ⊢
  rw [← sound.charged.definition_eq] at defined ⊢
  constructor
  · intro accepts
    have faithful := sound.faithful_of_accepts new found accepts
    refine ⟨faithful.managed defined, ?_⟩
    rw [← faithful.agree_eq contents]
    exact Comparison.agree_self ..
  · intro ⟨managed, agrees⟩
    rw [← sound.faithful_wanted.agree_eq contents] at agrees
    simp [Upkeep.accepts, managed, agrees]

/-- A unit that succeeds leaves an object that carries the marker. It leads back to the owner unless the one that was
there was astray. -/
theorem meets_establish (sound : Sound fresh post) (new : fresh.Fresh) (contents : fresh.comparison.OfContents)
    (defined : isManaged fresh.definition = true) (labelled : owner? fresh.definition = some owner)
    (calm : ¬post.store.Terminating fresh.key) :
    post.unit.establish.Meets (fun _ _ => True) (fun result after => result.toOption.isSome →
      ∃ object, after.object? fresh.key = some object ∧ isManaged object = true ∧
        (route? object = some owner ↔ ¬post.store.Astray fresh.key owner
          fun stored => fresh.comparison.agree fresh.definition stored = true)) post.store := by
  have accepts_iff {stored : K} (found : post.store.object? post.unit.key = some stored) :=
    sound.accepts_iff new contents defined found
  have wanted : owner? post.unit.wanted = some owner :=
    Upkeep.owner?_wanted (sound.charged.definition_eq.symm ▸ labelled)
  rw [← sound.charged.key_eq] at calm ⊢
  refine (Upkeep.meets_establish (sound.charged.key_wanted new.filed) trivial (fun _ => trivial)
    fun _ _ _ => trivial).imp ?_
  rintro (failure | unit) after ends
  · exact fun succeeds => absurd succeeds (by simp [Except.toOption])
  intro _
  obtain ⟨object, stored, ⟨found, accepts⟩ | ⟨differs, made⟩⟩ := ends.stored calm
  · obtain ⟨managed, agrees⟩ := (accepts_iff found).mp accepts
    refine ⟨object, stored, managed, ?_, fun kept => ?_⟩
    · rintro routed ⟨former, found', -, -, strays⟩
      obtain rfl : object = former := Option.some.inj (found.symm.trans found')
      exact strays routed
    · exact Decidable.of_not_not fun strays => kept ⟨object, found, managed, agrees, strays⟩
  · -- what has to be written anew was not astray, since it lacked the marker or the contents
    refine ⟨object, stored, made.isManaged (sound.charged.definition_eq.symm ▸ defined), ?_,
      fun _ => made.owner?.trans wanted⟩
    rintro - ⟨former, found, managed, agrees, -⟩
    have accepts := (accepts_iff found).mpr ⟨managed, agrees⟩
    rw [differs former found] at accepts
    cases accepts

end Post.Sound

namespace World

variable {settings : Settings} {world after : World} {key : ObjectKey} {shared : SharedVolume}

/-- A pass that settles over a SharedVolume that is to stay leaves a volume and a claim that the operator watches.
What happens to them wakes the SharedVolume, unless they were astray before the pass: a volume with the marker, or a
claim with the marker and its spec, whose labels did not name this owner. -/
theorem settled_routes_iff (arises : Arises settings world) (named : key.Named)
    (held : world.sharedVolumes.object? key = some shared) (stays : shared.isDeleting = false)
    (calmVolume : ¬world.volumes.Terminating (volumeKey key)) (calmClaim : ¬world.claims.Terminating (claimKey key))
    (settled : world.reconcile settings key = (.ok .settled, after)) :
    (∃ volume, after.volumes.object? (volumeKey key) = some volume ∧ selects managedSelector volume = true ∧
      (Wakes key volume ↔ route? volume = some key) ∧
      (route? volume = some key ↔ ¬world.volumes.Astray (volumeKey key) key fun _ => True)) ∧
    ∃ claim, after.claims.object? (claimKey key) = some claim ∧ selects managedSelector claim = true ∧
      (Wakes key claim ↔ route? claim = some key) ∧
      (route? claim = some key ↔ ¬world.claims.Astray (claimKey key) key
        fun stored => stored.spec = some (claimSpec key settings)) := by
  obtain ⟨rfl, later, served⟩ := arises.wellKept.served_of_settled held stays settled
  obtain ⟨builder, own, unit⟩ := arises.sound.volumes.taken (volumeUpkeep_fresh shared settings)
  obtain ⟨builder', own', unit'⟩ := arises.sound.claims.taken (claimUpkeep_fresh shared settings)
  have volume := unit.meets_establish (volumeUpkeep_fresh builder settings) trivial
    (isManaged_markManaged_linkOwner ..) (owner?_markManaged_linkOwner (own ▸ named) _) (own ▸ calmVolume)
  have claim := unit'.meets_establish (claimUpkeep_fresh builder' settings) ⟨by decide, by decide⟩
    (isManaged_markManaged_linkOwner ..) (owner?_markManaged_linkOwner (own' ▸ named) _) (own' ▸ calmClaim)
  obtain ⟨-, -, ⟨volume, stored, managed, routes⟩, ⟨claim, stored', managed', routes'⟩⟩ :=
    PassM.serve_leaves held volume claim served
  have place : (volumeUpkeep builder settings).key = volumeKey shared.key := congrArg volumeKey own
  have place' : (claimUpkeep builder' settings).key = claimKey shared.key := congrArg claimKey own'
  have contents (stored : PersistentVolumeClaim) :
      (claimUpkeep builder' settings).comparison.agree (claimUpkeep builder' settings).definition stored = true ↔
        stored.spec = some (claimSpec shared.key settings) := by
    rw [← own']
    exact PersistentVolumeClaim.agree_spec_iff.trans eq_comm
  have contents' (stored : PersistentVolume) : (volumeUpkeep builder settings).comparison.agree
      (volumeUpkeep builder settings).definition stored = true ↔ True := iff_of_true rfl trivial
  simp only [place, own, contents'] at stored routes
  simp only [place', own', contents] at stored' routes'
  rw [← selects_managedSelector] at managed managed'
  exact ⟨⟨volume, stored, managed, wakes_iff.trans (and_iff_right managed), routes⟩,
    claim, stored', managed', wakes_iff.trans (and_iff_right managed'), routes'⟩

/-- A world in which somebody has changed the metadata of the volume and the claim of the sample. -/
def relabel (change : Metadata → Metadata) (world : World) : World :=
  { world with
    volumes := world.volumes.mutate (volumeKey sample.key) (Resource.mapMetadata change)
    claims := world.claims.mutate (claimKey sample.key) (Resource.mapMetadata change) }

theorem Reachable.relabel (reached : Reachable (Event settings) world) {change : Metadata → Metadata}
    (same : ∀ metadata, (change metadata).key = metadata.key) :
    Reachable (Event settings) (world.relabel change) := by
  have kept {K : Type} [Resource K] (object : K) :
      Resource.key (Resource.mapMetadata change object) = Resource.key object := by
    rw [Resource.key, Resource.metadata_mapMetadata]
    exact same (Resource.metadata object)
  exact (reached.next (.volumes (.mutate _ _ kept))).next (.claims (.mutate _ _ kept))

/-- The sample world after its third pass, with all labels taken off the volume and the claim. -/
def bareWorld : World :=
  (sampleWorld 3).relabel fun metadata => { metadata with labels := none }

/-- The sample world after its third pass, with the name of the owner taken off the volume and the claim. -/
def namelessWorld : World :=
  (sampleWorld 3).relabel (·.removeLabel ownerNameLabel)

theorem bareWorld_reachable : Reachable (Event {}) bareWorld :=
  (sampleWorld_reachable 3).of_userEvents.relabel fun _ => rfl

theorem namelessWorld_reachable : Reachable (Event {}) namelessWorld :=
  (sampleWorld_reachable 3).of_userEvents.relabel fun _ => rfl

/-- The pass over the bare sample puts the labels back on. -/
theorem settled_routes_iff_sample :
    (∃ volume, (bareWorld.reconcile {} sample.key).2.volumes.object? (volumeKey sample.key) = some volume ∧
      selects managedSelector volume = true ∧ Wakes sample.key volume) ∧
    ∃ claim, (bareWorld.reconcile {} sample.key).2.claims.object? (claimKey sample.key) = some claim ∧
      selects managedSelector claim = true ∧ Wakes sample.key claim := by
  have found : (bareWorld.sharedVolumes.object? sample.key).any (fun shared => !shared.isDeleting) = true := by
    decide +kernel
  have calm : ¬bareWorld.volumes.Terminating (volumeKey sample.key) ∧
      ¬bareWorld.claims.Terminating (claimKey sample.key) := by
    decide +kernel
  have bare : (¬bareWorld.volumes.Astray (volumeKey sample.key) sample.key fun _ => True) ∧
      ¬bareWorld.claims.Astray (claimKey sample.key) sample.key
        fun stored => stored.spec = some (claimSpec sample.key {}) := by
    decide +kernel
  have settles : (bareWorld.reconcile {} sample.key).1 = .ok .settled := by
    decide +kernel
  have settled : bareWorld.reconcile {} sample.key = (.ok .settled, (bareWorld.reconcile {} sample.key).2) := by
    rw [← settles]
  obtain ⟨shared, held, stays⟩ := (Option.any_eq_true ..).mp found
  obtain ⟨⟨volume, stored, selected, wakes, routes⟩, claim, stored', selected', wakes', routes'⟩ :=
    settled_routes_iff bareWorld_reachable.arises ⟨"x", "a-b", by decide, by decide, rfl⟩ held
      (by simpa using stays) calm.1 calm.2 settled
  exact ⟨⟨volume, stored, selected, wakes.mpr (routes.mpr bare.1)⟩,
    claim, stored', selected', wakes'.mpr (routes'.mpr bare.2)⟩

/-- The pass over the nameless sample settles, though no operation is made to fail, and what happens to the volume and
the claim then wakes nobody. -/
theorem settles_over_nameless :
    Arises {} namelessWorld ∧ sample.key.Named ∧
      (∀ operation, namelessWorld.sharedVolumes.failing operation = false ∧
        namelessWorld.volumes.failing operation = false ∧ namelessWorld.claims.failing operation = false) ∧
      (∃ shared, namelessWorld.sharedVolumes.object? sample.key = some shared ∧ shared.isDeleting = false) ∧
      ¬namelessWorld.volumes.Terminating (volumeKey sample.key) ∧
      ¬namelessWorld.claims.Terminating (claimKey sample.key) ∧
      (namelessWorld.reconcile {} sample.key).1 = .ok .settled ∧
      (∃ volume, (namelessWorld.reconcile {} sample.key).2.volumes.object? (volumeKey sample.key) = some volume ∧
        route? volume = none) ∧
      ∃ claim, (namelessWorld.reconcile {} sample.key).2.claims.object? (claimKey sample.key) = some claim ∧
        route? claim = none := by
  have found : (namelessWorld.sharedVolumes.object? sample.key).any (fun shared => !shared.isDeleting) = true := by
    decide +kernel
  have works (operation : Operation) : namelessWorld.sharedVolumes.failing operation = false ∧
      namelessWorld.volumes.failing operation = false ∧ namelessWorld.claims.failing operation = false := by
    cases operation <;> decide +kernel
  have calm : ¬namelessWorld.volumes.Terminating (volumeKey sample.key) ∧
      ¬namelessWorld.claims.Terminating (claimKey sample.key) := by
    decide +kernel
  have settles : (namelessWorld.reconcile {} sample.key).1 = .ok .settled := by
    decide +kernel
  have astray : ((namelessWorld.reconcile {} sample.key).2.volumes.object? (volumeKey sample.key)).any
        (route? · = none) = true ∧
      ((namelessWorld.reconcile {} sample.key).2.claims.object? (claimKey sample.key)).any
        (route? · = none) = true := by
    decide +kernel
  obtain ⟨shared, held, stays⟩ := (Option.any_eq_true ..).mp found
  obtain ⟨volume, stored, lost⟩ := (Option.any_eq_true ..).mp astray.1
  obtain ⟨claim, stored', lost'⟩ := (Option.any_eq_true ..).mp astray.2
  exact ⟨namelessWorld_reachable.arises,
    ⟨"x", "a-b", by decide, by decide, rfl⟩, works, ⟨shared, held, by simpa using stays⟩, calm.1, calm.2,
    settles, ⟨volume, stored, of_decide_eq_true lost⟩, claim, stored', of_decide_eq_true lost'⟩

end World

end SharedMount
