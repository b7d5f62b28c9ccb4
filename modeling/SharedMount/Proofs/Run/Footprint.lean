import SharedMount.Proofs.Run.Retirement

/-! # What a pass leaves alone

Calls are made to keys that are read off the objects being written, so it takes the charge of the units to
know that they all concern the SharedVolume, the volume and the claim of one key. Volumes of different
owners may share a key; a volume is then left alone because of its labels, or because of its marker.
-/

namespace SharedMount

namespace Shelf

variable {K : Type} (shelf : Shelf K) {owner other : ObjectKey}

theorem unit?_take_of_ne (fresh : Upkeep K) (differ : owner ≠ other) :
    (shelf.take owner fresh).2.unit? other = shelf.unit? other := by
  rw [unit?_take, if_neg differ]

theorem unit?_record_of_ne (latest : Option K) (differ : owner ≠ other) :
    (shelf.record owner latest).unit? other = shelf.unit? other := by
  rw [unit?_record, if_neg differ]

theorem unit?_dismiss_of_ne (differ : owner ≠ other) :
    (shelf.dismiss owner).unit? other = shelf.unit? other := by
  rw [unit?_dismiss, if_neg differ]

end Shelf

/-! ## Calls concern one key -/

/-- The owner whose units a call to the roster is about. -/
def RosterCall.owner : RosterCall → ObjectKey
  | volume shared _ | claim shared _ => shared.key
  | recordVolume owner _ | recordClaim owner _ | dismiss owner => owner

/-- A call is about the SharedVolume of a key, or its volume, its claim or its units. -/
def OperatorCall.Concerns (key : ObjectKey) : OperatorCall → Prop
  | sharedVolumes call => call.key = key
  | volumes call => call.key = volumeKey key
  | claims call => call.key = claimKey key
  | roster call => call.owner = key

/-- All that a pass for a key may do concerns that key. -/
theorem Permitted.concerns {settings : Settings} {key : ObjectKey} {start world : World}
    {call : OperatorCall} (kept : world.WellKept settings)
    (permitted : Permitted settings key start world call) : call.Concerns key := by
  cases permitted with
  | readShared | readVolume | readClaim | deleteVolume | deleteClaim => rfl
  | recordVolume | recordClaim | dismiss => rfl
  | revert held | register held | report held | takeVolume held | takeClaim held =>
    have own := kept.sharedVolumes _ _ held
    exact own
  | release retires =>
    have own := kept.sharedVolumes _ _ retires.held
    exact own
  | reportReady serves =>
    have own := kept.sharedVolumes _ _ serves.held
    exact own
  | createVolume _ listed | replaceVolume _ listed =>
    exact (Resource.key_withVersion ..).trans
      ((kept.key_wanted_volumeUnit listed).trans (kept.key_volumeUnit listed))
  | createClaim _ listed | replaceClaim _ listed =>
    exact (Resource.key_withVersion ..).trans
      ((kept.key_wanted_claimUnit listed).trans (kept.key_claimUnit listed))

namespace World

/-- Two worlds have the same for all keys but one: the same SharedVolumes, volumes, claims and units. -/
structure SameApartFrom (key : ObjectKey) (before after : World) : Prop where
  sharedVolumes {other : ObjectKey} (differ : other ≠ key) :
    after.sharedVolumes.object? other = before.sharedVolumes.object? other
  volumes {other : ObjectKey} (differ : other ≠ volumeKey key) :
    after.volumes.object? other = before.volumes.object? other
  claims {other : ObjectKey} (differ : other ≠ claimKey key) :
    after.claims.object? other = before.claims.object? other
  volumeUnits {owner : ObjectKey} (differ : owner ≠ key) :
    after.roster.volumes.unit? owner = before.roster.volumes.unit? owner
  claimUnits {owner : ObjectKey} (differ : owner ≠ key) :
    after.roster.claims.unit? owner = before.roster.claims.unit? owner

namespace SameApartFrom

variable {key : ObjectKey} {before middle after : World}

theorem refl (key : ObjectKey) (world : World) : SameApartFrom key world world :=
  ⟨fun _ => rfl, fun _ => rfl, fun _ => rfl, fun _ => rfl, fun _ => rfl⟩

theorem trans (first : SameApartFrom key before middle) (second : SameApartFrom key middle after) :
    SameApartFrom key before after where
  sharedVolumes differ := (second.sharedVolumes differ).trans (first.sharedVolumes differ)
  volumes differ := (second.volumes differ).trans (first.volumes differ)
  claims differ := (second.claims differ).trans (first.claims differ)
  volumeUnits differ := (second.volumeUnits differ).trans (first.volumeUnits differ)
  claimUnits differ := (second.claimUnits differ).trans (first.claimUnits differ)

/-- A call changes nothing but what it concerns. -/
theorem perform (world : World) {call : OperatorCall} (concerns : call.Concerns key) :
    SameApartFrom key world ((World.perform call).run world).2 := by
  have same := SameApartFrom.refl key world
  cases call with
  | sharedVolumes call =>
    obtain rfl : call.key = key := concerns
    exact { same with
      sharedVolumes := fun differ => world.sharedVolumes.object?_perform_of_ne call differ.symm }
  | volumes call =>
    exact { same with
      volumes := fun differ =>
        world.volumes.object?_perform_of_ne call fun own => differ (own.symm.trans concerns) }
  | claims call =>
    exact { same with
      claims := fun differ =>
        world.claims.object?_perform_of_ne call fun own => differ (own.symm.trans concerns) }
  | roster call =>
    obtain rfl : call.owner = key := concerns
    cases call with
    | volume shared settings =>
      exact { same with volumeUnits := fun differ => Shelf.unit?_take_of_ne _ _ differ.symm }
    | claim shared settings =>
      exact { same with claimUnits := fun differ => Shelf.unit?_take_of_ne _ _ differ.symm }
    | recordVolume owner latest =>
      exact { same with volumeUnits := fun differ => Shelf.unit?_record_of_ne _ _ differ.symm }
    | recordClaim owner latest =>
      exact { same with claimUnits := fun differ => Shelf.unit?_record_of_ne _ _ differ.symm }
    | dismiss owner =>
      exact { same with
        volumeUnits := fun differ => Shelf.unit?_dismiss_of_ne _ differ.symm
        claimUnits := fun differ => Shelf.unit?_dismiss_of_ne _ differ.symm }

end SameApartFrom

/-! ## Volumes that are left alone -/

/-- The SharedVolume of a key is stored and is to stay. -/
def Stays (world : World) (key : ObjectKey) : Prop :=
  ∃ shared, world.sharedVolumes.object? key = some shared ∧ shared.isDeleting = false

/-- Nothing that a pass may do marks a SharedVolume for deletion or takes one away that is to stay. -/
theorem Stays.perform {settings : Settings} {key : ObjectKey} {start world : World} {call : OperatorCall}
    (stays : world.Stays key) (kept : world.WellKept settings)
    (permitted : Permitted settings key start world call) :
    ((World.perform call).run world).2.Stays key := by
  obtain ⟨shared, stored, unmarked⟩ := stays
  have concerns := permitted.concerns kept
  cases call with
  | volumes call => exact ⟨shared, stored, unmarked⟩
  | claims call => exact ⟨shared, stored, unmarked⟩
  | roster call => exact ⟨shared, stored, unmarked⟩
  | sharedVolumes call =>
    obtain rfl : call.key = key := concerns
    cases call with
    | get key => exact ⟨shared, stored, unmarked⟩
    | create object => cases permitted
    | delete key => cases permitted
    | replace object =>
      rcases world.sharedVolumes.perform_replace object with
        same | ⟨present, found, ⟨finishes, -⟩ | ⟨-, puts⟩⟩
      · exact ⟨shared, (congrArg (Store.object? · _) same).trans stored, unmarked⟩
      · obtain rfl := Option.some.inj (stored.symm.trans found)
        exact absurd unmarked finishes.not_stays
      · obtain rfl := Option.some.inj (stored.symm.trans found)
        exact ⟨_, puts.object?_self, unmarked⟩
    | replaceStatus object =>
      rcases world.sharedVolumes.perform_replaceStatus object with same | ⟨present, found, puts⟩
      · exact ⟨shared, (congrArg (Store.object? · _) same).trans stored, unmarked⟩
      · obtain rfl := Option.some.inj (stored.symm.trans found)
        exact ⟨_, puts.object?_self, unmarked⟩

/-- A volume that a pass for a key has to leave alone: it is labelled for another owner, or it carries the
marker and the SharedVolume is to stay. -/
def Spared (world : World) (key : ObjectKey) (volume : PersistentVolume) : Prop :=
  ¬FreeFor key volume ∨ isManaged volume = true ∧ world.Stays key

theorem Spared.perform {settings : Settings} {key : ObjectKey} {start world : World} {call : OperatorCall}
    {volume : PersistentVolume} (spared : world.Spared key volume) (kept : world.WellKept settings)
    (permitted : Permitted settings key start world call) :
    ((World.perform call).run world).2.Spared key volume :=
  spared.imp id fun managed => ⟨managed.1, managed.2.perform kept permitted⟩

/-- No permitted call changes a volume that is to be spared. -/
theorem Spared.object?_perform {settings : Settings} {key : ObjectKey} {start world : World}
    {call : OperatorCall} {volume : PersistentVolume} (spared : world.Spared key volume)
    (kept : world.WellKept settings) (found : world.volumes.object? (volumeKey key) = some volume)
    (permitted : Permitted settings key start world call) :
    ((World.perform call).run world).2.volumes.object? (volumeKey key) = some volume := by
  cases call with
  | sharedVolumes call => exact found
  | claims call => exact found
  | roster call => exact found
  | volumes call =>
    cases permitted with
    | readVolume => exact found
    | createVolume _ _ missing => exact absurd (missing.symm.trans found) (by simp)
    | replaceVolume serves listed present free differs =>
      obtain rfl := Option.some.inj (found.symm.trans present)
      rcases spared with foreign | ⟨managed, -⟩
      · exact absurd free foreign
      · -- whatever the unit has seen, it is content with any volume that carries the marker
        obtain ⟨shared, rfl, charged⟩ := kept.volumeUnits _ _ listed
        have comparison := charged.comparison_eq
        simp [Upkeep.accepts, comparison, volumeUpkeep, Comparison.agree, managed] at differs
    | deleteVolume retires _ free =>
      rcases spared with foreign | ⟨-, shared, stored, unmarked⟩
      · exact absurd (free volume found) foreign
      · exact absurd unmarked (retires.leaving.not_stays stored)

/-- What a pass for a key leaves as it was. -/
structure Footprint (key : ObjectKey) (before after : World) : Prop
    extends SameApartFrom key before after where
  /-- The volume is not touched if its labels name another owner. -/
  foreign {volume : PersistentVolume} {owner : ObjectKey}
    (found : before.volumes.object? (volumeKey key) = some volume)
    (labelled : owner? volume = some owner) (differ : owner ≠ key) :
    after.volumes.object? (volumeKey key) = some volume
  /-- The volume of a SharedVolume that is to stay is not touched if it carries the marker. -/
  managed {shared : SharedVolume} {volume : PersistentVolume}
    (stored : before.sharedVolumes.object? key = some shared) (stays : shared.isDeleting = false)
    (found : before.volumes.object? (volumeKey key) = some volume) (marked : isManaged volume = true) :
    after.volumes.object? (volumeKey key) = some volume

/-- A pass from a world that is well kept has the footprint of its key. -/
theorem WellKept.footprint {settings : Settings} {world : World} (kept : world.WellKept settings)
    (key : ObjectKey) : Footprint key world (world.reconcile settings key).2 := by
  have same := ((reconcile_permitted kept key).invariant
    (fun during => during.WellKept settings ∧ SameApartFrom key world during)
    (fun during _ holds permitted => ⟨holds.1.perform permitted,
      holds.2.trans (SameApartFrom.perform during (permitted.concerns holds.1))⟩)
    ⟨kept, SameApartFrom.refl key world⟩).2
  have spares (volume : PersistentVolume) (found : world.volumes.object? (volumeKey key) = some volume)
      (spared : world.Spared key volume) :
      (world.reconcile settings key).2.volumes.object? (volumeKey key) = some volume :=
    ((reconcile_permitted kept key).invariant
      (fun during => during.WellKept settings ∧ during.Spared key volume ∧
        during.volumes.object? (volumeKey key) = some volume)
      (fun _ _ holds permitted => ⟨holds.1.perform permitted, holds.2.1.perform holds.1 permitted,
        holds.2.1.object?_perform holds.1 holds.2.2 permitted⟩)
      ⟨kept, spared, found⟩).2.2
  exact {
    toSameApartFrom := same
    foreign := fun found labelled differ => spares _ found (.inl fun free => differ (free _ labelled))
    managed := fun stored stays found marked => spares _ found (.inr ⟨marked, _, stored, stays⟩) }

/-- In every reachable world and with any operations made to fail, a pass changes nothing but the
SharedVolume of its key, its volume, its claim and its units, and it leaves the volume alone as well if that
is labelled for another owner, or carries the marker and the SharedVolume is to stay. -/
theorem pass_stays_within_footprint {settings : Settings} {world : World}
    (reached : Reachable (Event settings) world) (key : ObjectKey) (faults : Faults) :
    Footprint key world (world.attempt settings key faults) := by
  have kept := (reached.next (.sharedVolumes (.faults faults.sharedVolumes))
    |>.next (.volumes (.faults faults.volumes))
    |>.next (.claims (.faults faults.claims))).wellKept
  obtain ⟨⟨sharedVolumes, volumes, claims, volumeUnits, claimUnits⟩, foreign, managed⟩ :=
    kept.footprint key
  exact ⟨⟨sharedVolumes, volumes, claims, volumeUnits, claimUnits⟩, foreign, managed⟩

/-- The settled sample world, with a registered SharedVolume beside the sample whose volume has the same
name. -/
def twinWorld : World :=
  let added := { sampleWorld 4 with sharedVolumes := ((sampleWorld 4).sharedVolumes.insert twin).2 }
  (added.reconcile {} twin.key).2

theorem twinWorld_reachable : Reachable (Event {}) twinWorld :=
  ((sampleWorld_reachable 4).of_userEvents.next (.sharedVolumes (.insert twin))).next (.pass twin.key)

/-- A pass for the twin leaves the sample and its volume alone, and so does one for the sample that cannot
reach the claim leave the volume. -/
theorem pass_stays_within_footprint_sample : ∃ shared volume,
    twinWorld.sharedVolumes.object? sample.key = some shared ∧ shared.isDeleting = false ∧
      twinWorld.volumes.object? (volumeKey twin.key) = some volume ∧
      owner? volume = some sample.key ∧ isManaged volume = true ∧
      (twinWorld.attempt {} twin.key {}).sharedVolumes.object? sample.key = some shared ∧
      (twinWorld.attempt {} twin.key {}).volumes.object? (volumeKey twin.key) = some volume ∧
      (twinWorld.attempt {} sample.key { claims := (· == .get) }).volumes.object? (volumeKey sample.key) =
        some volume := by
  have kept : (twinWorld.sharedVolumes.object? sample.key).map (·.isDeleting) = some false := by
    decide +kernel
  have labelled : (twinWorld.volumes.object? (volumeKey twin.key)).map
      (fun volume => (owner? volume, isManaged volume)) = some (some sample.key, true) := by
    decide +kernel
  obtain ⟨shared, stored, stays⟩ := Option.map_eq_some_iff.mp kept
  obtain ⟨volume, found, same⟩ := Option.map_eq_some_iff.mp labelled
  obtain ⟨owner, marked⟩ := Prod.mk.inj same
  have others := pass_stays_within_footprint twinWorld_reachable twin.key {}
  have own := pass_stays_within_footprint twinWorld_reachable sample.key { claims := (· == .get) }
  exact ⟨shared, volume, stored, stays, found, owner, marked,
    (others.sharedVolumes (by decide)).trans stored, others.foreign found owner (by decide),
    own.managed stored stays found marked⟩

end World

end SharedMount
