import Mathlib.Data.List.Nodup
import SharedMount.Proofs.Run.Onboarding
import SharedMount.Proofs.Store.Faults

/-! # Rounds over many SharedVolumes

Passes over different SharedVolumes share the stores and the roster, and no pass waits for another. If the
volumes of all of them have different names, a pass changes nothing of what concerns the others, and so it only
matters how often there was a pass over each: `Boarding` counts. Any schedule with three passes over each of
them settles them all, and all schedules come to the same, versions apart.
-/

namespace SharedMount

namespace World

variable {settings : Settings} {shareds : List SharedVolume} {shared : SharedVolume} {world : World}
  {key : ObjectKey} {done : List ObjectKey}

/-- The world after complete passes for keys, one after the other. -/
def rounds (settings : Settings) (schedule : List ObjectKey) (world : World) : World :=
  schedule.foldl (fun world key => (world.reconcile settings key).2) world

/-- A world that SharedVolumes were just inserted into, and nothing else. -/
def newlyFilled (shareds : List SharedVolume) : World where
  sharedVolumes := ({} : Store SharedVolume).insertAll shareds

/-- SharedVolumes that are fresh, and whose volumes have different names. -/
structure Newcomers (shareds : List SharedVolume) : Prop where
  fresh {shared : SharedVolume} (member : shared ∈ shareds) : shared.Fresh
  distinct : (shareds.map fun shared => volumeName shared.key).Nodup

/-- A schedule of passes over some SharedVolumes with three for each of them or more, in any order. -/
structure Covers (schedule : List ObjectKey) (shareds : List SharedVolume) : Prop where
  only {key : ObjectKey} (member : key ∈ schedule) : ∃ shared ∈ shareds, shared.key = key
  often {shared : SharedVolume} (member : shared ∈ shareds) : 3 ≤ schedule.count shared.key

namespace Newcomers

theorem eq_of_volumeName (newcomers : Newcomers shareds) {other : SharedVolume} (member : shared ∈ shareds)
    (member' : other ∈ shareds) (same : volumeName shared.key = volumeName other.key) : shared = other :=
  List.inj_on_of_nodup_map newcomers.distinct member member' same

/-- Places that tell the names of the volumes apart are different. -/
theorem nodup_map (newcomers : Newcomers shareds) {place : SharedVolume → ObjectKey}
    (tells : ∀ shared other, place shared = place other → volumeName shared.key = volumeName other.key) :
    (shareds.map place).Nodup := by
  refine List.Nodup.map_on ?_ newcomers.distinct.of_map
  exact fun shared member other member' same => newcomers.eq_of_volumeName member member' (tells _ _ same)

theorem nodup_keys (newcomers : Newcomers shareds) : (shareds.map SharedVolume.key).Nodup :=
  newcomers.nodup_map fun _ _ => congrArg volumeName

end Newcomers

/-! ## Calls do not change what fails -/

theorem Working.perform (working : world.Working) (call : OperatorCall) :
    ((World.perform call).run world).2.Working := by
  cases call with
  | sharedVolumes call =>
    exact { working with
      sharedVolumes := fun operation =>
        (congrFun (Store.failing_perform world.sharedVolumes call) operation).trans
          (working.sharedVolumes operation) }
  | volumes call =>
    exact { working with
      volumes := fun operation =>
        (congrFun (Store.failing_perform world.volumes call) operation).trans (working.volumes operation) }
  | claims call =>
    exact { working with
      claims := fun operation =>
        (congrFun (Store.failing_perform world.claims call) operation).trans (working.claims operation) }
  | roster call => exact ⟨working.sharedVolumes, working.volumes, working.claims⟩

theorem Working.reconcile (working : world.Working) (settings : Settings) (key : ObjectKey) :
    (world.reconcile settings key).2.Working :=
  (Program.meets_trivial (SharedMount.reconcile settings key).run world).invariant
    (fun _ call working _ => working.perform call) working

/-! ## Counting passes -/

/-- After passes for some keys, every SharedVolume has come as far as the passes over it bring it, and nothing
else is in the stores. -/
structure Boarding (settings : Settings) (shareds : List SharedVolume) (done : List ObjectKey)
    (world : World) : Prop where
  kept : world.WellKept settings
  working : world.Working
  onboarding {shared : SharedVolume} (member : shared ∈ shareds) :
    Onboarding settings shared world (done.count shared.key)
  sharedVolumes {key : ObjectKey} (other : ∀ shared ∈ shareds, shared.key ≠ key) :
    world.sharedVolumes.object? key = none
  volumes {key : ObjectKey} (other : ∀ shared ∈ shareds, volumeKey shared.key ≠ key) :
    world.volumes.object? key = none
  claims {key : ObjectKey} (other : ∀ shared ∈ shareds, claimKey shared.key ≠ key) :
    world.claims.object? key = none

namespace Boarding

theorem start (newcomers : Newcomers shareds) (settings : Settings) :
    Boarding settings shareds [] (newlyFilled shareds) := by
  have filled : (newlyFilled shareds).sharedVolumes.Consists shareds :=
    Store.consists_insertAll newcomers.nodup_keys
  exact {
    kept := { WellKept.initial settings with sharedVolumes := Store.wellFiled_empty.insertAll shareds }
    working := ⟨fun _ => congrFun (Store.failing_insertAll shareds {}) _, fun _ => rfl, fun _ => rfl⟩
    onboarding := fun member =>
      .preparing (by simp) (filled.holds member) (Store.object?_empty _) (Store.object?_empty _)
        ⟨Shelf.unit?_empty _, Shelf.unit?_empty _⟩
    sharedVolumes := fun other => filled.only fun listed => by
      obtain ⟨shared, member, own⟩ := List.mem_map.mp listed
      exact other shared member own
    volumes := fun _ => Store.object?_empty _
    claims := fun _ => Store.object?_empty _ }

/-- A pass over one of the SharedVolumes succeeds and counts for this one only. -/
theorem step (newcomers : Newcomers shareds) (boarding : Boarding settings shareds done world)
    (member : shared ∈ shareds) :
    (∃ verdict, (world.reconcile settings shared.key).1 = .ok verdict) ∧
      Boarding settings shareds (shared.key :: done) (world.reconcile settings shared.key).2 := by
  obtain ⟨succeeds, further⟩ := (boarding.onboarding member).step (newcomers.fresh member) boarding.working
  have same := (boarding.kept.footprint shared.key).toSameApartFrom
  refine ⟨succeeds, boarding.kept.reconcile _, boarding.working.reconcile _ _, ?_, ?_, ?_, ?_⟩
  · intro other member'
    by_cases own : other = shared
    · subst own
      rwa [List.count_cons_self]
    · have apart : volumeKey other.key ≠ volumeKey shared.key :=
        fun same => own (newcomers.eq_of_volumeName member' member (congrArg ObjectKey.name same))
      have differ : other.key ≠ shared.key := fun same => apart (congrArg volumeKey same)
      rw [List.count_cons_of_ne (Ne.symm differ)]
      exact (boarding.onboarding member').elsewhere same differ apart
  · intro key other
    exact (same.sharedVolumes (Ne.symm (other shared member))).trans (boarding.sharedVolumes other)
  · intro key other
    exact (same.volumes (Ne.symm (other shared member))).trans (boarding.volumes other)
  · intro key other
    exact (same.claims (Ne.symm (other shared member))).trans (boarding.claims other)

/-- Passes count, in whatever order they are made. -/
theorem rounds {schedule : List ObjectKey} (newcomers : Newcomers shareds)
    (boarding : Boarding settings shareds done world)
    (only : ∀ key ∈ schedule, ∃ shared ∈ shareds, shared.key = key) :
    Boarding settings shareds (schedule.reverse ++ done) (world.rounds settings schedule) := by
  induction schedule generalizing world done with
  | nil => exact boarding
  | cons key rest ih =>
    rw [List.forall_mem_cons] at only
    obtain ⟨⟨shared, member, rfl⟩, only⟩ := only
    rw [List.reverse_cons, List.append_assoc]
    exact ih (boarding.step newcomers member).2 only

end Boarding

/-! ## Where all schedules lead -/

/-- Every SharedVolume is ready with the spec that it had. Its own volume encodes that spec, its own claim names
the volume, and there are no more objects than these. -/
structure AllReady (shareds : List SharedVolume) (world : World) : Prop where
  shared {shared : SharedVolume} (member : shared ∈ shareds) :
    ∃ stored, world.sharedVolumes.object? shared.key = some stored ∧ stored.phase? = some .ready ∧
      stored.spec = shared.spec
  volume {shared : SharedVolume} (member : shared ∈ shareds) :
    ∃ volume, world.volumes.object? (volumeKey shared.key) = some volume ∧ owner? volume = some shared.key ∧
      SharedVolumeSpec.ofVolume volume = .ok shared.spec
  claim {shared : SharedVolume} (member : shared ∈ shareds) :
    ∃ claim, world.claims.object? (claimKey shared.key) = some claim ∧ owner? claim = some shared.key ∧
      claim.spec.bind (·.volumeName) = some (volumeName shared.key)
  sharedVolumes : world.sharedVolumes.size = shareds.length
  volumes : world.volumes.size = shareds.length
  claims : world.claims.size = shareds.length

/-- Two worlds have the same objects, versions apart. -/
structure SameUnversioned (world other : World) : Prop where
  sharedVolumes (key : ObjectKey) : (other.sharedVolumes.object? key).map (Resource.withVersion none) =
    (world.sharedVolumes.object? key).map (Resource.withVersion none)
  volumes (key : ObjectKey) : (other.volumes.object? key).map (Resource.withVersion none) =
    (world.volumes.object? key).map (Resource.withVersion none)
  claims (key : ObjectKey) : (other.claims.object? key).map (Resource.withVersion none) =
    (world.claims.object? key).map (Resource.withVersion none)

/-- What the stores consist of when all is done, versions apart. -/
structure Complete (settings : Settings) (shareds : List SharedVolume) (world : World) : Prop where
  sharedVolumes : world.sharedVolumes.Consists (shareds.map fun shared => shared.onboarded 3)
  volumes : world.volumes.Consists (shareds.map fun shared => (volumeUpkeep shared settings).wanted)
  claims : world.claims.Consists (shareds.map fun shared => (claimUpkeep shared settings).wanted)

theorem Boarding.complete (newcomers : Newcomers shareds) (boarding : Boarding settings shareds done world)
    (often : ∀ shared ∈ shareds, 3 ≤ done.count shared.key) : Complete settings shareds world := by
  have finished (shared : SharedVolume) (member : shared ∈ shareds) :=
    (boarding.onboarding member).finished (often shared member)
  refine ⟨?_, ?_, ?_⟩
  · exact Store.consists_map (fun shared => shared.key_onboarded 3) newcomers.nodup_keys
      (fun shared member => (finished shared member).1) fun _ => boarding.sharedVolumes
  · exact Store.consists_map (fun shared => Upkeep.key_volumeUpkeep shared settings)
      (newcomers.nodup_map fun _ _ => congrArg ObjectKey.name)
      (fun shared member => (finished shared member).2.volume) fun _ => boarding.volumes
  · exact Store.consists_map (fun shared => Upkeep.key_claimUpkeep shared settings)
      (newcomers.nodup_map fun _ _ same => congrArg volumeName (claimKey_inj.mp same))
      (fun shared member => (finished shared member).2.claim) fun _ => boarding.claims

theorem Complete.same {other : World} (first : Complete settings shareds world)
    (second : Complete settings shareds other) : SameUnversioned world other where
  sharedVolumes := first.sharedVolumes.unversioned second.sharedVolumes
  volumes := first.volumes.unversioned second.volumes
  claims := first.claims.unversioned second.claims

theorem Complete.allReady (complete : Complete settings shareds world) (newcomers : Newcomers shareds) :
    AllReady shareds world where
  shared {shared} member := by
    obtain ⟨version, found⟩ := complete.sharedVolumes.holds (List.mem_map_of_mem member)
    rw [SharedVolume.key_onboarded] at found
    exact ⟨_, found, rfl, rfl⟩
  volume {shared} member := by
    obtain ⟨version, found⟩ := complete.volumes.holds (List.mem_map_of_mem member)
    rw [Upkeep.key_volumeUpkeep] at found
    have fresh := newcomers.fresh member
    have belongs := (Upkeep.belongsTo_volumeUpkeep fresh.named settings).withVersion version
    exact ⟨_, found, belongs.labelled, Upkeep.ofVolume_wanted fresh.valid settings version⟩
  claim {shared} member := by
    obtain ⟨version, found⟩ := complete.claims.holds (List.mem_map_of_mem member)
    rw [Upkeep.key_claimUpkeep] at found
    have belongs := (Upkeep.belongsTo_claimUpkeep (newcomers.fresh member).named settings).withVersion version
    exact ⟨_, found, belongs.labelled, rfl⟩
  sharedVolumes := complete.sharedVolumes.size_eq.trans (List.length_map ..)
  volumes := complete.volumes.size_eq.trans (List.length_map ..)
  claims := complete.claims.size_eq.trans (List.length_map ..)

/-- Any schedule settles all. For SharedVolumes that are fresh, whose volumes have different names and that were
inserted into an empty world, no pass of a schedule with three passes over each of them fails, in whatever order
they are made. In the end all are ready, and the objects are the same for all such schedules, versions apart. -/
theorem any_schedule_settles_all {schedule : List ObjectKey} (newcomers : Newcomers shareds)
    (covers : Covers schedule shareds) :
    (∀ before key later, schedule = before ++ key :: later →
      ∃ verdict, (((newlyFilled shareds).rounds settings before).reconcile settings key).1 = .ok verdict) ∧
      AllReady shareds ((newlyFilled shareds).rounds settings schedule) ∧
      ∀ other, Covers other shareds → SameUnversioned ((newlyFilled shareds).rounds settings schedule)
        ((newlyFilled shareds).rounds settings other) := by
  have start := Boarding.start newcomers settings
  have complete (schedule : List ObjectKey) (covers : Covers schedule shareds) :
      Complete settings shareds ((newlyFilled shareds).rounds settings schedule) := by
    refine (start.rounds newcomers fun key => covers.only).complete newcomers fun shared member => ?_
    rw [List.append_nil, List.count_reverse]
    exact covers.often member
  refine ⟨?_, (complete schedule covers).allReady newcomers, ?_⟩
  · rintro before key later rfl
    have passed := start.rounds newcomers fun key (member : key ∈ before) =>
      covers.only (List.mem_append_left _ member)
    obtain ⟨shared, member, rfl⟩ := covers.only (List.mem_append_right _ (List.mem_cons_self ..))
    exact (passed.step newcomers member).1
  · exact fun other covers' => (complete schedule covers).same (complete other covers')

/-- Two SharedVolumes of one name in different namespaces. -/
def namesakes : List SharedVolume :=
  [{ metadata := { name := some "a", ns := some "x" }
     spec := { fileSystemId := "fs-1", accessPointId := "fsap-1" } },
    { metadata := { name := some "a", ns := some "y" }
      spec := { fileSystemId := "fs-2", accessPointId := "fsap-2" } }]

theorem newcomers_namesakes : Newcomers namesakes where
  fresh member := by
    rcases List.mem_pair.mp member with rfl | rfl
    · exact ⟨⟨"x", "a", by decide, by decide, rfl⟩, rfl, rfl, rfl, by decide +kernel⟩
    · exact ⟨⟨"y", "a", by decide, by decide, rfl⟩, rfl, rfl, rfl, by decide +kernel⟩
  distinct := by decide

/-- Passes over the namesakes in turn, and passes over one and then over the other. -/
theorem any_schedule_settles_all_sample :
    let x : ObjectKey := .namespaced "x" "a"
    let y : ObjectKey := .namespaced "y" "a"
    AllReady namesakes ((newlyFilled namesakes).rounds {} [x, y, y, x, y, x, x]) ∧
      SameUnversioned ((newlyFilled namesakes).rounds {} [x, y, y, x, y, x, x])
        ((newlyFilled namesakes).rounds {} [y, y, y, y, x, x, x]) := by
  intro x y
  have covers {schedule : List ObjectKey} (only : ∀ key ∈ schedule, key = x ∨ key = y)
      (often : 3 ≤ schedule.count x ∧ 3 ≤ schedule.count y) : Covers schedule namesakes := by
    refine ⟨fun member => ?_, fun member => ?_⟩
    · rcases only _ member with rfl | rfl
      · exact ⟨_, .head _, rfl⟩
      · exact ⟨_, .tail _ (.head _), rfl⟩
    · rcases List.mem_pair.mp member with rfl | rfl
      · exact often.1
      · exact often.2
  obtain ⟨-, ready, same⟩ := any_schedule_settles_all newcomers_namesakes
    (covers (by decide) (by decide) : Covers [x, y, y, x, y, x, x] namesakes)
  exact ⟨ready, same _ (covers (by decide) (by decide))⟩

end World

end SharedMount
