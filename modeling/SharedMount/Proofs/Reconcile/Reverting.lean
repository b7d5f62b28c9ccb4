import SharedMount.Proofs.Program.Aside
import SharedMount.Proofs.Reconcile.Provisioning
import SharedMount.Proofs.Reconcile.Removal
import SharedMount.Proofs.Reconcile.Telling

/-! # What becomes of an edited spec

Before anything is established, the spec of the SharedVolume at hand is held against the volume that is stored,
if there is one. `Decides` tells what comes of it: the labels of the volume are looked at first, then what it
encodes, and last whether the copy at hand is still the stored form. The copy may have been read at any earlier
moment; whether it is up to date shows in its version alone.
-/

namespace SharedMount

/-- A volume is labelled for an owner other than the one of a key: both labels are there, and neither is empty. -/
inductive Foreign (key : ObjectKey) (volume : PersistentVolume) : ObjectKey → Prop where
  | intro {ns name : String} (labelled : volume.metadata.label? ownerNamespaceLabel = some ns)
      (named : volume.metadata.label? ownerNameLabel = some name) (given : ns ≠ "") (filled : name ≠ "")
      (differs : ObjectKey.namespaced ns name ≠ key) : Foreign key volume (.namespaced ns name)

theorem otherOwner?_eq_some_iff {volume : PersistentVolume} {shared : SharedVolume} {other : ObjectKey} :
    otherOwner? volume shared = some other ↔ Foreign shared.key volume other := by
  rw [otherOwner?, Option.filter_eq_some_iff, decide_eq_true_eq, owner?, Metadata.owner?_eq_some_iff]
  constructor
  · rintro ⟨⟨ns, name, labelled, given, named, filled, rfl⟩, differs⟩
    exact .intro labelled named given filled differs
  · rintro ⟨labelled, named, given, filled, differs⟩
    exact ⟨⟨_, _, labelled, given, named, filled, rfl⟩, differs⟩

theorem freeFor_iff {key : ObjectKey} {volume : PersistentVolume} :
    FreeFor key volume ↔ ∀ other, ¬Foreign key volume other := by
  constructor
  · rintro free _ ⟨labelled, named, given, filled, differs⟩
    exact differs (free _ (Metadata.owner?_eq_some_iff.mpr ⟨_, _, labelled, given, named, filled, rfl⟩))
  · intro domestic other owned
    obtain ⟨ns, name, labelled, given, named, filled, rfl⟩ := Metadata.owner?_eq_some_iff.mp owned
    exact Classical.byContradiction fun differs =>
      domestic _ (.intro labelled named given filled differs)

/-- What is decided about the spec of a copy of the stored SharedVolume: the result, the copy afterwards, and the
world that is left. -/
structure Decides (copy stored : SharedVolume) (world : World) (result : Except Failure Bool)
    (copy' : SharedVolume) (after : World) : Prop where
  volumes : after.volumes = world.volumes
  claims : after.claims = world.claims
  /-- A volume that is labelled for another owner is a collision, whatever it encodes. It is reported, if the copy
  is up to date, and nothing but the status and the version is written. -/
  collided {volume : PersistentVolume} {other : ObjectKey}
    (found : world.volumes.object? (volumeKey copy.key) = some volume) (foreign : Foreign copy.key volume other) :
    result = .error (.reconcileFailed (collisionText (volumeKey copy.key) other)) ∧
      (copy.metadata.resourceVersion ≠ stored.metadata.resourceVersion → copy' = copy ∧ after = world) ∧
      (copy.metadata.resourceVersion = stored.metadata.resourceVersion → ∃ status version,
        status.phase = some .failed ∧ status.message = collisionText (volumeKey copy.key) other ∧
          world.sharedVolumes.Puts after.sharedVolumes copy.key
            { stored with
              status := some status
              metadata := { stored.metadata with resourceVersion := version } })
  /-- Without a volume that encodes another spec, nothing is done. -/
  trusted
    (agrees : ∀ volume, world.volumes.object? (volumeKey copy.key) = some volume →
      (∀ other, ¬Foreign copy.key volume other) ∧
        ∀ spec, SharedVolumeSpec.ofVolume volume = .ok spec → copy.spec = spec) :
    result = .ok false ∧ copy' = copy ∧ after = world
  /-- Another spec is written over an up-to-date copy, and nothing else. -/
  reverted {volume : PersistentVolume} {spec : SharedVolumeSpec}
    (found : world.volumes.object? (volumeKey copy.key) = some volume)
    (free : ∀ other, ¬Foreign copy.key volume other) (reads : SharedVolumeSpec.ofVolume volume = .ok spec)
    (differs : copy.spec ≠ spec) (current : copy.metadata.resourceVersion = stored.metadata.resourceVersion) :
    result = .ok true ∧ ∃ version,
      copy' = { stored with spec, metadata := { stored.metadata with resourceVersion := version } } ∧
        world.sharedVolumes.Puts after.sharedVolumes copy.key copy'
  /-- Over an outdated copy nothing is written. -/
  refused {volume : PersistentVolume} {spec : SharedVolumeSpec}
    (found : world.volumes.object? (volumeKey copy.key) = some volume)
    (free : ∀ other, ¬Foreign copy.key volume other) (reads : SharedVolumeSpec.ofVolume volume = .ok spec)
    (differs : copy.spec ≠ spec) (outdated : copy.metadata.resourceVersion ≠ stored.metadata.resourceVersion) :
    result = .error (.conflict "SharedVolume" copy.key.name "the object has been modified") ∧
      copy' = copy ∧ after = world

namespace PassM

variable {copy stored updated : SharedVolume} {world : World} {text : String} {volume : PersistentVolume}
  {other : ObjectKey} {spec : SharedVolumeSpec}

/-! ## Writes over an outdated copy -/

private theorem still_replace_outdated (working : world.Working)
    (held : world.sharedVolumes.object? updated.key = some stored)
    (outdated : updated.metadata.resourceVersion ≠ stored.metadata.resourceVersion) :
    (PassM.replace updated).Still copy world
      (.error (.conflict "SharedVolume" updated.key.name "the object has been modified")) := by
  have refused : world.sharedVolumes.perform (.replace updated) =
      (.error (Store.conflict SharedVolume updated.key "the object has been modified"), world.sharedVolumes) :=
    Store.replace_of_outdated (working.sharedVolumes _) held outdated
  rw [Still, PassM.replace, meets_bind, meets_ofProgram, OperatorProgram.meets_onSharedVolumes,
    StoreProgram.meets_replace, refused]
  exact ⟨trivial, rfl, rfl, rfl⟩

/-- The report of a failure that cannot be written is passed over. -/
private theorem still_reportFailure_outdated (working : world.Working)
    (held : world.sharedVolumes.object? copy.key = some stored)
    (outdated : copy.metadata.resourceVersion ≠ stored.metadata.resourceVersion) :
    (reportFailure text).Still copy world (.ok ()) := by
  by_cases told : Says .failed text copy
  · rw [reportFailure, report_eq_tell]
    exact (still_tell_of_said told).bestEffort
  · have tells : Tells (report .failed text) _ _ := tells_report .failed text
    exact (still_iff.mpr (tells.outdated told (working.sharedVolumes _) held outdated)).bestEffort

/-! ## The cases -/

/-- Where the volume does not call for another spec, reverting does nothing. -/
theorem still_revertDrift (undrifted : Undrifted copy world.volumes) :
    revertDrift.Still copy world (.ok false) := by
  rw [Still, revertDrift, meets_bind, meets_get]
  simp only
  rw [meets_bind, meets_fetchVolume, Store.get_eq_ok_iff.mpr ⟨undrifted.readable, rfl⟩]
  refine ⟨trivial, ?_⟩
  cases found : world.volumes.object? (volumeKey copy.key) with
  | none => exact ⟨rfl, rfl, rfl⟩
  | some volume =>
    obtain ⟨free, agrees⟩ := undrifted.agrees volume found
    simp only [otherOwner?_eq_none_iff.mpr free]
    cases read : SharedVolumeSpec.ofVolume volume with
    | error fault => exact ⟨rfl, rfl, rfl⟩
    | ok spec =>
      simp only [agrees spec read, ↓reduceIte]
      exact ⟨rfl, rfl, rfl⟩

/-- With a volume of another owner, reverting is reporting the collision and failing with it. -/
theorem meets_revertDrift_of_foreign {wanted : Except Failure Bool → SharedVolume → World → Prop}
    (readable : world.volumes.failing .get = false) (found : world.volumes.object? (volumeKey copy.key) = some volume)
    (foreign : Foreign copy.key volume other) :
    revertDrift.Meets (fun _ _ => True) wanted copy world ↔
      (reportFailure (collisionText (volumeKey copy.key) other)).Meets (fun _ _ => True)
        (fun _ copy' after =>
          wanted (.error (.reconcileFailed (collisionText (volumeKey copy.key) other))) copy' after)
        copy world := by
  rw [revertDrift, meets_bind, meets_get]
  simp only
  rw [meets_bind, meets_fetchVolume, Store.get_eq_ok_iff.mpr ⟨readable, found⟩]
  simp only [otherOwner?_eq_some_iff.mpr foreign, true_and]
  rw [meets_bind, reportFailure, meets_bestEffort, meets_bestEffort]
  rfl

/-- With a volume that encodes another spec, reverting is writing that spec. -/
theorem meets_revertDrift_of_drifted {wanted : Except Failure Bool → SharedVolume → World → Prop}
    (readable : world.volumes.failing .get = false) (found : world.volumes.object? (volumeKey copy.key) = some volume)
    (free : FreeFor copy.key volume) (reads : SharedVolumeSpec.ofVolume volume = .ok spec)
    (differs : copy.spec ≠ spec) :
    revertDrift.Meets (fun _ _ => True) wanted copy world ↔
      (do PassM.replace { copy with spec }; return true : PassM Bool).Meets (fun _ _ => True) wanted copy
        world := by
  rw [revertDrift, meets_bind, meets_get]
  simp only
  rw [meets_bind, meets_fetchVolume, Store.get_eq_ok_iff.mpr ⟨readable, found⟩]
  simp only [otherOwner?_eq_none_iff.mpr free, reads, differs, ↓reduceIte, true_and]

/-- An up-to-date copy is the stored SharedVolume. -/
private theorem eq_of_current {history : List (Store.Event SharedVolume)} {first last : Nat}
    (order : first ≤ last) (read : (Store.moment history first).object? copy.key = some copy)
    (held : (Store.moment history last).object? copy.key = some stored)
    (current : copy.metadata.resourceVersion = stored.metadata.resourceVersion) : copy = stored := by
  obtain ⟨-, throughout⟩ := Store.object?_throughout order read held current
  exact Option.some.inj ((throughout last order (Nat.le_refl _)).symm.trans held)

/-- To put what is stored already is to leave all as it is. -/
private theorem puts_of_held (held : world.sharedVolumes.object? copy.key = some copy) :
    world.sharedVolumes.Puts world.sharedVolumes copy.key copy := by
  refine ⟨fun other => ?_, rfl⟩
  split
  · rename_i same
    rw [← same, held]
  · rfl

/-- A collision is reported over an up-to-date copy. -/
private theorem collided_of_held (working : world.Working)
    (found : world.volumes.object? (volumeKey copy.key) = some volume) (foreign : Foreign copy.key volume other)
    (held : world.sharedVolumes.object? copy.key = some copy) :
    revertDrift.Meets (fun _ _ => True) (fun result _ after =>
      result = .error (.reconcileFailed (collisionText (volumeKey copy.key) other)) ∧
        ∃ status version, status.phase = some .failed ∧
          status.message = collisionText (volumeKey copy.key) other ∧
          world.sharedVolumes.Puts after.sharedVolumes copy.key
            { copy with
              status := some status
              metadata := { copy.metadata with resourceVersion := version } }) copy world := by
  rw [meets_revertDrift_of_foreign (working.volumes _) found foreign]
  refine meets_reportFailure trivial held fun result copy' after reported => ⟨rfl, ?_⟩
  cases reported with
  | kept phase message =>
    cases given : copy.status with
    | none => simp [given] at phase
    | some status =>
      rw [given] at phase message
      refine ⟨status, copy.metadata.resourceVersion, phase, message, ?_⟩
      rw [← given]
      exact puts_of_held held
  | failed failure faulty => exact absurd faulty working.no_shared_fault
  | written puts => exact ⟨_, _, rfl, rfl, puts⟩

private theorem reverted_of_held (working : world.Working)
    (found : world.volumes.object? (volumeKey copy.key) = some volume) (free : FreeFor copy.key volume)
    (reads : SharedVolumeSpec.ofVolume volume = .ok spec) (differs : copy.spec ≠ spec)
    (held : world.sharedVolumes.object? copy.key = some copy) (stays : copy.isDeleting = false) :
    revertDrift.Meets (fun _ _ => True) (fun result copy' after =>
      result = .ok true ∧ ∃ version,
        copy' = { copy with spec, metadata := { copy.metadata with resourceVersion := version } } ∧
          world.sharedVolumes.Puts after.sharedVolumes copy.key copy') copy world := by
  rw [meets_revertDrift_of_drifted (working.volumes _) found free reads differs, meets_bind]
  have merged : Store.merged { copy with spec } copy = { copy with spec } := merged_eq_self rfl rfl
  refine meets_replace trivial held rfl rfl ?_ ?_ ?_
  · exact fun failure faulty => absurd faulty working.no_shared_fault
  · exact fun after finishes _ => absurd stays finishes.not_stays
  · intro after _ puts
    rw [merged] at puts ⊢
    exact ⟨rfl, _, rfl, puts⟩

private theorem collided_of_outdated (working : world.Working)
    (found : world.volumes.object? (volumeKey copy.key) = some volume) (foreign : Foreign copy.key volume other)
    (held : world.sharedVolumes.object? copy.key = some stored)
    (outdated : copy.metadata.resourceVersion ≠ stored.metadata.resourceVersion) :
    revertDrift.Still copy world
      (.error (.reconcileFailed (collisionText (volumeKey copy.key) other))) := by
  rw [Still, meets_revertDrift_of_foreign (working.volumes _) found foreign]
  exact (still_reportFailure_outdated working held outdated).imp fun _ _ _ still => ⟨rfl, still.2⟩

private theorem refused_of_outdated (working : world.Working)
    (found : world.volumes.object? (volumeKey copy.key) = some volume) (free : FreeFor copy.key volume)
    (reads : SharedVolumeSpec.ofVolume volume = .ok spec) (differs : copy.spec ≠ spec)
    (held : world.sharedVolumes.object? copy.key = some stored)
    (outdated : copy.metadata.resourceVersion ≠ stored.metadata.resourceVersion) :
    revertDrift.Still copy world
      (.error (.conflict "SharedVolume" copy.key.name "the object has been modified")) := by
  rw [Still, meets_revertDrift_of_drifted (working.volumes _) found free reads differs]
  have refused : (PassM.replace { copy with spec }).Still copy world
      (.error (.conflict "SharedVolume" copy.key.name "the object has been modified")) :=
    still_replace_outdated working held outdated
  exact refused.bind_error

/-- Reverting reads from the volumes and leaves the claims alone. -/
private theorem revertDrift_aside (copy : SharedVolume) (world : World) :
    revertDrift.Meets (fun _ _ => True)
      (fun _ _ after => after.volumes = world.volumes ∧ after.claims = world.claims) copy world := by
  have makes : revertDrift.Makes fun call =>
      (∃ request, call = .sharedVolumes request) ∨ ∃ key, call = .volumes (.get key) := by
    refine makes_get.bind fun shared => (makes_fetchVolume (.inr ⟨_, rfl⟩)).bind fun found => ?_
    rcases found with _ | volume
    · exact makes_pure false
    · simp only
      split
      · exact (makes_report fun _ _ => .inl ⟨_, rfl⟩).bestEffort.bind fun _ _ => trivial
      · split
        · exact makes_pure false
        · split
          · exact makes_pure false
          · exact (makes_replace (.inl ⟨_, rfl⟩)).bind fun _ => makes_pure true
  refine (Program.Makes.meets (makes copy) (fun _ _ _ => trivial) ?_ ⟨rfl, rfl⟩).imp fun _ _ kept => kept.2
  rintro state call kept (⟨request, rfl⟩ | ⟨key, rfl⟩)
  · exact kept
  · exact kept

/-- Without faults, what becomes of an edited spec is decided exactly, whatever the volumes are, and whether the
copy at hand is the stored SharedVolume or was read at an earlier moment. -/
theorem revertDrift_decides {history : List (Store.Event SharedVolume)} {first last : Nat}
    (order : first ≤ last) {world : World} (now : world.sharedVolumes = Store.moment history last)
    (working : world.Working) {copy stored : SharedVolume}
    (read : (Store.moment history first).object? copy.key = some copy)
    (held : world.sharedVolumes.object? copy.key = some stored) (stays : stored.isDeleting = false) :
    let ends := revertDrift.outcome copy world
    Decides copy stored world ends.1 ends.2.1 ends.2.2 := by
  have current (same : copy.metadata.resourceVersion = stored.metadata.resourceVersion) : copy = stored :=
    eq_of_current order read (now ▸ held) same
  intro ends
  constructor
  case volumes => exact (meets_iff_outcome.mp (revertDrift_aside copy world)).1
  case claims => exact (meets_iff_outcome.mp (revertDrift_aside copy world)).2
  case collided =>
    intro volume other found foreign
    by_cases same : copy.metadata.resourceVersion = stored.metadata.resourceVersion
    · obtain rfl := current same
      obtain ⟨result, reported⟩ := meets_iff_outcome.mp (collided_of_held working found foreign held)
      exact ⟨result, fun outdated => absurd rfl outdated, fun _ => reported⟩
    · obtain ⟨result, untouched⟩ := meets_iff_outcome.mp (collided_of_outdated working found foreign held same)
      exact ⟨result, fun _ => untouched, fun same' => absurd same' same⟩
  case trusted =>
    intro agrees
    have undrifted : Undrifted copy world.volumes :=
      ⟨working.volumes _, fun volume found => (agrees volume found).imp freeFor_iff.mpr id⟩
    exact meets_iff_outcome.mp (still_revertDrift undrifted)
  case reverted =>
    intro volume spec found free reads differs same
    obtain rfl := current same
    exact meets_iff_outcome.mp (reverted_of_held working found (freeFor_iff.mpr free) reads differs held stays)
  case refused =>
    intro volume spec found free reads differs outdated
    exact meets_iff_outcome.mp
      (refused_of_outdated working found (freeFor_iff.mpr free) reads differs held outdated)

/-- A SharedVolume as it was made, and after one edit and another of its spec. -/
def editedShared (moment : Nat) : SharedVolume where
  metadata := { name := some "a", ns := some "x", resourceVersion := some (toString moment) }
  spec := { fileSystemId := "fs-" ++ toString moment, accessPointId := "fsap-1" }

/-- The SharedVolume is made, and its spec is edited twice. -/
def editedHistory : List (Store.Event SharedVolume) :=
  [.insert (editedShared 1), .mutate (editedShared 1).key fun shared => { shared with spec := (editedShared 2).spec },
    .mutate (editedShared 1).key fun shared => { shared with spec := (editedShared 3).spec }]

/-- The world after the edits, with the volume that was made before them. -/
def editedWorld : World where
  sharedVolumes := Store.moment editedHistory 3
  volumes := (({} : Store PersistentVolume).insert (volumeDefinition (editedShared 1) {})).2

/-- In the world after the edits, a copy from before them is as the volume is, one from between them is outdated, and
the last one is reverted. -/
theorem revertDrift_decides_sample :
    (∀ n ∈ [1, 2, 3], (Store.moment editedHistory n).object? (editedShared n).key = some (editedShared n)) ∧
      (revertDrift.outcome (editedShared 1) editedWorld).1 = .ok false ∧
      (revertDrift.outcome (editedShared 2) editedWorld).1 =
        .error (.conflict "SharedVolume" "a" "the object has been modified") ∧
      (revertDrift.outcome (editedShared 3) editedWorld).1 = .ok true := by
  have reads : ∀ n ∈ [1, 2, 3],
      (Store.moment editedHistory n).object? (editedShared n).key = some (editedShared n) := by
    decide +kernel
  have working : editedWorld.Working := by
    constructor <;> intro operation <;> rfl
  let volume := ({} : Store PersistentVolume).stamp (volumeDefinition (editedShared 1) {})
  have found : editedWorld.volumes.object? (volumeKey (editedShared 1).key) = some volume := by decide +kernel
  have free : FreeFor (editedShared 1).key volume := by
    have owned : owner? volume = some (editedShared 1).key := by decide +kernel
    exact fun other labelled => Option.some.inj (labelled.symm.trans owned)
  have encodes : SharedVolumeSpec.ofVolume volume = .ok (editedShared 1).spec := by decide +kernel
  have decides (n : Nat) (listed : n ∈ [1, 2, 3]) (early : n ≤ 3) :=
    revertDrift_decides early rfl working (reads n listed) (reads 3 (by simp)) rfl
  refine ⟨reads, ?_, ?_, ?_⟩
  · refine ((decides 1 (by simp) (by omega)).trusted fun other found' => ?_).1
    obtain rfl : volume = other := Option.some.inj (found.symm.trans found')
    refine ⟨freeFor_iff.mp free, fun spec reads => ?_⟩
    exact Except.ok.inj (encodes.symm.trans reads)
  · exact ((decides 2 (by simp) (by omega)).refused found (freeFor_iff.mp free) encodes (by decide +kernel)
      (by decide +kernel)).1
  · exact ((decides 3 (by simp) (by omega)).reverted found (freeFor_iff.mp free) encodes (by decide +kernel)
      rfl).1

end PassM

end SharedMount
