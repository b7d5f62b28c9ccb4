import Mathlib.Logic.Function.Basic
import SharedMount.Proofs.Codec.Objects
import SharedMount.Upkeep.Comparison

/-! # Comparisons see exactly what they compare

A comparison looks at the documents of two objects, and is to say something of the objects. Documents keep every part
under a name of its own, and each part is read back whole, so they are the same just where the objects are whole the
same: nothing is left out or filled in on the way but fractions of seconds, and nothing that is not compared shows.
-/

namespace SharedMount

open Json

/-- What is read back as it was written is not written alike for different values. -/
theorem Json.injective_of_reads {α : Type} {write : α → Json} {read : Json → Option α}
    (reads : ∀ value, read (write value) = some value) : Function.Injective write := by
  intro value other same
  have read := reads value
  rw [same, reads] at read
  exact (Option.some.inj read).symm

variable {K M P : Type} [ObjectKind K M]

/-- Two objects of a kind that are the same but for their metadata. -/
def Resource.SameOutsideMetadata (object other : K) : Prop :=
  Resource.withMetadata object (Resource.metadata other) = other

namespace Comparison

/-- What the two comparisons that look at an object say of the objects of a kind. Of its points in time an object has
in comparisons what is written of them, and `whole` cuts them to that. -/
structure Faithful (K : Type) {M P : Type} [ObjectKind K M] (whole : K → K) (spec : K → P) : Prop where
  ignoringMetadata (wanted stored : K) :
    Comparison.ignoringMetadata.agree wanted stored = true ↔
      Resource.SameOutsideMetadata (whole wanted) (whole stored)
  field (wanted stored : K) : (Comparison.field "spec").agree wanted stored = true ↔ spec wanted = spec stored
  /-- It makes no difference what becomes of the metadata of either object. -/
  unaffected {comparison : Comparison} (either : comparison = .ignoringMetadata ∨ comparison = .field "spec")
    (change otherChange : M → M) (wanted stored : K) :
    comparison.agree (Resource.mapMetadata change wanted) (Resource.mapMetadata otherChange stored) =
      comparison.agree wanted stored
  /-- An object whose metadata alone were changed has not drifted. -/
  undrifted {comparison : Comparison} (either : comparison = .ignoringMetadata ∨ comparison = .field "spec")
    (change : M → M) (object : K) : comparison.agree object (Resource.mapMetadata change object) = true

/-- A comparison that does not look at the metadata of either object says the same after any changes of them. -/
theorem agree_mapMetadata_mapMetadata
    (apart : ∀ (given : M) (object : K), (Resource.encode (Resource.withMetadata object given)).erase "metadata" =
      (Resource.encode object).erase "metadata")
    {comparison : Comparison} (either : comparison = .ignoringMetadata ∨ comparison = .field "spec")
    (change otherChange : M → M) (wanted stored : K) :
    comparison.agree (Resource.mapMetadata change wanted) (Resource.mapMetadata otherChange stored) =
      comparison.agree wanted stored := by
  rcases either with rfl | rfl
  · simp only [agree, Resource.mapMetadata, apart]
  · have kept (change : M → M) (object : K) : (Resource.encode (Resource.mapMetadata change object)).get? "spec" =
        (Resource.encode object).get? "spec" :=
      get?_eq_of_erase_eq (by decide) (apart ..)
    simp only [agree, kept]

/-- Comparisons are faithful if they are so to parts of objects, and metadata are written apart. -/
theorem Faithful.of_apart {whole : K → K} {spec : K → P}
    (apart : ∀ (given : M) (object : K), (Resource.encode (Resource.withMetadata object given)).erase "metadata" =
      (Resource.encode object).erase "metadata")
    (rest : ∀ wanted stored : K, (Resource.encode wanted).erase "metadata" = (Resource.encode stored).erase "metadata" ↔
      Resource.SameOutsideMetadata (whole wanted) (whole stored))
    (specs : ∀ wanted stored : K, (Resource.encode wanted).get? "spec" = (Resource.encode stored).get? "spec" ↔
      spec wanted = spec stored) : Faithful K whole spec where
  ignoringMetadata wanted stored := decide_eq_true_iff.trans (rest wanted stored)
  field wanted stored := decide_eq_true_iff.trans (specs wanted stored)
  unaffected := agree_mapMetadata_mapMetadata apart
  undrifted either change object := by
    have same := agree_mapMetadata_mapMetadata apart either id change object object
    rw [agree_self, Resource.mapMetadata, id, Resource.withMetadata_metadata] at same
    exact same

/-! ## SharedVolumes -/

/-- Comparisons of SharedVolumes look at spec and status, and so it does not matter how metadata are written. -/
theorem faithful_sharedVolume (M : Type) [ObjectMeta M] :
    Faithful (SharedVolume M) id (fun volume => volume.spec) := by
  have specs (wanted stored : SharedVolume M) :
      (Resource.encode wanted).get? "spec" = (Resource.encode stored).get? "spec" ↔ wanted.spec = stored.spec := by
    have written (volume : SharedVolume M) : (Resource.encode volume).get? "spec" = some volume.spec.encode := by
      rw [Json.get?, lookup_eq_head?_valuesOf]
      simp [Resource.encode, SharedVolume.encode]
    rw [written, written, Option.some_inj]
    exact (injective_of_reads SharedVolumeSpec.decode?_encode).eq_iff
  have apart := (SharedVolume.metadata_standsUnder (M := M) id).apart
  refine .of_apart apart (fun wanted stored => ⟨fun same => ?_, fun same => ?_⟩) specs
  · have spec := (specs wanted stored).mp (get?_eq_of_erase_eq (by decide) same)
    have status : wanted.status = stored.status := by
      have status := get?_eq_of_erase_eq (show "metadata" ≠ "status" by decide) same
      rw [SharedVolume.get?_status_encode, SharedVolume.get?_status_encode] at status
      exact Option.map_injective (injective_of_reads SharedVolumeStatus.decode?_encode) status
    change { wanted with metadata := stored.metadata } = stored
    rw [spec, status]
  · have same : Resource.withMetadata wanted (Resource.metadata stored) = stored := same
    rw [← same]
    exact (apart ..).symm

/-! ## Kinds of a codec -/

section Codec

variable {T : Type} {times : Times K T} {cut : T → T} {wholeMeta : M → M} {spec : Part K P}
  (codec : Codec K (times.map cut))
  (metadataUnder : (Resource.metadataPart K).StandsUnder (times.map cut) wholeMeta "metadata")

include codec metadataUnder

theorem faithful_of_codec (specUnder : spec.StandsUnder (times.map cut) id "spec") :
    Faithful K (times.map cut) spec.get := by
  refine .of_apart metadataUnder.apart (fun _ _ => metadataUnder.erase_eq_iff codec) fun wanted stored => ?_
  rw [specUnder.get?_eq_iff codec, specUnder.get_whole, specUnder.get_whole, id, id]

/-- Objects that differ in no point in time agree just where they are the same, but for their metadata. -/
theorem ignoringMetadata_iff_of_list_eq {wanted stored : K}
    (same : times.list (Resource.withMetadata wanted (Resource.metadata stored)) = times.list stored) :
    Comparison.ignoringMetadata.agree wanted stored = true ↔ Resource.SameOutsideMetadata wanted stored := by
  refine decide_eq_true_iff.trans ((metadataUnder.erase_eq_iff codec).trans ?_)
  rw [metadataUnder.get_whole, ← metadataUnder.whole_set]
  exact ⟨times.ext same, congrArg (times.map cut)⟩

end Codec

end Comparison

/-- Two things that may be absent are the same if both are absent, or both present and the same in each place. -/
theorem optional_eq_iff {α Place β : Type} (look : α → Place → Option β)
    (ext : ∀ value other, (∀ place, look value place = look other place) → value = other)
    {value other : Option α} :
    value = other ↔
      value.isSome = other.isSome ∧ ∀ place, value.bind (look · place) = other.bind (look · place) := by
  constructor
  · rintro rfl
    exact ⟨rfl, fun _ => rfl⟩
  · rintro ⟨present, entries⟩
    cases value <;> cases other
    · rfl
    · cases present
    · cases present
    · exact congrArg some (ext _ _ entries)

/-- Comparisons are faithful to the objects of every kind that is read back whole, with metadata and spec written each
under its name, and the spec without points in time. SharedVolumes are such a kind whatever is done about their
metadata. Objects that differ in fractions of seconds only do agree; where the points in time are the same, objects
agree just if they are the same but for their metadata. Within specs, what is absent is not the same as what is present
and empty, maps are the same if the same stands under each name, and lists if the same stands in each position. -/
theorem comparisons_are_faithful {K M P T : Type} [ObjectMeta M] [ObjectKind K M] {times : Times K T} {cut : T → T}
    {wholeMeta : M → M} {spec : Part K P} (codec : Codec K (times.map cut))
    (metadataUnder : (Resource.metadataPart K).StandsUnder (times.map cut) wholeMeta "metadata")
    (specUnder : spec.StandsUnder (times.map cut) id "spec") :
    Comparison.Faithful K (times.map cut) spec.get ∧
    (∀ wanted stored : K, times.list (Resource.withMetadata wanted (Resource.metadata stored)) = times.list stored →
      (Comparison.ignoringMetadata.agree wanted stored = true ↔ Resource.SameOutsideMetadata wanted stored)) ∧
    Comparison.Faithful (SharedVolume M) id (fun volume => volume.spec) ∧
    (∀ map other : Option TextMap, map = other ↔
      map.isSome = other.isSome ∧ ∀ name : String, map.bind (·[name]?) = other.bind (·[name]?)) ∧
    ∀ texts other : Option (List String), texts = other ↔
      texts.isSome = other.isSome ∧ ∀ position : Nat, texts.bind (·[position]?) = other.bind (·[position]?) :=
  ⟨Comparison.faithful_of_codec codec metadataUnder specUnder,
    fun _ _ => Comparison.ignoringMetadata_iff_of_list_eq codec metadataUnder, Comparison.faithful_sharedVolume M,
    fun _ _ => optional_eq_iff _ fun _ _ => Std.ExtTreeMap.ext_getElem?,
    fun _ _ => optional_eq_iff _ fun _ _ => List.ext_getElem?⟩

/-- The four kinds. A claim and a ConfigMap hold no points in time besides those of their metadata, and a ConfigMap has
no spec in which it could differ from another one. -/
theorem comparisons_are_faithful_to_kinds :
    Comparison.Faithful PersistentVolume PersistentVolume.whole (fun volume => volume.spec) ∧
    Comparison.Faithful PersistentVolumeClaim id (fun claim => claim.spec) ∧
    Comparison.Faithful SharedVolume id (fun volume => volume.spec) ∧
    Comparison.Faithful ConfigMap id (fun _ => ()) := by
  have volumes := comparisons_are_faithful PersistentVolume.codec PersistentVolume.metadata_standsUnder
    PersistentVolume.spec_standsUnder
  have whole (K : Type) [Resource K] : (Times.ofPart (Resource.metadataPart K) Metadata.times).map id = id :=
    Times.map_id _
  have claims := comparisons_are_faithful ((whole PersistentVolumeClaim).symm ▸ PersistentVolumeClaim.codec)
    ((whole PersistentVolumeClaim).symm ▸ PersistentVolumeClaim.metadata_standsUnder)
    ((whole PersistentVolumeClaim).symm ▸ PersistentVolumeClaim.spec_standsUnder)
  have maps := comparisons_are_faithful ((whole ConfigMap).symm ▸ ConfigMap.codec)
    ((whole ConfigMap).symm ▸ ConfigMap.metadata_standsUnder)
    ((whole ConfigMap).symm ▸ ConfigMap.noPart_standsUnder (by simp))
  rw [whole] at claims maps
  exact ⟨volumes.1, claims.1, volumes.2.2.1, maps.1⟩

/-- A map that is there and empty is not one that is not there. -/
example : Comparison.ignoringMetadata.agree ({ data := some ∅ } : ConfigMap) { data := none } = false := by
  decide +kernel

example : (Comparison.field "spec").agree ({ spec := some { accessModes := some ["a", "b"] } } : PersistentVolume)
    { spec := some { accessModes := some ["b", "a"] } } = false := by
  decide +kernel

/-- Volumes whose phases have changed at different times agree if it was in the same second. -/
theorem ignoringMetadata_overlooks_fractions :
    let volume? (time : String) : Option PersistentVolume :=
      Resource.decode? (.obj [("status", .obj [("lastPhaseTransitionTime", .str time)])])
    ∃ wanted stored, volume? "2024-01-01T00:00:00.25Z" = some wanted ∧
      volume? "2024-01-01T00:00:00.75Z" = some stored ∧
      Comparison.ignoringMetadata.agree wanted stored = true ∧ ¬Resource.SameOutsideMetadata wanted stored := by
  let volume (billionths : Fin 1000000000) : PersistentVolume :=
    { status := some { lastPhaseTransitionTime := some { second := markedTime, billionths } } }
  refine ⟨volume 250000000, volume 750000000, by decide +kernel, by decide +kernel, by decide +kernel, fun same => ?_⟩
  have status : (volume 250000000).status = (volume 750000000).status := congrArg PersistentVolume.status same
  exact absurd status (by decide +kernel)

end SharedMount
