import SharedMount.Proofs.Codec.Objects
import SharedMount.Store.Basic

/-! # Exchanging the status inside a document

The store gives one object the status of another by way of their documents. Where a codec keeps its laws this never
fails, and it changes nothing but the status, except that the object is whole afterwards. `StatusCarrier` says so once,
and everything about the writes of a store rests on it and not on the documents.
-/

namespace SharedMount

variable {K M S : Type} [ObjectKind K M] {whole : K → K}

/-- By way of its document an object gets the status of another one, and becomes whole. -/
theorem Codec.withStatusOf_eq (codec : Codec K whole) {status : Part K S} {wholeStatus : S → S}
    (under : status.StandsUnder whole wholeStatus "status") (object source : K) :
    Store.withStatusOf object source = .ok (whole (status.set (status.get source) object)) := by
  have ordered := codec.ordered object
  have document : Resource.encode (status.set (status.get source) object) =
      (Resource.encode object).exchange "status" ((Resource.encode source).get? "status") :=
    (under.encode_set_get_eq_iff codec (ordered.exchange ..)).mpr
      ⟨ordered.erase_exchange .., by rw [ordered.get?_exchange, if_pos rfl]⟩
  rw [Store.withStatusOf, ← document, codec.reads]

/-- A kind for which the way through the documents comes to an exchange of the status. -/
class StatusCarrier (K : Type) {M : outParam Type} [ObjectMeta M] [ObjectKind K M] where
  /-- One object with the status of another. -/
  takeStatus (object source : K) : K
  key_takeStatus (object source : K) : Resource.key (takeStatus object source) = Resource.key object
  finalizerList_takeStatus (object source : K) :
    Resource.finalizerList (takeStatus object source) = Resource.finalizerList object
  withStatusOf_eq (object source : K) : Store.withStatusOf object source = .ok (takeStatus object source)

/-- A kind for which nothing but the status is different then. -/
class StatusKind (K : Type) [Resource K] extends StatusCarrier K where
  metadata_takeStatus (object source : K) :
    Resource.metadata (takeStatus object source) = Resource.metadata object

/-! ## Kinds of a codec -/

/-- What the store asks of the documents of a kind: a codec, and places for metadata and status. -/
structure Documented (K : Type) {M S : Type} [ObjectMeta M] [ObjectKind K M] (whole : K → K) (wholeMeta : M → M)
    (second : ObjectMeta.Time M → ObjectMeta.Time M) (status : Part K S) (wholeStatus : S → S) : Prop where
  codec : Codec K whole
  readsBack : ObjectMeta.ReadsBack wholeMeta second
  metadataUnder : (Resource.metadataPart K).StandsUnder whole wholeMeta "metadata"
  statusUnder : status.StandsUnder whole wholeStatus "status"
  /-- The status is no part of the metadata. -/
  apart (value : S) (given : M) (object : K) :
    status.set value (Resource.withMetadata object given) = Resource.withMetadata (status.set value object) given

namespace Documented

variable [ObjectMeta M] {wholeMeta : M → M} {second : ObjectMeta.Time M → ObjectMeta.Time M} {status : Part K S}
  {wholeStatus : S → S} (documented : Documented K whole wholeMeta second status wholeStatus)

include documented

theorem metadata_set (value : S) (object : K) :
    Resource.metadata (status.set value object) = Resource.metadata object := by
  have same := documented.apart value (Resource.metadata object) object
  rw [Resource.withMetadata_metadata] at same
  rw [same, Resource.metadata_withMetadata]

/-- Of the metadata, an object with the status of another one has its own, as far as they are written. -/
theorem metadata_whole_set (value : S) (object : K) :
    Resource.metadata (whole (status.set value object)) = wholeMeta (Resource.metadata object) :=
  (documented.metadataUnder.get_whole _).trans (congrArg wholeMeta (documented.metadata_set value object))

/-- The exchange of the status of a kind with a codec. -/
@[reducible]
def statusCarrier : StatusCarrier K where
  takeStatus object source := whole (status.set (status.get source) object)
  key_takeStatus object source := by
    rw [Resource.key, documented.metadata_whole_set, documented.readsBack.key_whole, Resource.key]
  finalizerList_takeStatus object source := by
    rw [Resource.finalizerList, documented.metadata_whole_set, documented.readsBack.finalizerList_whole,
      Resource.finalizerList]
  withStatusOf_eq := documented.codec.withStatusOf_eq documented.statusUnder

/-- Giving an object the status of another one leaves the rest of its document alone. -/
theorem erase_status (object source : K) :
    (Resource.encode (whole (status.set (status.get source) object))).erase "status" =
      (Resource.encode object).erase "status" := by
  rw [documented.codec.encode_whole, documented.statusUnder.apart]

end Documented

/-! ## The four kinds -/

theorem SharedVolume.documented [ObjectMeta M] {whole : M → M} {second : ObjectMeta.Time M → ObjectMeta.Time M}
    (readsBack : ObjectMeta.ReadsBack whole second) :
    Documented (SharedVolume M) (mapWhole whole) whole second statusPart id where
  codec := codec readsBack
  readsBack := readsBack
  metadataUnder := metadata_standsUnder whole
  statusUnder := status_standsUnder whole
  apart _ _ _ := rfl

theorem PersistentVolume.documented :
    Documented PersistentVolume PersistentVolume.whole id id statusPart (Option.map VolumeStatus.whole) where
  codec := codec
  readsBack := Metadata.readsBack
  metadataUnder := metadata_standsUnder
  statusUnder := status_standsUnder
  apart _ _ _ := rfl

theorem PersistentVolumeClaim.documented : Documented PersistentVolumeClaim id id id statusPart id where
  codec := codec
  readsBack := Metadata.readsBack
  metadataUnder := metadata_standsUnder
  statusUnder := status_standsUnder
  apart _ _ _ := rfl

theorem ConfigMap.documented : Documented ConfigMap id id id noPart id where
  codec := codec
  readsBack := Metadata.readsBack
  metadataUnder := metadata_standsUnder
  statusUnder := noPart_standsUnder (by simp)
  apart _ _ _ := rfl

instance : StatusKind SharedVolume where
  toStatusCarrier := (SharedVolume.documented Metadata.readsBack).statusCarrier
  metadata_takeStatus _ _ := rfl

instance : StatusKind PersistentVolume where
  toStatusCarrier := PersistentVolume.documented.statusCarrier
  metadata_takeStatus _ _ := rfl

instance : StatusKind PersistentVolumeClaim where
  toStatusCarrier := PersistentVolumeClaim.documented.statusCarrier
  metadata_takeStatus _ _ := rfl

instance : StatusKind ConfigMap where
  toStatusCarrier := ConfigMap.documented.statusCarrier
  metadata_takeStatus _ _ := rfl

end SharedMount
