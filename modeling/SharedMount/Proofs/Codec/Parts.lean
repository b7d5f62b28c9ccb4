import SharedMount.Proofs.Store.Writes
import SharedMount.Upkeep.Comparison

/-! # Parts of documents

Metadata and status each stand under a name of their own in the document of an object. `DocumentKind` says so
for a kind; then a change of the metadata is seen under no other name, and neither is an exchange of the
status. What a comparison says of two objects thus depends on the part only that it names.
-/

namespace SharedMount

/-- A kind whose documents keep metadata and status each under its own name. -/
class DocumentKind (K : Type) [Resource K] [StatusKind K] : Prop where
  erase_metadata (object : K) (given : Metadata) :
    (Resource.encode (Resource.withMetadata object given)).erase "metadata" =
      (Resource.encode object).erase "metadata"
  erase_status (object source : K) :
    (Resource.encode (StatusCarrier.takeStatus object source)).erase "status" =
      (Resource.encode object).erase "status"

instance : DocumentKind SharedVolume where
  erase_metadata volume given := (SharedVolume.metadata_standsUnder id).apart given volume
  erase_status := (SharedVolume.documented Metadata.readsBack).erase_status

instance : DocumentKind PersistentVolume where
  erase_metadata volume given := PersistentVolume.metadata_standsUnder.apart given volume
  erase_status := PersistentVolume.documented.erase_status

instance : DocumentKind PersistentVolumeClaim where
  erase_metadata claim given := PersistentVolumeClaim.metadata_standsUnder.apart given claim
  erase_status := PersistentVolumeClaim.documented.erase_status

instance : DocumentKind ConfigMap where
  erase_metadata map given := ConfigMap.metadata_standsUnder.apart given map
  erase_status := ConfigMap.documented.erase_status

namespace Resource

variable {K : Type} [Resource K] [StatusKind K] [DocumentKind K] {name : String}

theorem get?_encode_mapMetadata (differ : "metadata" ≠ name) (change : Metadata → Metadata) (object : K) :
    (encode (mapMetadata change object)).get? name = (encode object).get? name :=
  Json.get?_eq_of_erase_eq differ (DocumentKind.erase_metadata ..)

theorem get?_encode_takeStatus (differ : "status" ≠ name) (object source : K) :
    (encode (StatusCarrier.takeStatus object source)).get? name = (encode object).get? name :=
  Json.get?_eq_of_erase_eq differ (DocumentKind.erase_status ..)

/-- Writing over an object changes no field besides metadata and status. -/
theorem get?_encode_merged (metadata : "metadata" ≠ name) (status : "status" ≠ name) (object present : K) :
    (encode (Store.merged object present)).get? name = (encode object).get? name := by
  rw [Store.merged, withDeletionTime, get?_encode_mapMetadata metadata, get?_encode_takeStatus status]

end Resource

namespace Comparison

variable {K : Type} [Resource K]

/-- A comparison that does not look at the metadata does not notice a change of them. -/
theorem agree_mapMetadata [StatusKind K] [DocumentKind K] {comparison : Comparison}
    (differ : comparison ≠ .field "metadata") (change : Metadata → Metadata) (object : K) :
    comparison.agree (Resource.mapMetadata change object) object = true := by
  cases comparison with
  | always => rfl
  | ignoringMetadata => exact decide_eq_true (DocumentKind.erase_metadata ..)
  | field name =>
    have other : "metadata" ≠ name := fun same => differ (same ▸ rfl)
    exact decide_eq_true (Resource.get?_encode_mapMetadata other ..)

end Comparison

end SharedMount
