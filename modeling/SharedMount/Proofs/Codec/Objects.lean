import SharedMount.Object.ConfigMap
import SharedMount.Object.PersistentVolume
import SharedMount.Object.PersistentVolumeClaim
import SharedMount.Object.SharedVolume
import SharedMount.Proofs.Codec.Laws
import SharedMount.Proofs.Codec.Timestamp

/-! # Objects are read back from their documents

Each part of an object is read back as it was written, and so are the objects of the four kinds; of a SharedVolume this
holds with any metadata that are read back, and as far as they are. Metadata, specs and statuses stand under names of
their own.
-/

namespace SharedMount

open Json

private theorem nullable_record {α : Type} (read : Json → Option α)
    (entries : List (String × Option Json)) :
    nullable read (record entries) = (read (record entries)).map some := rfl

private theorem object?_record (entries : List (String × Option Json)) :
    (record entries).object? = some (record entries).fields := rfl

namespace Metadata

theorem decode?_encode (metadata : Metadata) : decode? metadata.encode = some metadata := by
  have time (moment : Timestamp) : nullable time? (.str moment.text) = some (some moment) := by
    simp [nullable, time?, Timestamp.parse?_text]
  simp only [decode?, encode, object?_record, Option.bind_eq_bind, Option.bind_some]
  rw [optionalField_of_valuesOf .str metadata.name (by simp) (by simp),
    optionalField_of_valuesOf .str metadata.generateName (by simp) (by simp),
    optionalField_of_valuesOf .str metadata.ns (by simp) (by simp),
    optionalField_of_valuesOf .ofTextMap metadata.labels (by simp) (by simp),
    optionalField_of_valuesOf .ofTextMap metadata.annotations (by simp) (by simp),
    optionalField_of_valuesOf .ofTexts metadata.finalizers (by simp) (by simp),
    optionalField_of_valuesOf .str metadata.resourceVersion (by simp) (by simp),
    optionalField_of_valuesOf (fun moment : Timestamp => .str moment.text)
      metadata.deletionTimestamp (by simp) (fun moment _ => time moment)]
  rfl

private theorem nullable_decode?_encode (metadata : Metadata) :
    nullable decode? metadata.encode = some (some metadata) := by
  rw [encode, nullable_record, ← encode, decode?_encode]
  rfl

/-- The only point in time that metadata hold here. -/
def times : Times Metadata Timestamp :=
  .ofPart (ObjectMeta.deletionPart Metadata) (.ofOption Timestamp)

/-- Times are seconds here, so metadata are read back exactly. -/
theorem readsBack : ObjectMeta.ReadsBack (M := Metadata) id id where
  reads := decode?_encode
  encode_whole _ := rfl
  key_whole _ := rfl
  version?_whole _ := rfl
  finalizerList_whole _ := rfl
  whole_withDeletionTime time metadata := by rw [Option.map_id, id, id, id]

end Metadata

namespace SharedVolumeSpec

theorem decode?_encode (spec : SharedVolumeSpec) : decode? spec.encode = some spec := by
  simp [decode?, encode, recordFields, requiredField, field?]

end SharedVolumeSpec

namespace ClaimReference

theorem decode?_encode (claim : ClaimReference) : decode? claim.encode = some claim := by
  have fields : claim.encode.recordFields 0 ["kind", "name", "apiGroup"] =
      some claim.encode.fields := by
    simp [encode, recordFields, Json.fields]
  simp only [decode?, fields, Option.bind_eq_bind, Option.bind_some]
  rw [fieldOr_of_valuesOf (by simp [encode, Json.fields]) (text?_str claim.kind),
    fieldOr_of_valuesOf (by simp [encode, Json.fields]) (text?_str claim.name),
    optionalField_of_nullable .str claim.apiGroup
      (by simp [encode, Json.fields]) (by simp)]
  rfl

end ClaimReference

namespace SharedVolumeStatus

theorem decode?_encode (status : SharedVolumeStatus) : decode? status.encode = some status := by
  have fields : status.encode.recordFields 0 ["claimRef", "phase", "message"] =
      some status.encode.fields := by
    simp [encode, recordFields, Json.fields]
  have claim (reference : ClaimReference) :
      nullable ClaimReference.decode? reference.encode = some (some reference) :=
    congrArg (Option.map some) reference.decode?_encode
  simp only [decode?, fields, Option.bind_eq_bind, Option.bind_some]
  rw [optionalField_of_nullable ClaimReference.encode status.claimRef
      (by simp [encode, Json.fields]) (fun reference _ => claim reference),
    optionalField_of_nullable (fun phase : Phase => .str phase.name) status.phase
      (by simp [encode, Json.fields]) (by simp [nullable, word?]),
    fieldOr_of_valuesOf (by simp [encode, Json.fields]) (text?_str status.message)]
  rfl

private theorem nullable_decode?_encode (status : SharedVolumeStatus) :
    nullable decode? status.encode = some (some status) :=
  congrArg (Option.map some) status.decode?_encode

end SharedVolumeStatus

/-- A part of an object stands under a name if it is what a record has there. -/
private theorem Part.StandsUnder.of_record {K M P : Type} [ObjectKind K M] {whole : K → K} {part : Part K P}
    {wholePart : P → P} {name : String} (write : P → Option Json) {entries : K → List (String × Option Json)}
    (document : ∀ object, Resource.encode object = record (entries object))
    (written : ∀ object, (valuesOf name (record (entries object)).fields).head? = write (part.get object))
    (others : ∀ value object, ((entries (part.set value object)).filter fun entry => entry.1 ≠ name) =
      (entries object).filter fun entry => entry.1 ≠ name)
    (whole_set : ∀ value object, whole (part.set value object) = part.set (wholePart value) (whole object)) :
    part.StandsUnder whole wholePart name where
  told {object other} same := by
    rw [get?, get?, lookup_eq_head?_valuesOf, lookup_eq_head?_valuesOf, document, document, written, written, same]
  apart value object := by rw [document, document, erase_record, erase_record, others]
  whole_set := whole_set

/-! ## SharedVolumes -/

namespace SharedVolume

variable {M : Type} {whole : M → M}

/-- A SharedVolume with its metadata as they are read back. -/
def mapWhole (whole : M → M) (volume : SharedVolume M) : SharedVolume M :=
  { volume with metadata := whole volume.metadata }

def statusPart : Part (SharedVolume M) (Option SharedVolumeStatus) where
  get := status
  set status volume := { volume with status }

variable [ObjectMeta M]

/-- A SharedVolume is read back from the document that is written for it, as far as its metadata are. -/
theorem decode?_encode (reads : ∀ metadata : M, ObjectMeta.decode? (ObjectMeta.encode metadata) = some (whole metadata))
    (volume : SharedVolume M) : decode? volume.encode = some (volume.mapWhole whole) := by
  have status : valuesOf "status" volume.encode.fields = (volume.status.map SharedVolumeStatus.encode).toList := by
    simp [encode]
  have metadata : valuesOf "metadata" volume.encode.fields = [ObjectMeta.encode volume.metadata] := by simp [encode]
  have spec : valuesOf "spec" volume.encode.fields = [volume.spec.encode] := by simp [encode]
  have known : recordFields 3 ["metadata", "spec", "status"] volume.encode = some volume.encode.fields := by
    cases present : volume.status <;> simp [recordFields, encode, record, fields, present]
  simp only [decode?, known, Option.bind_eq_bind, Option.bind_some]
  rw [requiredField_of_valuesOf metadata (reads _), requiredField_of_valuesOf spec volume.spec.decode?_encode,
    optionalField_of_valuesOf _ _ status (fun status _ => status.nullable_decode?_encode)]
  rfl

/-- The part of a document that tells the status of a SharedVolume. -/
theorem get?_status_encode (volume : SharedVolume M) :
    (Resource.encode volume).get? "status" = volume.status.map SharedVolumeStatus.encode := by
  rw [Json.get?, Json.lookup_eq_head?_valuesOf]
  simp [Resource.encode, SharedVolume.encode]

theorem codec {second : ObjectMeta.Time M → ObjectMeta.Time M} (readsBack : ObjectMeta.ReadsBack whole second) :
    Codec (SharedVolume M) (mapWhole whole) where
  ordered _ := .record (show List.Pairwise (· < ·) ["apiVersion", "kind", "metadata", "spec", "status"] by decide)
  reads := decode?_encode readsBack.reads
  encode_whole volume := by
    change encode _ = encode _
    rw [encode, encode, mapWhole, readsBack.encode_whole]

theorem metadata_standsUnder (whole : M → M) :
    (Resource.metadataPart (SharedVolume M)).StandsUnder (mapWhole whole) whole "metadata" :=
  .of_record (fun metadata => some (ObjectMeta.encode metadata)) (fun _ => rfl)
    (by simp [Resource.metadataPart, Resource.metadata]) (fun _ _ => rfl) fun _ _ => rfl

theorem status_standsUnder (whole : M → M) : statusPart.StandsUnder (mapWhole whole) id "status" :=
  .of_record (fun status => status.map SharedVolumeStatus.encode) (fun _ => rfl) (by simp [statusPart])
    (fun _ _ => rfl) fun _ _ => rfl

end SharedVolume

/-! ## Core kinds -/

/-- A document of a core kind with the right values of the common fields has these fields. -/
private theorem coreFields?_of_valuesOf {kind : String} {fields : List (String × Json)}
    (version : valuesOf "apiVersion" fields = [.str "v1"])
    (named : valuesOf "kind" fields = [.str kind]) :
    Resource.coreFields? kind (.obj fields) = some fields := by
  simp [Resource.coreFields?, object?, version, named]

private theorem coreMetadata?_of_valuesOf {fields : List (String × Json)} {metadata : Metadata}
    (written : valuesOf "metadata" fields = [metadata.encode]) :
    Resource.coreMetadata? fields = some metadata := by
  rw [Resource.coreMetadata?, optionalField_of_valuesOf Metadata.encode (some metadata) written
    (fun metadata _ => metadata.nullable_decode?_encode)]
  rfl

namespace CsiSource

theorem decode?_encode (source : CsiSource) : decode? source.encode = some source := by
  simp only [decode?, encode, object?_record, Option.bind_eq_bind, Option.bind_some]
  rw [optionalField_of_valuesOf .str (some source.driver) (by simp) (by simp),
    optionalField_of_valuesOf .str (some source.volumeHandle)
      (by simp) (by simp),
    optionalField_of_valuesOf .bool source.readOnly (by simp) (by simp),
    optionalField_of_valuesOf .ofTextMap source.volumeAttributes
      (by simp) (by simp)]
  rfl

end CsiSource

namespace BoundClaim

theorem decode?_encode (claim : BoundClaim) : decode? claim.encode = some claim := by
  simp only [decode?, encode, object?_record, Option.bind_eq_bind, Option.bind_some]
  rw [optionalField_of_valuesOf .str claim.name (by simp) (by simp),
    optionalField_of_valuesOf .str claim.ns (by simp) (by simp)]
  rfl

end BoundClaim

namespace VolumeSpec

theorem decode?_encode (spec : VolumeSpec) : decode? spec.encode = some spec := by
  have claim (reference : BoundClaim) :
      nullable BoundClaim.decode? reference.encode = some (some reference) :=
    congrArg (Option.map some) reference.decode?_encode
  have csi (source : CsiSource) : nullable CsiSource.decode? source.encode = some (some source) :=
    congrArg (Option.map some) source.decode?_encode
  simp only [decode?, encode, object?_record, Option.bind_eq_bind, Option.bind_some]
  rw [optionalField_of_valuesOf .ofTexts spec.accessModes (by simp) (by simp),
    optionalField_of_valuesOf .ofTextMap spec.capacity (by simp) (by simp),
    optionalField_of_valuesOf BoundClaim.encode spec.claimRef (by simp)
      (fun reference _ => claim reference),
    optionalField_of_valuesOf CsiSource.encode spec.csi (by simp)
      (fun source _ => csi source),
    optionalField_of_valuesOf .ofTexts spec.mountOptions (by simp) (by simp),
    optionalField_of_valuesOf .str spec.reclaimPolicy (by simp) (by simp),
    optionalField_of_valuesOf .str spec.storageClassName (by simp) (by simp),
    optionalField_of_valuesOf .str spec.volumeMode (by simp) (by simp)]
  rfl

end VolumeSpec

namespace VolumeStatus

/-- The only point in time that the status of a volume holds. -/
def times : Times VolumeStatus Moment :=
  .ofPart
    { get := lastPhaseTransitionTime, set := fun time status => { status with lastPhaseTransitionTime := time } }
    (.ofOption Moment)

/-- The status with its point in time cut to the second. -/
abbrev whole : VolumeStatus → VolumeStatus :=
  times.map Moment.whole

theorem decode?_encode (status : VolumeStatus) : decode? status.encode = some (whole status) := by
  have time (moment : Moment) : nullable moment? (.str moment.text) = some (some moment.whole) := by
    simp [nullable, moment?, Moment.parse?_text]
  simp only [decode?, encode, object?_record, Option.bind_eq_bind, Option.bind_some]
  rw [optionalField_map_of_valuesOf (fun moment : Moment => .str moment.text) Moment.whole
      status.lastPhaseTransitionTime (by simp) (fun moment _ => time moment),
    optionalField_of_valuesOf .str status.message (by simp) (by simp),
    optionalField_of_valuesOf .str status.phase (by simp) (by simp),
    optionalField_of_valuesOf .str status.reason (by simp) (by simp)]
  rfl

theorem encode_whole (status : VolumeStatus) : encode (whole status) = encode status := by
  obtain ⟨_ | time, message, phase, reason⟩ := status <;> rfl

end VolumeStatus

namespace PersistentVolume

def specPart : Part PersistentVolume (Option VolumeSpec) where
  get := spec
  set spec volume := { volume with spec }

def statusPart : Part PersistentVolume (Option VolumeStatus) where
  get := status
  set status volume := { volume with status }

/-- The points in time of a volume, besides those of its metadata, are those of its status. -/
def times : Times PersistentVolume Moment :=
  .ofPart statusPart (VolumeStatus.times.option)

/-- A volume as it is read back, with its point in time cut to the second. -/
abbrev whole : PersistentVolume → PersistentVolume :=
  times.map Moment.whole

/-- A volume is read back from the document that is written for it, to the second. -/
theorem decode?_encode (volume : PersistentVolume) : decode? volume.encode = some (whole volume) := by
  have version : valuesOf "apiVersion" volume.encode.fields = [.str "v1"] := by simp [encode]
  have kind : valuesOf "kind" volume.encode.fields = [.str "PersistentVolume"] := by simp [encode]
  have known : Resource.coreFields? "PersistentVolume" volume.encode = some volume.encode.fields :=
    coreFields?_of_valuesOf version kind
  have metadata : Resource.coreMetadata? volume.encode.fields = some volume.metadata :=
    coreMetadata?_of_valuesOf (by simp [encode])
  simp only [decode?, known, metadata, Option.bind_eq_bind, Option.bind_some]
  rw [optionalField_of_valuesOf VolumeSpec.encode volume.spec (by simp [encode])
      (fun spec _ => congrArg (Option.map some) spec.decode?_encode),
    optionalField_map_of_valuesOf VolumeStatus.encode VolumeStatus.whole volume.status (by simp [encode])
      (fun status _ => congrArg (Option.map some) status.decode?_encode)]
  rfl

theorem codec : Codec PersistentVolume whole where
  ordered _ := .record (show List.Pairwise (· < ·) ["apiVersion", "kind", "metadata", "spec", "status"] by decide)
  reads := decode?_encode
  encode_whole volume := by
    have status : (volume.status.map VolumeStatus.whole).map VolumeStatus.encode =
        volume.status.map VolumeStatus.encode := by
      rw [Option.map_map]
      exact congrArg (volume.status.map ·) (funext VolumeStatus.encode_whole)
    exact congrArg (fun status => Json.record [_, _, _, _, ("status", status)]) status

theorem metadata_standsUnder : (Resource.metadataPart PersistentVolume).StandsUnder whole id "metadata" :=
  .of_record (fun metadata => some metadata.encode) (fun _ => rfl)
    (by simp [Resource.metadataPart, Resource.metadata]) (fun _ _ => rfl) fun _ _ => rfl

theorem spec_standsUnder : specPart.StandsUnder whole id "spec" :=
  .of_record (fun spec => spec.map VolumeSpec.encode) (fun _ => rfl) (by simp [specPart]) (fun _ _ => rfl)
    fun _ _ => rfl

theorem status_standsUnder : statusPart.StandsUnder whole (Option.map VolumeStatus.whole) "status" :=
  .of_record (fun status => status.map VolumeStatus.encode) (fun _ => rfl) (by simp [statusPart])
    (fun _ _ => rfl) fun _ _ => rfl

end PersistentVolume

namespace ClaimResources

theorem decode?_encode (resources : ClaimResources) :
    decode? resources.encode = some resources := by
  simp only [decode?, encode, object?_record, Option.bind_eq_bind, Option.bind_some]
  rw [optionalField_of_valuesOf .ofTextMap resources.requests
      (by simp) (by simp),
    optionalField_of_valuesOf .ofTextMap resources.limits (by simp) (by simp)]
  rfl

end ClaimResources

namespace ClaimSpec

theorem decode?_encode (spec : ClaimSpec) : decode? spec.encode = some spec := by
  have resources (amounts : ClaimResources) :
      nullable ClaimResources.decode? amounts.encode = some (some amounts) :=
    congrArg (Option.map some) amounts.decode?_encode
  simp only [decode?, encode, object?_record, Option.bind_eq_bind, Option.bind_some]
  rw [optionalField_of_valuesOf .ofTexts spec.accessModes (by simp) (by simp),
    optionalField_of_valuesOf ClaimResources.encode spec.resources (by simp)
      (fun amounts _ => resources amounts),
    optionalField_of_valuesOf .str spec.storageClassName (by simp) (by simp),
    optionalField_of_valuesOf .str spec.volumeMode (by simp) (by simp),
    optionalField_of_valuesOf .str spec.volumeName (by simp) (by simp)]
  rfl

end ClaimSpec

namespace ClaimStatus

theorem decode?_encode (status : ClaimStatus) : decode? status.encode = some status := by
  simp only [decode?, encode, object?_record, Option.bind_eq_bind, Option.bind_some]
  rw [optionalField_of_valuesOf .str status.phase (by simp) (by simp)]
  rfl

end ClaimStatus

namespace PersistentVolumeClaim

/-- A claim is read back from the document that is written for it. -/
theorem decode?_encode (claim : PersistentVolumeClaim) : decode? claim.encode = some claim := by
  have version : valuesOf "apiVersion" claim.encode.fields = [.str "v1"] := by simp [encode]
  have kind : valuesOf "kind" claim.encode.fields = [.str "PersistentVolumeClaim"] := by simp [encode]
  have known : Resource.coreFields? "PersistentVolumeClaim" claim.encode = some claim.encode.fields :=
    coreFields?_of_valuesOf version kind
  have metadata : Resource.coreMetadata? claim.encode.fields = some claim.metadata :=
    coreMetadata?_of_valuesOf (by simp [encode])
  simp only [decode?, known, metadata, Option.bind_eq_bind, Option.bind_some]
  rw [optionalField_of_valuesOf ClaimSpec.encode claim.spec (by simp [encode])
      (fun spec _ => congrArg (Option.map some) spec.decode?_encode),
    optionalField_of_valuesOf ClaimStatus.encode claim.status (by simp [encode])
      (fun status _ => congrArg (Option.map some) status.decode?_encode)]
  rfl

def specPart : Part PersistentVolumeClaim (Option ClaimSpec) where
  get := spec
  set spec claim := { claim with spec }

def statusPart : Part PersistentVolumeClaim (Option ClaimStatus) where
  get := status
  set status claim := { claim with status }

theorem codec : Codec PersistentVolumeClaim id where
  ordered _ := .record (show List.Pairwise (· < ·) ["apiVersion", "kind", "metadata", "spec", "status"] by decide)
  reads := decode?_encode
  encode_whole _ := rfl

theorem metadata_standsUnder : (Resource.metadataPart PersistentVolumeClaim).StandsUnder id id "metadata" :=
  .of_record (fun metadata => some metadata.encode) (fun _ => rfl)
    (by simp [Resource.metadataPart, Resource.metadata]) (fun _ _ => rfl) fun _ _ => rfl

theorem spec_standsUnder : specPart.StandsUnder id id "spec" :=
  .of_record (fun spec => spec.map ClaimSpec.encode) (fun _ => rfl) (by simp [specPart]) (fun _ _ => rfl)
    fun _ _ => rfl

theorem status_standsUnder : statusPart.StandsUnder id id "status" :=
  .of_record (fun status => status.map ClaimStatus.encode) (fun _ => rfl) (by simp [statusPart])
    (fun _ _ => rfl) fun _ _ => rfl

end PersistentVolumeClaim

/-- The part of a document that the unit for a claim compares. -/
theorem PersistentVolumeClaim.get?_spec_encode (claim : PersistentVolumeClaim) :
    (Resource.encode claim).get? "spec" = claim.spec.map ClaimSpec.encode := by
  rw [Json.get?, Json.lookup_eq_head?_valuesOf]
  simp [Resource.encode, PersistentVolumeClaim.encode]

namespace ConfigMap

/-- A ConfigMap is read back from the document that is written for it. -/
theorem decode?_encode (map : ConfigMap) : decode? map.encode = some map := by
  have version : valuesOf "apiVersion" map.encode.fields = [.str "v1"] := by simp [encode]
  have kind : valuesOf "kind" map.encode.fields = [.str "ConfigMap"] := by simp [encode]
  have known : Resource.coreFields? "ConfigMap" map.encode = some map.encode.fields :=
    coreFields?_of_valuesOf version kind
  have metadata : Resource.coreMetadata? map.encode.fields = some map.metadata :=
    coreMetadata?_of_valuesOf (by simp [encode])
  simp only [decode?, known, metadata, Option.bind_eq_bind, Option.bind_some]
  rw [optionalField_of_valuesOf ofTextMap map.data (by simp [encode]) (by simp),
    optionalField_of_valuesOf .bool map.immutable (by simp [encode]) (by simp)]
  rfl

/-- A ConfigMap has neither spec nor status; as a part of it, either is empty. -/
def noPart : Part ConfigMap Unit where
  get _ := ()
  set _ map := map

theorem codec : Codec ConfigMap id where
  ordered _ := .record (show List.Pairwise (· < ·) ["apiVersion", "data", "immutable", "kind", "metadata"] by decide)
  reads := decode?_encode
  encode_whole _ := rfl

theorem metadata_standsUnder : (Resource.metadataPart ConfigMap).StandsUnder id id "metadata" :=
  .of_record (fun metadata => some metadata.encode) (fun _ => rfl)
    (by simp [Resource.metadataPart, Resource.metadata]) (fun _ _ => rfl) fun _ _ => rfl

theorem noPart_standsUnder {name : String} (free : name ∈ ["spec", "status"]) : noPart.StandsUnder id id name := by
  refine .of_record (fun _ => none) (fun _ => rfl) (fun map => ?_) (fun _ _ => rfl) fun _ _ => rfl
  rcases List.mem_cons.mp free with rfl | free
  · simp
  · obtain rfl := List.mem_singleton.mp free
    simp

end ConfigMap

end SharedMount
