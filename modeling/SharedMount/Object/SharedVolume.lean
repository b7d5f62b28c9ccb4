import SharedMount.Object.Resource

/-! # SharedVolumes

A SharedVolume asks for an access point of a shared file system to be mounted in its namespace. Its
spec names the file system and the access point; its status tells how far the operator has come. A
status and a reference to a claim are always written with all of their fields, so that writing one
over another leaves nothing of the other behind.
-/

namespace SharedMount

/-- The finalizer that keeps a SharedVolume until its volume and claim are cleaned up. -/
def cleanupFinalizer : String := "finalizer.awsefs.managed.openshift.io"

/-- The file system and the access point to be mounted. -/
structure SharedVolumeSpec where
  fileSystemId : String := ""
  accessPointId : String := ""
deriving DecidableEq, Inhabited, Repr

/-- How far the operator has come with a SharedVolume. -/
inductive Phase where
  /-- Noticed; the volume and the claim are being created. -/
  | pending
  /-- The volume and the claim are stored; the claim need not be bound yet. -/
  | ready
  /-- Deletion was requested; the volume and the claim are being removed. -/
  | deleting
  /-- Something went wrong; the message tells what. -/
  | failed
deriving DecidableEq, Inhabited, Repr

/-- The reference from a SharedVolume to its claim. -/
structure ClaimReference where
  kind : String := ""
  name : String := ""
  apiGroup : Option String := none
deriving DecidableEq, Inhabited, Repr

/-- What the operator reports of a SharedVolume. -/
structure SharedVolumeStatus where
  claimRef : Option ClaimReference := none
  phase : Option Phase := none
  message : String := ""
deriving DecidableEq, Inhabited, Repr

/-- A request to mount an access point in a namespace. -/
structure SharedVolume (M : Type := Metadata) where
  metadata : M
  spec : SharedVolumeSpec := {}
  status : Option SharedVolumeStatus := none
deriving DecidableEq, Inhabited

namespace Phase

/-- The name of a phase. -/
def name : Phase → String
  | pending => "Pending"
  | ready => "Ready"
  | deleting => "Deleting"
  | failed => "Failed"

/-- The phase of a name. -/
def ofName? : String → Option Phase
  | "Pending" => some pending
  | "Ready" => some ready
  | "Deleting" => some deleting
  | "Failed" => some failed
  | _ => none

@[simp] theorem ofName?_name (phase : Phase) : ofName? phase.name = some phase := by
  cases phase <;> rfl

end Phase

namespace SharedVolumeSpec

/-- Write the spec of a SharedVolume as a document. -/
def encode (spec : SharedVolumeSpec) : Json :=
  .obj [("accessPointID", .str spec.accessPointId), ("fileSystemID", .str spec.fileSystemId)]

/-- Read the spec of a SharedVolume from a document; both identifiers must be there. -/
def decode? (json : Json) : Option SharedVolumeSpec := do
  let fields ← json.recordFields 2 ["fileSystemID", "accessPointID"]
  return {
    fileSystemId := ← Json.requiredField "fileSystemID" Json.text? fields
    accessPointId := ← Json.requiredField "accessPointID" Json.text? fields }

end SharedVolumeSpec

namespace ClaimReference

/-- Write the reference to a claim as a document. -/
def encode (claim : ClaimReference) : Json :=
  .obj
    [("apiGroup", (claim.apiGroup.map .str).getD .null), ("kind", .str claim.kind),
      ("name", .str claim.name)]

/-- Read the reference to a claim from a document. -/
def decode? (json : Json) : Option ClaimReference := do
  let fields ← json.recordFields 0 ["kind", "name", "apiGroup"]
  return {
    kind := ← Json.fieldOr "" "kind" Json.text? fields
    name := ← Json.fieldOr "" "name" Json.text? fields
    apiGroup := ← Json.optionalField "apiGroup" Json.text? fields }

end ClaimReference

namespace SharedVolumeStatus

/-- Write the status of a SharedVolume as a document. -/
def encode (status : SharedVolumeStatus) : Json :=
  .obj
    [("claimRef", (status.claimRef.map ClaimReference.encode).getD .null),
      ("message", .str status.message),
      ("phase", (status.phase.map fun phase => .str phase.name).getD .null)]

/-- Read the status of a SharedVolume from a document. -/
def decode? (json : Json) : Option SharedVolumeStatus := do
  let fields ← json.recordFields 0 ["claimRef", "phase", "message"]
  let phase? (value : Json) : Option Phase := do Phase.ofName? (← value.word?)
  return {
    claimRef := ← Json.optionalField "claimRef" ClaimReference.decode? fields
    phase := ← Json.optionalField "phase" phase? fields
    message := ← Json.fieldOr "" "message" Json.text? fields }

end SharedVolumeStatus

namespace SharedVolume

/-- The identity of a SharedVolume, which is also the owner of its volume and claim. -/
def key (volume : SharedVolume) : ObjectKey :=
  volume.metadata.key

/-- The phase, if one was ever recorded. -/
def phase? (volume : SharedVolume) : Option Phase :=
  volume.status.bind (·.phase)

/-- Whether the operator has registered for cleanup. -/
def hasFinalizer (volume : SharedVolume) : Bool :=
  cleanupFinalizer ∈ volume.metadata.finalizerList

/-- Whether deletion has been requested. -/
def isDeleting (volume : SharedVolume) : Bool :=
  volume.metadata.isDeleting

section Document

variable {M : Type} [ObjectMeta M]

/-- Write a SharedVolume as a document. -/
def encode (volume : SharedVolume M) : Json :=
  .record
    [("apiVersion", some (.str "aws-efs.managed.openshift.io/v1alpha1")),
      ("kind", some (.str "SharedVolume")),
      ("metadata", some (ObjectMeta.encode volume.metadata)),
      ("spec", some volume.spec.encode),
      ("status", volume.status.map SharedVolumeStatus.encode)]

/-- Read a SharedVolume from a document; metadata and spec must be there. -/
def decode? (json : Json) : Option (SharedVolume M) := do
  let fields ← json.recordFields 3 ["metadata", "spec", "status"]
  return {
    metadata := ← Json.requiredField "metadata" ObjectMeta.decode? fields
    spec := ← Json.requiredField "spec" SharedVolumeSpec.decode? fields
    status := ← Json.optionalField "status" SharedVolumeStatus.decode? fields }

end Document

end SharedVolume

instance {M : Type} [ObjectMeta M] : ObjectKind (SharedVolume M) M where
  kind := "SharedVolume"
  blank := { metadata := ObjectMeta.blank }
  metadata := SharedVolume.metadata
  withMetadata volume metadata := { volume with metadata }
  encode := SharedVolume.encode
  decode? := SharedVolume.decode?

end SharedMount
