import SharedMount.Object.Resource

/-! # PersistentVolumes

A PersistentVolume is a piece of storage of the whole cluster. Ours are served by a CSI driver,
which finds the storage by the volume handle.
-/

namespace SharedMount

/-- The storage behind a volume: a driver, and the handle by which the driver knows it. -/
structure CsiSource where
  driver : String := ""
  volumeHandle : String := ""
  readOnly : Option Bool := none
  volumeAttributes : Option TextMap := none
deriving DecidableEq, Inhabited

/-- The claim that a volume is bound to. -/
structure BoundClaim where
  name : Option String := none
  ns : Option String := none
deriving DecidableEq, Inhabited

/-- What is wanted of a volume. -/
structure VolumeSpec where
  accessModes : Option (List String) := none
  capacity : Option TextMap := none
  claimRef : Option BoundClaim := none
  csi : Option CsiSource := none
  mountOptions : Option (List String) := none
  reclaimPolicy : Option String := none
  storageClassName : Option String := none
  volumeMode : Option String := none
deriving DecidableEq, Inhabited

/-- What the cluster reports of a volume. -/
structure VolumeStatus where
  lastPhaseTransitionTime : Option Moment := none
  message : Option String := none
  phase : Option String := none
  reason : Option String := none
deriving DecidableEq, Inhabited

/-- A piece of storage of the cluster. -/
structure PersistentVolume where
  metadata : Metadata := {}
  spec : Option VolumeSpec := none
  status : Option VolumeStatus := none
deriving DecidableEq, Inhabited

namespace CsiSource

/-- Write a CSI source as a document; driver and handle are always written. -/
def encode (source : CsiSource) : Json :=
  .record
    [("driver", some (.str source.driver)),
      ("readOnly", source.readOnly.map .bool),
      ("volumeAttributes", source.volumeAttributes.map .ofTextMap),
      ("volumeHandle", some (.str source.volumeHandle))]

/-- Read a CSI source from a document; a missing driver or handle is empty. -/
def decode? (json : Json) : Option CsiSource := do
  let fields ← json.object?
  return {
    driver := (← Json.optionalField "driver" Json.text? fields).getD ""
    volumeHandle := (← Json.optionalField "volumeHandle" Json.text? fields).getD ""
    readOnly := ← Json.optionalField "readOnly" Json.flag? fields
    volumeAttributes := ← Json.optionalField "volumeAttributes" Json.textMap? fields }

end CsiSource

namespace BoundClaim

/-- Write the reference to a claim as a document. -/
def encode (claim : BoundClaim) : Json :=
  .record [("name", claim.name.map .str), ("namespace", claim.ns.map .str)]

/-- Read the reference to a claim from a document. -/
def decode? (json : Json) : Option BoundClaim := do
  let fields ← json.object?
  return {
    name := ← Json.optionalField "name" Json.text? fields
    ns := ← Json.optionalField "namespace" Json.text? fields }

end BoundClaim

namespace VolumeSpec

/-- Write the spec of a volume as a document. -/
def encode (spec : VolumeSpec) : Json :=
  .record
    [("accessModes", spec.accessModes.map .ofTexts),
      ("capacity", spec.capacity.map .ofTextMap),
      ("claimRef", spec.claimRef.map BoundClaim.encode),
      ("csi", spec.csi.map CsiSource.encode),
      ("mountOptions", spec.mountOptions.map .ofTexts),
      ("persistentVolumeReclaimPolicy", spec.reclaimPolicy.map .str),
      ("storageClassName", spec.storageClassName.map .str),
      ("volumeMode", spec.volumeMode.map .str)]

/-- Read the spec of a volume from a document. -/
def decode? (json : Json) : Option VolumeSpec := do
  let fields ← json.object?
  return {
    accessModes := ← Json.optionalField "accessModes" Json.texts? fields
    capacity := ← Json.optionalField "capacity" Json.textMap? fields
    claimRef := ← Json.optionalField "claimRef" BoundClaim.decode? fields
    csi := ← Json.optionalField "csi" CsiSource.decode? fields
    mountOptions := ← Json.optionalField "mountOptions" Json.texts? fields
    reclaimPolicy := ← Json.optionalField "persistentVolumeReclaimPolicy" Json.text? fields
    storageClassName := ← Json.optionalField "storageClassName" Json.text? fields
    volumeMode := ← Json.optionalField "volumeMode" Json.text? fields }

end VolumeSpec

namespace VolumeStatus

/-- Write the status of a volume as a document. -/
def encode (status : VolumeStatus) : Json :=
  .record
    [("lastPhaseTransitionTime", status.lastPhaseTransitionTime.map fun moment => .str moment.text),
      ("message", status.message.map .str),
      ("phase", status.phase.map .str),
      ("reason", status.reason.map .str)]

/-- Read a point in time from a document. -/
def moment? (json : Json) : Option Moment := do
  Moment.parse? (← json.text?)

/-- Read the status of a volume from a document. -/
def decode? (json : Json) : Option VolumeStatus := do
  let fields ← json.object?
  return {
    lastPhaseTransitionTime := ← Json.optionalField "lastPhaseTransitionTime" moment? fields
    message := ← Json.optionalField "message" Json.text? fields
    phase := ← Json.optionalField "phase" Json.text? fields
    reason := ← Json.optionalField "reason" Json.text? fields }

end VolumeStatus

namespace PersistentVolume

/-- Write a volume as a document. -/
def encode (volume : PersistentVolume) : Json :=
  .record
    [("apiVersion", some (.str "v1")),
      ("kind", some (.str "PersistentVolume")),
      ("metadata", some volume.metadata.encode),
      ("spec", volume.spec.map VolumeSpec.encode),
      ("status", volume.status.map VolumeStatus.encode)]

/-- Read a volume from a document. -/
def decode? (json : Json) : Option PersistentVolume := do
  let fields ← Resource.coreFields? "PersistentVolume" json
  return {
    metadata := ← Resource.coreMetadata? fields
    spec := ← Json.optionalField "spec" VolumeSpec.decode? fields
    status := ← Json.optionalField "status" VolumeStatus.decode? fields }

end PersistentVolume

instance : Resource PersistentVolume where
  kind := "PersistentVolume"
  blank := {}
  metadata := PersistentVolume.metadata
  withMetadata volume metadata := { volume with metadata }
  encode := PersistentVolume.encode
  decode? := PersistentVolume.decode?

end SharedMount
