import SharedMount.Object.Resource

/-! # PersistentVolumeClaims

A PersistentVolumeClaim asks for storage in one namespace; pods mount the claim. Ours name the volume
that they want.
-/

namespace SharedMount

/-- Amounts of resources that a claim asks for. -/
structure ClaimResources where
  requests : Option TextMap := none
  limits : Option TextMap := none
deriving DecidableEq, Inhabited

/-- What is wanted of a claim. -/
structure ClaimSpec where
  accessModes : Option (List String) := none
  resources : Option ClaimResources := none
  storageClassName : Option String := none
  volumeMode : Option String := none
  volumeName : Option String := none
deriving DecidableEq, Inhabited

/-- What the cluster reports of a claim. -/
structure ClaimStatus where
  phase : Option String := none
deriving DecidableEq, Inhabited

/-- A request for storage in a namespace. -/
structure PersistentVolumeClaim where
  metadata : Metadata := {}
  spec : Option ClaimSpec := none
  status : Option ClaimStatus := none
deriving DecidableEq, Inhabited

namespace ClaimResources

/-- Write amounts of resources as a document. -/
def encode (resources : ClaimResources) : Json :=
  .record
    [("limits", resources.limits.map .ofTextMap), ("requests", resources.requests.map .ofTextMap)]

/-- Read amounts of resources from a document. -/
def decode? (json : Json) : Option ClaimResources := do
  let fields ← json.object?
  return {
    requests := ← Json.optionalField "requests" Json.textMap? fields
    limits := ← Json.optionalField "limits" Json.textMap? fields }

end ClaimResources

namespace ClaimSpec

/-- Write the spec of a claim as a document. -/
def encode (spec : ClaimSpec) : Json :=
  .record
    [("accessModes", spec.accessModes.map .ofTexts),
      ("resources", spec.resources.map ClaimResources.encode),
      ("storageClassName", spec.storageClassName.map .str),
      ("volumeMode", spec.volumeMode.map .str),
      ("volumeName", spec.volumeName.map .str)]

/-- Read the spec of a claim from a document. -/
def decode? (json : Json) : Option ClaimSpec := do
  let fields ← json.object?
  return {
    accessModes := ← Json.optionalField "accessModes" Json.texts? fields
    resources := ← Json.optionalField "resources" ClaimResources.decode? fields
    storageClassName := ← Json.optionalField "storageClassName" Json.text? fields
    volumeMode := ← Json.optionalField "volumeMode" Json.text? fields
    volumeName := ← Json.optionalField "volumeName" Json.text? fields }

end ClaimSpec

namespace ClaimStatus

/-- Write the status of a claim as a document. -/
def encode (status : ClaimStatus) : Json :=
  .record [("phase", status.phase.map .str)]

/-- Read the status of a claim from a document. -/
def decode? (json : Json) : Option ClaimStatus := do
  let fields ← json.object?
  return { phase := ← Json.optionalField "phase" Json.text? fields }

end ClaimStatus

namespace PersistentVolumeClaim

/-- Write a claim as a document. -/
def encode (claim : PersistentVolumeClaim) : Json :=
  .record
    [("apiVersion", some (.str "v1")),
      ("kind", some (.str "PersistentVolumeClaim")),
      ("metadata", some claim.metadata.encode),
      ("spec", claim.spec.map ClaimSpec.encode),
      ("status", claim.status.map ClaimStatus.encode)]

/-- Read a claim from a document. -/
def decode? (json : Json) : Option PersistentVolumeClaim := do
  let fields ← Resource.coreFields? "PersistentVolumeClaim" json
  return {
    metadata := ← Resource.coreMetadata? fields
    spec := ← Json.optionalField "spec" ClaimSpec.decode? fields
    status := ← Json.optionalField "status" ClaimStatus.decode? fields }

end PersistentVolumeClaim

instance : Resource PersistentVolumeClaim where
  kind := "PersistentVolumeClaim"
  blank := {}
  metadata := PersistentVolumeClaim.metadata
  withMetadata claim metadata := { claim with metadata }
  encode := PersistentVolumeClaim.encode
  decode? := PersistentVolumeClaim.decode?

end SharedMount
