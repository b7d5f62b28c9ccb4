import SharedMount.Json.Basic
import SharedMount.Manifest.Yaml

/-! # The definition of the custom resource

The cluster has to be told of the kind SharedVolume before objects of it can be stored. Its definition
gives the names of the kind, the columns that are shown of its objects, and a schema that says what
they hold. Fields stand in the order of their names.
-/

namespace SharedMount.Manifest

/-- The schema of a text that may be absent. -/
def optionalTextSchema (description : String) : Json :=
  .obj [("description", .str description), ("nullable", .bool true), ("type", .str "string")]

/-- The schema of a text that is empty unless it is given. -/
def defaultTextSchema (description : String) : Json :=
  .obj [("default", .str ""), ("description", .str description), ("type", .str "string")]

/-- The schema of a text that has to match a pattern. -/
def patternSchema (description pattern : String) : Json :=
  .obj
    [("description", .str description), ("pattern", .str pattern), ("type", .str "string")]

/-- The schema of an object that may be absent and none of whose fields is required. -/
def optionalObjectSchema (description : String) (properties : List (String × Json)) : Json :=
  .obj
    [("description", .str description), ("nullable", .bool true), ("properties", .obj properties),
      ("type", .str "object")]

/-- A column shown of the objects of the kind. -/
def column (name path : String) : Json :=
  .obj [("jsonPath", .str path), ("name", .str name), ("type", .str "string")]

/-- The columns shown of SharedVolumes. -/
def columns : List Json :=
  [column "File System" ".spec.fileSystemID", column "Access Point" ".spec.accessPointID",
    column "Phase" ".status.phase", column "Claim" ".status.claimRef.name",
    column "Message" ".status.message"]

/-- What the spec of a SharedVolume is for. -/
def specDescription : String :=
  "\n\n".intercalate
    ["SharedVolume custom resource definition",
      "Both spec fields are immutable once the backing PersistentVolume exists. Edits made " ++
        "afterwards are reverted to the values encoded in the volume.",
      "```yaml apiVersion: aws-efs.managed.openshift.io/v1alpha1 kind: SharedVolume metadata: " ++
        "name: my-shared-volume namespace: my-project spec: fileSystemID: fs-0123cdef " ++
        "accessPointID: fsap-0123456789abcdef ```"]

/-- The schema of the spec of a SharedVolume. -/
def specSchema : Json :=
  .obj
    [("description", .str specDescription),
      ("properties", .obj
        [("accessPointID", patternSchema
            ("The ID of an EFS access point, e.g. `fsap-0123456789abcdef`. The volume is mounted " ++
              "at this access point. Required. Immutable.")
            "^fsap-[0-9a-f]+$"),
          ("fileSystemID", patternSchema
            "The ID of the EFS volume, e.g. `fs-0123cdef`. Required. Immutable."
            "^fs-[0-9a-f]+$")]),
      ("required", .arr [.str "accessPointID", .str "fileSystemID"]),
      ("type", .str "object")]

/-- What the status of a SharedVolume is for. -/
def statusDescription : String :=
  "\n\n".intercalate
    ["Status of the SharedVolume resource",
      "Every field is serialized, including empty ones, so that a merge patch of the status " ++
        "clears values left behind by an earlier phase."]

/-- The schema of the reference to a claim. -/
def claimReferenceSchema : Json :=
  optionalObjectSchema "The claim bound to the volume created for this SharedVolume"
    [("apiGroup", optionalTextSchema "API group of the claim; empty for the core group"),
      ("kind", defaultTextSchema "Always `PersistentVolumeClaim`"),
      ("name", defaultTextSchema "Name of the claim in the SharedVolume's namespace")]

/-- The schema of the phase. -/
def phaseSchema : Json :=
  .obj
    [("description", .str "Current phase; unset until the operator first notices the resource"),
      ("enum", .arr [.str "Pending", .str "Ready", .str "Deleting", .str "Failed"]),
      ("nullable", .bool true),
      ("type", .str "string")]

/-- The schema of the status of a SharedVolume. -/
def statusSchema : Json :=
  optionalObjectSchema statusDescription
    [("claimRef", claimReferenceSchema),
      ("message", defaultTextSchema
        "Human-readable detail, usually what went wrong in the Failed phase"),
      ("phase", phaseSchema)]

/-- The schema of a SharedVolume. -/
def resourceSchema : Json :=
  .obj
    [("description", .str
        "Auto-generated derived type for SharedVolumeSpec via `CustomResource`"),
      ("properties", .obj [("spec", specSchema), ("status", statusSchema)]),
      ("required", .arr [.str "spec"]),
      ("title", .str "SharedVolume"),
      ("type", .str "object")]

/-- The only version of the kind. -/
def version : Json :=
  .obj
    [("additionalPrinterColumns", .arr columns),
      ("name", .str "v1alpha1"),
      ("schema", .obj [("openAPIV3Schema", resourceSchema)]),
      ("served", .bool true),
      ("storage", .bool true),
      ("subresources", .obj [("status", .obj [])])]

/-- The names of the kind. -/
def names : Json :=
  .obj
    [("categories", .arr []), ("kind", .str "SharedVolume"), ("plural", .str "sharedvolumes"),
      ("shortNames", .arr [.str "sv"]), ("singular", .str "sharedvolume")]

/-- The definition of the kind SharedVolume. -/
def customResource : Json :=
  .obj
    [("apiVersion", .str "apiextensions.k8s.io/v1"),
      ("kind", .str "CustomResourceDefinition"),
      ("metadata", .obj [("name", .str "sharedvolumes.aws-efs.managed.openshift.io")]),
      ("spec", .obj
        [("group", .str "aws-efs.managed.openshift.io"),
          ("names", names),
          ("scope", .str "Namespaced"),
          ("versions", .arr [version])])]

/-- The definition as a text to be installed from. -/
def text : String :=
  Yaml.render customResource

end SharedMount.Manifest
