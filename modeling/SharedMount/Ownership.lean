import SharedMount.Object.Resource

/-! # Ownership by labels

A PersistentVolume belongs to the whole cluster, so it cannot refer to an owner in a namespace. The
operator labels each volume and claim with the namespace and the name of the SharedVolume that it
belongs to, and with a marker of its own. Events about such an object are routed to its owner.
-/

namespace SharedMount

/-- The label that holds the namespace of the owner. -/
def ownerNamespaceLabel : String :=
  "openshift.io/aws-efs-operator-shared-volume-owner-namespace"

/-- The label that holds the name of the owner. -/
def ownerNameLabel : String :=
  "openshift.io/aws-efs-operator-shared-volume-owner-name"

/-- The label that marks the objects that the operator manages. -/
def managedLabel : String :=
  "openshift.io/aws-efs-operator-owned"

/-- The value of the managed label. -/
def managedValue : String := "true"

/-- The selector of all objects that the operator manages. -/
def managedSelector : String :=
  managedLabel ++ "=" ++ managedValue

namespace Metadata

/-- Add the marker of the operator. -/
def markManaged (metadata : Metadata) : Metadata :=
  metadata.setLabel managedLabel managedValue

/-- Whether the marker of the operator is there. -/
def isManaged (metadata : Metadata) : Bool :=
  metadata.label? managedLabel = some managedValue

/-- Label with an owner. -/
def linkOwner (metadata : Metadata) (owner : ObjectKey) : Metadata :=
  (metadata.setLabel ownerNamespaceLabel (owner.ns.getD "")).setLabel ownerNameLabel owner.name

/-- The owner that the labels name, if both parts are there and not empty. -/
def owner? (metadata : Metadata) : Option ObjectKey := do
  let ns ← (metadata.label? ownerNamespaceLabel).filter (· ≠ "")
  let name ← (metadata.label? ownerNameLabel).filter (· ≠ "")
  return .namespaced ns name

end Metadata

section Resource

variable {K : Type} [Resource K]

/-- Add the marker of the operator to an object. -/
def markManaged (object : K) : K :=
  Resource.mapMetadata Metadata.markManaged object

/-- Whether an object carries the marker of the operator. -/
def isManaged (object : K) : Bool :=
  (Resource.metadata object).isManaged

/-- Label an object with its owner. -/
def linkOwner (object : K) (owner : ObjectKey) : K :=
  Resource.mapMetadata (·.linkOwner owner) object

/-- The owner that the labels of an object name. -/
def owner? (object : K) : Option ObjectKey :=
  (Resource.metadata object).owner?

/-- The SharedVolume to be reconciled after an event about an object; an object without an owner
wakes nobody. -/
def route? (object : K) : Option ObjectKey :=
  owner? object

end Resource

end SharedMount
