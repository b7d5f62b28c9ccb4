import SharedMount.Json.Decode
import SharedMount.Object.ObjectMeta
import SharedMount.Object.Timestamp

/-! # Metadata of objects

Every object of the cluster carries metadata: its identity, its labels, the version of its stored
form, and the marks that govern its deletion. Fields that are absent are not written; an empty list
or map that is present is.
-/

namespace SharedMount

/-- The metadata that all kinds of objects share. -/
structure Metadata where
  name : Option String := none
  generateName : Option String := none
  ns : Option String := none
  labels : Option TextMap := none
  annotations : Option TextMap := none
  finalizers : Option (List String) := none
  resourceVersion : Option String := none
  deletionTimestamp : Option Timestamp := none
deriving DecidableEq, Inhabited

namespace Metadata

/-- The identity that metadata gives: a name to be generated stands in for a missing name. -/
def key (metadata : Metadata) : ObjectKey :=
  ⟨metadata.ns, (metadata.name.or metadata.generateName).getD ""⟩

/-- The labels, none if the map is absent. -/
def labelMap (metadata : Metadata) : TextMap :=
  metadata.labels.getD ∅

/-- The value of a label. -/
def label? (metadata : Metadata) (name : String) : Option String :=
  metadata.labelMap[name]?

/-- Set a label, creating the map if there is none. -/
def setLabel (metadata : Metadata) (name value : String) : Metadata :=
  { metadata with labels := some (metadata.labelMap.insert name value) }

/-- Remove a label; an absent map stays absent and an emptied one stays empty. -/
def removeLabel (metadata : Metadata) (name : String) : Metadata :=
  { metadata with labels := metadata.labels.map (·.erase name) }

/-- Setting a label changes what is read under its name and under no other. -/
theorem label?_setLabel (metadata : Metadata) (name value other : String) :
    (metadata.setLabel name value).label? other =
      if name = other then some value else metadata.label? other := by
  simp [setLabel, label?, labelMap, Std.ExtTreeMap.getElem?_insert]

/-- Removing a label changes what is read under its name and under no other. -/
theorem label?_removeLabel (metadata : Metadata) (name other : String) :
    (metadata.removeLabel name).label? other =
      if name = other then none else metadata.label? other := by
  cases present : metadata.labels with
  | none => simp [removeLabel, label?, labelMap, present]
  | some labels => simp [removeLabel, label?, labelMap, present, Std.ExtTreeMap.getElem?_erase]

/-- The finalizers, none if the list is absent. -/
def finalizerList (metadata : Metadata) : List String :=
  metadata.finalizers.getD []

/-- Whether deletion has been requested. -/
def isDeleting (metadata : Metadata) : Bool :=
  metadata.deletionTimestamp.isSome

/-- Write metadata as a document. -/
def encode (metadata : Metadata) : Json :=
  .record
    [("annotations", metadata.annotations.map .ofTextMap),
      ("deletionTimestamp", metadata.deletionTimestamp.map fun time => .str time.text),
      ("finalizers", metadata.finalizers.map .ofTexts),
      ("generateName", metadata.generateName.map .str),
      ("labels", metadata.labels.map .ofTextMap),
      ("name", metadata.name.map .str),
      ("namespace", metadata.ns.map .str),
      ("resourceVersion", metadata.resourceVersion.map .str)]

/-- Read a point in time from a document. -/
def time? (json : Json) : Option Timestamp := do
  Timestamp.parse? (← json.text?)

/-- Read metadata from a document. -/
def decode? (json : Json) : Option Metadata := do
  let fields ← json.object?
  return {
    name := ← Json.optionalField "name" Json.text? fields
    generateName := ← Json.optionalField "generateName" Json.text? fields
    ns := ← Json.optionalField "namespace" Json.text? fields
    labels := ← Json.optionalField "labels" Json.textMap? fields
    annotations := ← Json.optionalField "annotations" Json.textMap? fields
    finalizers := ← Json.optionalField "finalizers" Json.texts? fields
    resourceVersion := ← Json.optionalField "resourceVersion" Json.text? fields
    deletionTimestamp := ← Json.optionalField "deletionTimestamp" time? fields }

end Metadata

/-- The time at which stores mark objects as deleted. -/
def markedTime : Timestamp :=
  { year := 2024, month := 1, day := 1, hour := 0, minute := 0, second := 0 }

instance : ObjectMeta Metadata where
  Time := Timestamp
  blank := {}
  key := Metadata.key
  version? := Metadata.resourceVersion
  withVersion version metadata := { metadata with resourceVersion := version }
  finalizerList := Metadata.finalizerList
  deletionTime? := Metadata.deletionTimestamp
  withDeletionTime time metadata := { metadata with deletionTimestamp := time }
  encode := Metadata.encode
  decode? := Metadata.decode?
  time? := Metadata.time?
  deletionMark := markedTime
  time?_deletionMark := by decide +kernel

end SharedMount
