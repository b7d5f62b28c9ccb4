import SharedMount.Object.Metadata

/-! # Kinds of objects

An `ObjectKind` is a kind of object that the cluster stores: it has metadata and a form as a document.
Its laws say that metadata is a part of an object like any other: what is put there is read from
there, and the rest of the object is left alone. A `Resource` is a kind with `Metadata` for its metadata.
-/

namespace SharedMount

/-- A kind of object of the cluster, with metadata of a type `M`. -/
class ObjectKind (K : Type) (M : outParam Type) where
  /-- The name of the kind. -/
  kind : String
  /-- The object of this kind that says nothing. -/
  blank : K
  metadata : K → M
  withMetadata : K → M → K
  /-- The object as a document. -/
  encode : K → Json
  /-- The object that a document describes. -/
  decode? : Json → Option K
  metadata_withMetadata (object : K) (given : M) :
    metadata (withMetadata object given) = given := by intros; rfl
  withMetadata_metadata (object : K) : withMetadata object (metadata object) = object := by
    intros; rfl
  withMetadata_withMetadata (object : K) (given later : M) :
    withMetadata (withMetadata object given) later = withMetadata object later := by intros; rfl

/-- A kind of object of the cluster. -/
abbrev Resource (K : Type) := ObjectKind K Metadata

namespace Resource

export ObjectKind (kind blank metadata withMetadata encode decode? metadata_withMetadata withMetadata_metadata
  withMetadata_withMetadata)

variable {K M : Type} [ObjectKind K M]

/-- The object with a change made to its metadata. -/
def mapMetadata (change : M → M) (object : K) : K :=
  withMetadata object (change (metadata object))

@[simp] theorem metadata_mapMetadata (change : M → M) (object : K) :
    metadata (mapMetadata change object) = change (metadata object) :=
  metadata_withMetadata ..

theorem mapMetadata_mapMetadata (first second : M → M) (object : K) :
    mapMetadata second (mapMetadata first object) = mapMetadata (fun metadata => second (first metadata)) object := by
  simp only [mapMetadata, metadata_withMetadata, withMetadata_withMetadata]

section Parts

variable [ObjectMeta M]

/-- The identity of an object. -/
def key (object : K) : ObjectKey :=
  ObjectMeta.key (metadata object)

/-- The version of the stored form that an object was read from. -/
def version? (object : K) : Option String :=
  ObjectMeta.version? (metadata object)

/-- The object with another version. -/
def withVersion (version : Option String) : K → K :=
  mapMetadata (ObjectMeta.withVersion version)

/-- What has to be done before an object may go. -/
def finalizerList (object : K) : List String :=
  ObjectMeta.finalizerList (metadata object)

/-- The time at which deletion was requested. -/
def deletionTime? (object : K) : Option (ObjectMeta.Time M) :=
  ObjectMeta.deletionTime? (metadata object)

/-- The object with another time of deletion. -/
def withDeletionTime (time : Option (ObjectMeta.Time M)) : K → K :=
  mapMetadata (ObjectMeta.withDeletionTime time)

@[simp] theorem key_withVersion (version : Option String) (object : K) :
    key (withVersion version object) = key object := by
  rw [key, withVersion, metadata_mapMetadata, ObjectMeta.key_withVersion, key]

@[simp] theorem key_withDeletionTime (time : Option (ObjectMeta.Time M)) (object : K) :
    key (withDeletionTime time object) = key object := by
  rw [key, withDeletionTime, metadata_mapMetadata, ObjectMeta.key_withDeletionTime, key]

@[simp] theorem version?_withVersion (version : Option String) (object : K) :
    version? (withVersion version object) = version := by
  rw [version?, withVersion, metadata_mapMetadata, ObjectMeta.version?_withVersion]

theorem withVersion_version? (object : K) : withVersion (version? object) object = object := by
  rw [withVersion, mapMetadata, version?, ObjectMeta.withVersion_version?, withMetadata_metadata]

theorem withVersion_withVersion (version later : Option String) (object : K) :
    withVersion later (withVersion version object) = withVersion later object := by
  rw [withVersion, withVersion, mapMetadata_mapMetadata]
  exact congrArg (mapMetadata · object) (funext fun _ => ObjectMeta.withVersion_withVersion ..)

theorem withDeletionTime_deletionTime? (object : K) : withDeletionTime (deletionTime? object) object = object := by
  rw [withDeletionTime, mapMetadata, deletionTime?, ObjectMeta.withDeletionTime_deletionTime?,
    withMetadata_metadata]

theorem withDeletionTime_withDeletionTime (time later : Option (ObjectMeta.Time M)) (object : K) :
    withDeletionTime later (withDeletionTime time object) = withDeletionTime later object := by
  rw [withDeletionTime, withDeletionTime, mapMetadata_mapMetadata]
  exact congrArg (mapMetadata · object) (funext fun _ => ObjectMeta.withDeletionTime_withDeletionTime ..)

end Parts

/-- The fields of a document of a core kind: it may leave out its API version and kind, but not name
others. -/
def coreFields? (kind : String) (json : Json) : Option (List (String × Json)) := do
  let fields ← json.object?
  let fits (name value : String) : Bool := (Json.valuesOf name fields).all (· = .str value)
  if fits "apiVersion" "v1" && fits "kind" kind then some fields else none

/-- The metadata in the fields of a document of a core kind, blank if it has none. -/
def coreMetadata? (fields : List (String × Json)) : Option Metadata := do
  return (← Json.optionalField "metadata" Metadata.decode? fields).getD {}

end Resource

end SharedMount
