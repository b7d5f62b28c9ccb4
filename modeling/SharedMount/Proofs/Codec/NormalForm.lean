import Mathlib.Logic.Relation
import SharedMount.Proofs.Codec.Reading
import SharedMount.Proofs.Codec.Retouching

/-! # SharedVolumes have a normal form

Many documents describe one SharedVolume, and one of them is written for it: it is read as this SharedVolume, and it
leaves out no field of a status or of a reference to a claim. A document that is read may be retouched in each of its
records, which are the SharedVolume itself, its metadata, its spec, its status and the reference to a claim, and is read
as before (`documents_are_normalised`). A record is refused that lacks a field which it must have, or has `null` for a
text that may only be absent.
-/

namespace SharedMount

open Json

/-! ## What the records of a SharedVolume know -/

/-- The fields that are read of metadata. -/
def Metadata.fieldNames : List String :=
  ["name", "generateName", "namespace", "labels", "annotations", "finalizers", "resourceVersion", "deletionTimestamp"]

def Metadata.form : RecordForm where
  names := fieldNames
  optional := fieldNames

def SharedVolumeSpec.form : RecordForm where
  names := ["fileSystemID", "accessPointID"]

def ClaimReference.form : RecordForm where
  names := ["kind", "name", "apiGroup"]
  optional := ["apiGroup"]

/-- The phase is no part of a status that can be retouched, although it may be spelled as an object. -/
def SharedVolumeStatus.form : RecordForm where
  names := ["claimRef", "phase", "message"]
  optional := ["claimRef", "phase"]
  parts := [("claimRef", ClaimReference.form.Retouched)]

/-- The fields that are read of a SharedVolume. Its API version and its kind are not among them. -/
def SharedVolume.fieldNames : List String :=
  ["metadata", "spec", "status"]

/-- What is known of the fields of a SharedVolume depends on what the reader of its metadata knows. -/
def SharedVolume.form (metadata : RecordForm) : RecordForm where
  names := fieldNames
  optional := ["status"]
  parts := [("metadata", metadata.Retouched), ("spec", SharedVolumeSpec.form.Retouched),
    ("status", SharedVolumeStatus.form.Retouched)]

/-! ## Retouched documents are read as before -/

/-- What is read of metadata is read after a retouch. -/
theorem Metadata.kept_decode? {document other : Json} (retouched : form.Retouched document other) :
    Kept decode? document other := by
  intro metadata reads
  obtain ⟨fields, rfl, readsName, readsGenerateName, readsNs, readsLabels, readsAnnotations, readsFinalizers,
    readsVersion, readsTime⟩ := decode?_eq_some_iff.mp reads
  -- metadata is never given by position
  cases retouched with
  | @byName _ others retouch =>
    have kept {α : Type} {name : String} {read : Json → Option α} {value : Option α} (known : name ∈ form.names)
        (reads : optionalField name read fields = some value) : optionalField name read others = some value := by
      apply (retouch.alike known).optionalField _ reads
      exact RecordForm.keeps_of_whole (by simp [form]) _
    apply decode?_eq_some_iff.mpr
    exact ⟨others, rfl, kept (by decide) readsName, kept (by decide) readsGenerateName, kept (by decide) readsNs,
      kept (by decide) readsLabels, kept (by decide) readsAnnotations, kept (by decide) readsFinalizers,
      kept (by decide) readsVersion, kept (by decide) readsTime⟩

theorem SharedVolumeSpec.kept_decode? {document other : Json} (retouched : form.Retouched document other) :
    Kept decode? document other := by
  intro spec reads
  obtain ⟨fields, known, readsFileSystem, readsAccessPoint⟩ := decode?_eq_some_iff.mp reads
  obtain ⟨others, still, alike⟩ := retouched.recordFields known
  have whole (name : String) : form.Keeps name text? := RecordForm.keeps_of_whole (by simp [form]) _
  refine decode?_eq_some_iff.mpr ⟨others, still, ?_, ?_⟩
  · exact (alike "fileSystemID" (by decide)).requiredField (by decide) (whole _) readsFileSystem
  · exact (alike "accessPointID" (by decide)).requiredField (by decide) (whole _) readsAccessPoint

theorem ClaimReference.kept_decode? {document other : Json} (retouched : form.Retouched document other) :
    Kept decode? document other := by
  intro claim reads
  obtain ⟨fields, known, readsKind, readsName, readsGroup⟩ := decode?_eq_some_iff.mp reads
  obtain ⟨others, still, alike⟩ := retouched.recordFields known
  have whole {α : Type} (name : String) (read : Json → Option α) : form.Keeps name read :=
    RecordForm.keeps_of_whole (by simp [form]) _
  refine decode?_eq_some_iff.mpr ⟨others, still, ?_, ?_, ?_⟩
  · exact (alike "kind" (by decide)).fieldOr (by decide) (whole _ _) readsKind
  · exact (alike "name" (by decide)).fieldOr (by decide) (whole _ _) readsName
  · exact (alike "apiGroup" (by decide)).optionalField (whole _ _) readsGroup

theorem SharedVolumeStatus.kept_decode? {document other : Json} (retouched : form.Retouched document other) :
    Kept decode? document other := by
  intro status reads
  obtain ⟨fields, known, readsClaim, readsPhase, readsMessage⟩ := decode?_eq_some_iff.mp reads
  obtain ⟨others, still, alike⟩ := retouched.recordFields known
  have claim : form.Keeps "claimRef" (nullable ClaimReference.decode?) :=
    (RecordForm.keeps_of_part (by simp [form]) ClaimReference.kept_decode?).2
  refine decode?_eq_some_iff.mpr ⟨others, still, ?_, ?_, ?_⟩
  · exact (alike "claimRef" (by decide)).optionalField claim readsClaim
  · apply (alike "phase" (by decide)).optionalField _ readsPhase
    exact RecordForm.keeps_of_whole (by decide) _
  · apply (alike "message" (by decide)).fieldOr (by decide) _ readsMessage
    exact RecordForm.keeps_of_whole (by decide) _

section Metadata

variable {M : Type} [ObjectMeta M] {metadata : RecordForm}
  (unnoticed : ∀ {document other : Json}, metadata.Retouched document other →
    Kept (ObjectMeta.decode? : Json → Option M) document other)

include unnoticed

theorem SharedVolume.kept_decode? {document other : Json} (retouched : (form metadata).Retouched document other) :
    Kept (decode? : Json → Option (SharedVolume M)) document other := by
  intro volume reads
  obtain ⟨fields, known, readsMetadata, readsSpec, readsStatus⟩ := decode?_eq_some_iff.mp reads
  obtain ⟨others, still, alike⟩ := retouched.recordFields known
  have ofMetadata : (form metadata).Keeps "metadata" (ObjectMeta.decode? : Json → Option M) :=
    (RecordForm.keeps_of_part (by simp [form]) unnoticed).1
  have spec : (form metadata).Keeps "spec" SharedVolumeSpec.decode? :=
    (RecordForm.keeps_of_part (by simp [form]) SharedVolumeSpec.kept_decode?).1
  have status : (form metadata).Keeps "status" (nullable SharedVolumeStatus.decode?) :=
    (RecordForm.keeps_of_part (by simp [form]) SharedVolumeStatus.kept_decode?).2
  refine decode?_eq_some_iff.mpr ⟨others, still, ?_, ?_, ?_⟩
  · exact (alike "metadata" (by simp [form, fieldNames])).requiredField (by simp [form]) ofMetadata readsMetadata
  · exact (alike "spec" (by simp [form, fieldNames])).requiredField (by simp [form]) spec readsSpec
  · exact (alike "status" (by simp [form, fieldNames])).optionalField status readsStatus

/-- So it is read after any number of retouches. -/
theorem SharedVolume.kept_of_retouches {document other : Json}
    (retouches : Relation.ReflTransGen (form metadata).Retouched document other) :
    Kept (decode? : Json → Option (SharedVolume M)) document other := by
  induction retouches with
  | refl => exact fun _ reads => reads
  | tail _ retouched ih => exact fun volume reads => kept_decode? unnoticed retouched volume (ih volume reads)

end Metadata

/-! ## What is refused -/

/-- A document of a spec that lacks an identifier. -/
inductive SharedVolumeSpec.Flawed (document : Json) : Prop
  | fileSystemId (missing : given form.names "fileSystemID" document = [])
  | accessPointId (missing : given form.names "accessPointID" document = [])

/-- A document of a reference to a claim that has `null` for a text. -/
inductive ClaimReference.Flawed (document : Json) : Prop
  | kind (null : .null ∈ given form.names "kind" document)
  | name (null : .null ∈ given form.names "name" document)

/-- A document of a status that has `null` for the message, no phase that there is, or a flawed reference to a claim. -/
inductive SharedVolumeStatus.Flawed (document : Json) : Prop
  | message (null : .null ∈ given form.names "message" document)
  | phase {value : Json} (there : value ∈ given form.names "phase" document) (present : value ≠ .null)
      (unknown : ∀ phase : Phase, ¬ phase.Spelled value)
  | claimRef {claim : Json} (there : claim ∈ given form.names "claimRef" document) (flawed : ClaimReference.Flawed claim)

/-- A document of a SharedVolume whose spec or status is flawed. -/
inductive SharedVolume.Flawed (document : Json) : Prop
  | spec {spec : Json} (there : spec ∈ given fieldNames "spec" document) (flawed : SharedVolumeSpec.Flawed spec)
  | status {status : Json} (there : status ∈ given fieldNames "status" document)
      (flawed : SharedVolumeStatus.Flawed status)

theorem SharedVolumeSpec.decode?_of_flawed {document : Json} (flawed : Flawed document) : decode? document = none := by
  refine Option.eq_none_iff_forall_ne_some.mpr fun spec reads => ?_
  obtain ⟨fields, known, readsFileSystem, readsAccessPoint⟩ := decode?_eq_some_iff.mp reads
  cases flawed with
  | fileSystemId missing =>
    exact valuesOf_ne_nil_of_requiredField readsFileSystem ((valuesOf_of_recordFields known _).trans missing)
  | accessPointId missing =>
    exact valuesOf_ne_nil_of_requiredField readsAccessPoint ((valuesOf_of_recordFields known _).trans missing)

/-- A text that stands for an absent one only is not read where the document has `null`. -/
private theorem null_not_mem_of_fieldOr {names : List String} {least : Nat} {document : Json}
    {fields : List (String × Json)} {absent name value : String} (known : document.recordFields least names = some fields)
    (reads : fieldOr absent name text? fields = some value) : .null ∉ given names name document := by
  intro null
  obtain ⟨last, readsField, -⟩ := fieldOr_eq_some_iff.mp reads
  obtain ⟨text, readsNull⟩ := reads_of_field? readsField (valuesOf_of_recordFields known name ▸ null)
  cases readsNull

theorem ClaimReference.decode?_of_flawed {document : Json} (flawed : Flawed document) : decode? document = none := by
  refine Option.eq_none_iff_forall_ne_some.mpr fun claim reads => ?_
  obtain ⟨fields, known, readsKind, readsName, -⟩ := decode?_eq_some_iff.mp reads
  cases flawed with
  | kind null => exact null_not_mem_of_fieldOr known readsKind null
  | name null => exact null_not_mem_of_fieldOr known readsName null

/-- A value of an optional field that is no `null` is read. -/
private theorem reads_of_optionalField {α : Type} {names : List String} {least : Nat} {document value : Json}
    {fields : List (String × Json)} {name : String} {read : Json → Option α} {own : Option α}
    (known : document.recordFields least names = some fields) (reads : optionalField name read fields = some own)
    (there : value ∈ given names name document) (present : value ≠ .null) : ∃ inner, read value = some inner := by
  obtain ⟨last, readsField, -⟩ := optionalField_eq_some_iff.mp reads
  obtain ⟨inner, readsValue⟩ := reads_of_field? readsField (valuesOf_of_recordFields known name ▸ there)
  rw [nullable_of_ne_null present] at readsValue
  obtain ⟨inner, readsInner, -⟩ := Option.map_eq_some_iff.mp readsValue
  exact ⟨inner, readsInner⟩

theorem ClaimReference.Flawed.ne_null {document : Json} (flawed : Flawed document) : document ≠ .null := by
  rintro rfl
  cases flawed with
  | kind null => cases null
  | name null => cases null

theorem SharedVolumeStatus.decode?_of_flawed {document : Json} (flawed : Flawed document) :
    decode? document = none := by
  refine Option.eq_none_iff_forall_ne_some.mpr fun status reads => ?_
  obtain ⟨fields, known, readsClaim, readsPhase, readsMessage⟩ := decode?_eq_some_iff.mp reads
  cases flawed with
  | message null => exact null_not_mem_of_fieldOr known readsMessage null
  | phase there present unknown =>
    obtain ⟨phase, readsValue⟩ := reads_of_optionalField known readsPhase there present
    exact unknown phase (Phase.read?_eq_some_iff.mp readsValue)
  | claimRef there flawed =>
    obtain ⟨claim, readsValue⟩ := reads_of_optionalField known readsClaim there flawed.ne_null
    rw [ClaimReference.decode?_of_flawed flawed] at readsValue
    cases readsValue

theorem SharedVolumeStatus.Flawed.ne_null {document : Json} (flawed : Flawed document) : document ≠ .null := by
  rintro rfl
  cases flawed with
  | message null => cases null
  | phase there => cases there
  | claimRef there => cases there

theorem SharedVolume.decode?_of_flawed {M : Type} [ObjectMeta M] {document : Json} (flawed : Flawed document) :
    (decode? document : Option (SharedVolume M)) = none := by
  refine Option.eq_none_iff_forall_ne_some.mpr fun volume reads => ?_
  obtain ⟨fields, known, -, readsSpec, readsStatus⟩ := decode?_eq_some_iff.mp reads
  cases flawed with
  | spec there flawed =>
    obtain ⟨spec, readsValue⟩ :=
      reads_of_field? (requiredField_eq_some_iff.mp readsSpec) (valuesOf_of_recordFields known _ ▸ there)
    rw [SharedVolumeSpec.decode?_of_flawed flawed] at readsValue
    cases readsValue
  | status there flawed =>
    obtain ⟨status, readsValue⟩ := reads_of_optionalField known readsStatus there flawed.ne_null
    rw [SharedVolumeStatus.decode?_of_flawed flawed] at readsValue
    cases readsValue

/-! ## The normal form -/

/-- A document that names each field of a status, and each field of its reference to a claim if there is one. -/
def SharedVolumeStatus.WrittenInFull (status : SharedVolumeStatus) (document : Json) : Prop :=
  ∃ fields, document = .obj fields ∧ fields.map Prod.fst = ["claimRef", "message", "phase"] ∧
    ∀ claim, status.claimRef = some claim →
      ∃ parts, lookup "claimRef" fields = some (.obj parts) ∧ parts.map Prod.fst = ["apiGroup", "kind", "name"]

theorem SharedVolumeStatus.writtenInFull_encode (status : SharedVolumeStatus) :
    status.WrittenInFull status.encode := by
  refine ⟨status.encode.fields, rfl, rfl, fun claim named => ⟨claim.encode.fields, ?_, rfl⟩⟩
  rw [encode, named]
  rfl

namespace SharedVolume

/-- Let metadata be read back as they were written, and let their reader not notice retouches of a certain form. The
document that is written for a SharedVolume is then read as that SharedVolume, and it leaves out no field of its status.
A document that is read as a SharedVolume is read as the same one when its records are retouched in any number of places
and when it names any other API version or kind, and what is written for it is written again after it is read. A flawed
document is not read. -/
theorem documents_are_normalised {M : Type} [ObjectMeta M] (metadata : RecordForm)
    (roundTrips : ∀ given : M, ObjectMeta.decode? (ObjectMeta.encode given) = some given)
    (unnoticed : ∀ {document other : Json}, metadata.Retouched document other →
      ∀ given : M, ObjectMeta.decode? document = some given → ObjectMeta.decode? other = some given) :
    (∀ volume : SharedVolume M, decode? volume.encode = some volume ∧
      ∀ status, volume.status = some status →
        ∃ document, volume.encode.get? "status" = some document ∧ status.WrittenInFull document) ∧
    (∀ (document : Json) (volume : SharedVolume M), decode? document = some volume →
      (∀ other, Relation.ReflTransGen (form metadata).Retouched document other → decode? other = some volume) ∧
      (∀ name ∈ ["apiVersion", "kind"], ∀ before former after, document = .obj (before ++ (name, former) :: after) →
        ∀ value, decode? (.obj (before ++ (name, value) :: after)) = some volume) ∧
      ∃ again : SharedVolume M, decode? volume.encode = some again ∧ again.encode = volume.encode) ∧
    ∀ document : Json, Flawed document → (decode? document : Option (SharedVolume M)) = none := by
  refine ⟨fun volume => ⟨decode?_encode roundTrips volume, fun status present => ?_⟩,
    fun document volume reads => ⟨?_, ?_, ?_⟩, fun document => decode?_of_flawed⟩
  · have written := volume.get?_status_encode
    rw [present, Option.map_some] at written
    exact ⟨status.encode, written, status.writtenInFull_encode⟩
  · exact fun other retouches => kept_of_retouches unnoticed retouches volume reads
  · rintro name heading before former after rfl value
    have unknown : name ∉ (form metadata).names := by
      rcases List.mem_cons.mp heading with rfl | heading
      · simp [form, fieldNames]
      · obtain rfl := List.mem_singleton.mp heading
        simp [form, fieldNames]
    exact kept_decode? unnoticed (.byName (.altered unknown former value before after)) volume reads
  · exact ⟨volume, decode?_encode roundTrips volume, rfl⟩

/-- A document of a SharedVolume, with its spec by position. -/
def sampleDocument (version : Json) (metadata status : List (String × Json)) : Json :=
  .obj [("apiVersion", version), ("metadata", .obj metadata), ("spec", .arr [.str "fs-1", .str "fsap-1"]),
    ("status", .obj status)]

/-- A reference to a claim by position. -/
def sampleClaim (group : List Json) : String × Json :=
  ("claimRef", .arr (.str "K" :: .str "b" :: group))

/-- `null` for the group of the claim, `null` for the phase, a field more in the metadata, another API version. -/
theorem sampleDocument_retouches : Relation.ReflTransGen (form Metadata.form).Retouched
    (sampleDocument (.str "v1") [("name", .str "a")] [sampleClaim []])
    (sampleDocument (.num 7) [("name", .str "a"), ("note", .num 1)] [sampleClaim [.null], ("phase", .null)]) := by
  have inStatus {metadata status others : List (String × Json)}
      (retouched : SharedVolumeStatus.form.Retouched (.obj status) (.obj others)) :
      (form Metadata.form).Retouched (sampleDocument (.str "v1") metadata status)
        (sampleDocument (.str "v1") metadata others) :=
    .byName (.within (by simp [form]) retouched
      [("apiVersion", .str "v1"), ("metadata", .obj metadata), ("spec", .arr [.str "fs-1", .str "fsap-1"])] [])
  have claim : ClaimReference.form.Retouched (sampleClaim []).2 (sampleClaim [.null]).2 :=
    .byPosition (by decide) (by decide) (.nulled (by decide) [("kind", .str "K"), ("name", .str "b")] [] rfl)
  have group : SharedVolumeStatus.form.Retouched (.obj [sampleClaim []]) (.obj [sampleClaim [.null]]) :=
    .byName (.within (List.mem_singleton.mpr rfl) claim [] [])
  have phase : SharedVolumeStatus.form.Retouched (.obj [sampleClaim [.null]])
      (.obj [sampleClaim [.null], ("phase", .null)]) :=
    .byName (.nulled (by decide) [sampleClaim [.null]] [] rfl)
  have note : Metadata.form.Retouched (.obj [("name", .str "a")]) (.obj [("name", .str "a"), ("note", .num 1)]) :=
    .byName (.added (by decide) (.num 1) [("name", .str "a")] [])
  have metadata : (form Metadata.form).Retouched
      (sampleDocument (.str "v1") [("name", .str "a")] [sampleClaim [.null], ("phase", .null)])
      (sampleDocument (.str "v1") [("name", .str "a"), ("note", .num 1)] [sampleClaim [.null], ("phase", .null)]) :=
    .byName (.within List.mem_cons_self note [("apiVersion", .str "v1")] _)
  have version : (form Metadata.form).Retouched
      (sampleDocument (.str "v1") [("name", .str "a"), ("note", .num 1)] [sampleClaim [.null], ("phase", .null)])
      (sampleDocument (.num 7) [("name", .str "a"), ("note", .num 1)] [sampleClaim [.null], ("phase", .null)]) :=
    .byName (.altered (by decide) (.str "v1") (.num 7) [] _)
  exact .head (inStatus group) (.head (inStatus phase) (.head metadata (.single version)))

/-- A status is read as before with `null` for the API version and after the retouches, and is refused with a phase of
another name. -/
theorem documents_are_normalised_sample :
    ∃ volume : SharedVolume, decode? (sampleDocument (.str "v1") [("name", .str "a")] [sampleClaim []]) = some volume ∧
      volume.status = some { claimRef := some { kind := "K", name := "b" } } ∧
      (∃ document, volume.encode.get? "status" = some document ∧
        SharedVolumeStatus.WrittenInFull { claimRef := some { kind := "K", name := "b" } } document) ∧
      decode? (sampleDocument .null [("name", .str "a")] [sampleClaim []]) = some volume ∧
      decode? (sampleDocument (.num 7) [("name", .str "a"), ("note", .num 1)] [sampleClaim [.null], ("phase", .null)]) =
        some volume ∧
      Flawed (sampleDocument (.str "v1") [("name", .str "a")] [("phase", .str "Lost")]) ∧
      (decode? (sampleDocument (.str "v1") [("name", .str "a")] [("phase", .str "Lost")]) : Option SharedVolume) =
        none := by
  have reads : decode? (sampleDocument (.str "v1") [("name", .str "a")] [sampleClaim []]) = some
      { metadata := ({ name := some "a" } : Metadata), spec := { fileSystemId := "fs-1", accessPointId := "fsap-1" },
        status := some { claimRef := some { kind := "K", name := "b" } } } := by
    decide +kernel
  have unknown (phase : Phase) : ¬ phase.Spelled (.str "Lost") := fun spelled => by
    have read := Phase.read?_eq_some_iff.mpr spelled
    cases read
  have flawed : Flawed (sampleDocument (.str "v1") [("name", .str "a")] [("phase", .str "Lost")]) :=
    .status (List.mem_singleton.mpr rfl) (.phase (List.mem_singleton.mpr rfl) (by simp) unknown)
  obtain ⟨written, kept, refused⟩ :=
    documents_are_normalised Metadata.form Metadata.decode?_encode Metadata.kept_decode?
  obtain ⟨retouched, headed, -⟩ := kept _ _ reads
  exact ⟨_, reads, rfl, (written _).2 _ rfl, headed "apiVersion" (by simp) [] (.str "v1") _ rfl .null,
    retouched _ sampleDocument_retouches, flawed, refused _ flawed⟩

/-- A phase that is spelled as an object is no record: with a field more it is no phase, and nothing is read. -/
theorem phase_takes_no_more_fields :
    decode? (sampleDocument (.str "v1") [] [("phase", .obj [("Ready", .null)])]) = some
      { metadata := ({} : Metadata), spec := { fileSystemId := "fs-1", accessPointId := "fsap-1" },
        status := some { phase := some .ready } } ∧
    (decode? (sampleDocument (.str "v1") [] [("phase", .obj [("Ready", .null), ("since", .num 1)])]) :
      Option SharedVolume) = none := by
  decide +kernel

end SharedVolume

end SharedMount
