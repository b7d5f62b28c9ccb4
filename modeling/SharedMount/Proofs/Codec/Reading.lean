import SharedMount.Proofs.Codec.Objects

/-! # What it takes to be read

A document is read as a record if it gives the fields of that record, by name or by position, and each field is read as
the record has it. One equivalence for each record of a SharedVolume says so, and what is proved about reading it rests
on these.
-/

namespace SharedMount

open Json

/-- The two ways to spell a phase. -/
inductive Phase.Spelled (phase : Phase) : Json → Prop
  | word : Spelled phase (.str phase.name)
  | field : Spelled phase (.obj [(phase.name, .null)])

/-- Read a phase. -/
def Phase.read? (document : Json) : Option Phase :=
  document.word?.bind ofName?

theorem Phase.ofName?_eq_some_iff {word : String} {phase : Phase} : ofName? word = some phase ↔ word = phase.name := by
  constructor
  · intro reads
    unfold ofName? at reads
    split at reads <;> cases reads <;> rfl
  · rintro rfl
    exact ofName?_name phase

theorem Phase.read?_eq_some_iff {document : Json} {phase : Phase} :
    read? document = some phase ↔ phase.Spelled document := by
  constructor
  · intro reads
    obtain ⟨word, spells, names⟩ := Option.bind_eq_some_iff.mp reads
    obtain rfl := ofName?_eq_some_iff.mp names
    unfold word? at spells
    split at spells
    · cases spells
      exact .word
    · cases spells
      exact .field
    · cases spells
  · rintro (_ | _) <;> exact ofName?_name phase

theorem Metadata.decode?_eq_some_iff {document : Json} {metadata : Metadata} :
    decode? document = some metadata ↔ ∃ fields, document = .obj fields ∧
      optionalField "name" text? fields = some metadata.name ∧
      optionalField "generateName" text? fields = some metadata.generateName ∧
      optionalField "namespace" text? fields = some metadata.ns ∧
      optionalField "labels" textMap? fields = some metadata.labels ∧
      optionalField "annotations" textMap? fields = some metadata.annotations ∧
      optionalField "finalizers" texts? fields = some metadata.finalizers ∧
      optionalField "resourceVersion" text? fields = some metadata.resourceVersion ∧
      optionalField "deletionTimestamp" time? fields = some metadata.deletionTimestamp := by
  cases document with
  | obj fields =>
    simp only [decode?, object?, Option.bind_eq_bind, Option.bind_some, Option.bind_eq_some_iff, Option.pure_def,
      Option.some.injEq, Json.obj.injEq]
    constructor
    · rintro ⟨name, readsName, generateName, readsGenerateName, ns, readsNs, labels, readsLabels, annotations,
        readsAnnotations, finalizers, readsFinalizers, version, readsVersion, time, readsTime, rfl⟩
      exact ⟨fields, rfl, readsName, readsGenerateName, readsNs, readsLabels, readsAnnotations, readsFinalizers,
        readsVersion, readsTime⟩
    · rintro ⟨_, rfl, readsName, readsGenerateName, readsNs, readsLabels, readsAnnotations, readsFinalizers,
        readsVersion, readsTime⟩
      exact ⟨_, readsName, _, readsGenerateName, _, readsNs, _, readsLabels, _, readsAnnotations, _, readsFinalizers,
        _, readsVersion, _, readsTime, rfl⟩
  | _ => simp [decode?, object?]

theorem SharedVolumeSpec.decode?_eq_some_iff {document : Json} {spec : SharedVolumeSpec} :
    decode? document = some spec ↔ ∃ fields, document.recordFields 2 ["fileSystemID", "accessPointID"] = some fields ∧
      requiredField "fileSystemID" text? fields = some spec.fileSystemId ∧
      requiredField "accessPointID" text? fields = some spec.accessPointId := by
  simp only [decode?, Option.bind_eq_bind, Option.bind_eq_some_iff, Option.pure_def, Option.some.injEq]
  constructor
  · rintro ⟨fields, known, fileSystem, readsFileSystem, accessPoint, readsAccessPoint, rfl⟩
    exact ⟨fields, known, readsFileSystem, readsAccessPoint⟩
  · rintro ⟨fields, known, readsFileSystem, readsAccessPoint⟩
    exact ⟨fields, known, _, readsFileSystem, _, readsAccessPoint, rfl⟩

theorem ClaimReference.decode?_eq_some_iff {document : Json} {claim : ClaimReference} :
    decode? document = some claim ↔ ∃ fields, document.recordFields 0 ["kind", "name", "apiGroup"] = some fields ∧
      fieldOr "" "kind" text? fields = some claim.kind ∧ fieldOr "" "name" text? fields = some claim.name ∧
      optionalField "apiGroup" text? fields = some claim.apiGroup := by
  simp only [decode?, Option.bind_eq_bind, Option.bind_eq_some_iff, Option.pure_def, Option.some.injEq]
  constructor
  · rintro ⟨fields, known, kind, readsKind, name, readsName, group, readsGroup, rfl⟩
    exact ⟨fields, known, readsKind, readsName, readsGroup⟩
  · rintro ⟨fields, known, readsKind, readsName, readsGroup⟩
    exact ⟨fields, known, _, readsKind, _, readsName, _, readsGroup, rfl⟩

theorem SharedVolumeStatus.decode?_eq_some_iff {document : Json} {status : SharedVolumeStatus} :
    decode? document = some status ↔ ∃ fields, document.recordFields 0 ["claimRef", "phase", "message"] = some fields ∧
      optionalField "claimRef" ClaimReference.decode? fields = some status.claimRef ∧
      optionalField "phase" Phase.read? fields = some status.phase ∧
      fieldOr "" "message" text? fields = some status.message := by
  simp only [decode?, Option.bind_eq_bind, Option.bind_eq_some_iff, Option.pure_def, Option.some.injEq]
  constructor
  · rintro ⟨fields, known, claim, readsClaim, phase, readsPhase, message, readsMessage, rfl⟩
    exact ⟨fields, known, readsClaim, readsPhase, readsMessage⟩
  · rintro ⟨fields, known, readsClaim, readsPhase, readsMessage⟩
    exact ⟨fields, known, _, readsClaim, _, readsPhase, _, readsMessage, rfl⟩

theorem SharedVolume.decode?_eq_some_iff {M : Type} [ObjectMeta M] {document : Json} {volume : SharedVolume M} :
    decode? document = some volume ↔ ∃ fields, document.recordFields 3 ["metadata", "spec", "status"] = some fields ∧
      requiredField "metadata" ObjectMeta.decode? fields = some volume.metadata ∧
      requiredField "spec" SharedVolumeSpec.decode? fields = some volume.spec ∧
      optionalField "status" SharedVolumeStatus.decode? fields = some volume.status := by
  simp only [decode?, Option.bind_eq_bind, Option.bind_eq_some_iff, Option.pure_def, Option.some.injEq]
  constructor
  · rintro ⟨fields, known, metadata, readsMetadata, spec, readsSpec, status, readsStatus, rfl⟩
    exact ⟨fields, known, readsMetadata, readsSpec, readsStatus⟩
  · rintro ⟨fields, known, readsMetadata, readsSpec, readsStatus⟩
    exact ⟨fields, known, _, readsMetadata, _, readsSpec, _, readsStatus, rfl⟩

/-- What it takes for an object to be read as a SharedVolume. -/
theorem SharedVolume.decode?_obj_eq_some_iff {M : Type} [ObjectMeta M] {fields : List (String × Json)}
    {volume : SharedVolume M} :
    decode? (.obj fields) = some volume ↔
      (∀ name ∈ ["metadata", "spec", "status"], (valuesOf name fields).length ≤ 1) ∧
      requiredField "metadata" ObjectMeta.decode? fields = some volume.metadata ∧
      requiredField "spec" SharedVolumeSpec.decode? fields = some volume.spec ∧
      optionalField "status" SharedVolumeStatus.decode? fields = some volume.status := by
  rw [decode?_eq_some_iff]
  constructor
  · rintro ⟨known, record, reads⟩
    obtain ⟨once, rfl⟩ := recordFields_obj_iff.mp record
    exact ⟨once, reads⟩
  · rintro ⟨once, reads⟩
    exact ⟨fields, recordFields_obj_iff.mpr ⟨once, rfl⟩, reads⟩

end SharedMount
