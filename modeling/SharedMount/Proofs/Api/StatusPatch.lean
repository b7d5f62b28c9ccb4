import SharedMount.Api.Client
import SharedMount.Proofs.Codec.MergePatch
import SharedMount.Proofs.Codec.Reading
import SharedMount.Proofs.Store.Writes

/-! # The status patch replaces the status

Over the API a status is replaced by a merge patch of the stored document. Such a patch removes only what it sets to
`null`, so it depends on the form in which a status is written whether anything of the former status is left. Nothing
is: the patched document is read as the stored SharedVolume with the new status (`statusPatch_replaces_status`), which
is what a store in memory holds after the same call.
-/

namespace SharedMount

open Json

/-! ## Reading -/

/-- The version in the metadata that a document describes. -/
theorem Metadata.resourceVersion_of_decode? {fields : List (String × Json)} {metadata : Metadata}
    (reads : decode? (.obj fields) = some metadata) :
    optionalField "resourceVersion" text? fields = some metadata.resourceVersion := by
  obtain ⟨_, same, -, -, -, -, -, -, version, -⟩ := decode?_eq_some_iff.mp reads
  cases same
  exact version

/-- Metadata is read as before when all fields but the version stay, and the version is read as before. -/
theorem Metadata.decode?_congr {fields others : List (String × Json)}
    (same : ∀ name, name ≠ "resourceVersion" → valuesOf name others = valuesOf name fields)
    (version : optionalField "resourceVersion" text? others = optionalField "resourceVersion" text? fields) :
    decode? (.obj others) = decode? (.obj fields) := by
  simp only [decode?, object?, Option.bind_eq_bind, Option.bind_some, version,
    optionalField_congr (same "name" (by decide)), optionalField_congr (same "generateName" (by decide)),
    optionalField_congr (same "namespace" (by decide)), optionalField_congr (same "labels" (by decide)),
    optionalField_congr (same "annotations" (by decide)), optionalField_congr (same "finalizers" (by decide)),
    optionalField_congr (same "deletionTimestamp" (by decide))]

/-! ## Patched parts -/

/-- A reference to a claim that is merged into anything is read as that reference. -/
theorem ClaimReference.decode?_mergePatch (target : Json) (claim : ClaimReference) :
    decode? (mergePatch target claim.encode) = some claim := by
  rw [encode, mergePatch_obj]
  generalize merged : mergeFields target.fields _ = fields
  have values (name : String) := merged ▸ valuesOf_mergeFields name target.fields (by simp)
  have kind : valuesOf "kind" fields = [.str claim.kind] := values "kind"
  have name : valuesOf "name" fields = [.str claim.name] := values "name"
  have apiGroup : valuesOf "apiGroup" fields = (claim.apiGroup.map .str).toList :=
    merged ▸ valuesOf_mergeFields_getD_null target.fields (by simp) .str (by simp) rfl
  have known : recordFields 0 ["kind", "name", "apiGroup"] (.obj fields) = some fields := by
    cases given : claim.apiGroup <;> simp [recordFields, kind, name, apiGroup, given]
  simp only [decode?, known, Option.bind_eq_bind, Option.bind_some]
  rw [fieldOr_of_valuesOf kind (text?_str claim.kind), fieldOr_of_valuesOf name (text?_str claim.name),
    optionalField_of_valuesOf .str claim.apiGroup apiGroup (by simp)]
  rfl

/-- A status that is merged into anything is read as that status. -/
theorem SharedVolumeStatus.decode?_mergePatch (target : Json) (status : SharedVolumeStatus) :
    decode? (mergePatch target status.encode) = some status := by
  rw [encode, mergePatch_obj]
  generalize merged : mergeFields target.fields _ = fields
  have values (name : String) := merged ▸ valuesOf_mergeFields name target.fields (by simp)
  have message : valuesOf "message" fields = [.str status.message] := values "message"
  have phase : valuesOf "phase" fields = (status.phase.map fun phase => .str phase.name).toList :=
    merged ▸ valuesOf_mergeFields_getD_null target.fields (by simp) (fun phase : Phase => .str phase.name)
      (by simp) rfl
  have claimRef : valuesOf "claimRef" fields = (status.claimRef.map fun claim =>
      mergePatch ((lookup "claimRef" target.fields).getD .null) claim.encode).toList :=
    merged ▸ valuesOf_mergeFields_getD_null target.fields (by simp) _ (by simp [ClaimReference.encode]) rfl
  have known : recordFields 0 ["claimRef", "phase", "message"] (.obj fields) = some fields := by
    cases given : status.phase <;> cases named : status.claimRef <;>
      simp [recordFields, message, phase, claimRef, given, named]
  simp only [decode?, known, Option.bind_eq_bind, Option.bind_some]
  rw [optionalField_of_valuesOf _ status.claimRef claimRef
      (fun claim _ => congrArg (Option.map some) (claim.decode?_mergePatch _)),
    optionalField_of_valuesOf _ status.phase phase (by simp [nullable, word?]),
    fieldOr_of_valuesOf message (text?_str status.message)]
  rfl

/-- Only objects are read as metadata. -/
theorem Metadata.eq_obj_of_decode? {document : Json} {metadata : Metadata}
    (reads : decode? document = some metadata) : ∃ fields, document = .obj fields := by
  cases document with
  | obj fields => exact ⟨fields, rfl⟩
  | _ => cases reads

/-- Metadata is read as before when its own version is merged into it. -/
theorem Metadata.decode?_mergePatch {document : Json} {metadata : Metadata}
    (reads : decode? document = some metadata) :
    decode? (mergePatch document (.obj [("resourceVersion", (metadata.resourceVersion.map .str).getD .null)])) =
      some metadata := by
  obtain ⟨fields, rfl⟩ := eq_obj_of_decode? reads
  rw [mergePatch_obj, Json.fields]
  refine (decode?_congr (fun name other => ?_) ?_).trans reads
  · rw [valuesOf_mergeFields name fields (by simp), lookup, if_neg other.symm, lookup]
  · rw [resourceVersion_of_decode? reads]
    exact optionalField_of_valuesOf .str _
      (valuesOf_mergeFields_getD_null fields (by simp) .str (by simp) rfl) (by simp)

/-! ## The patched document -/

namespace Api.Client

/-- The patch of a SharedVolume gives its version and its status. -/
theorem statusPatch_eq (object : SharedVolume) : statusPatch object =
    .obj [("metadata", .obj [("resourceVersion", (object.metadata.resourceVersion.map .str).getD .null)]),
      ("status", (object.status.map SharedVolumeStatus.encode).getD .null)] := by
  rw [statusPatch, object.get?_status_encode]
  rfl

variable {fields : List (String × Json)} {stored object : SharedVolume}

/-- What stands under the names of a patched document. -/
private theorem valuesOf_patched (fields : List (String × Json)) (object : SharedVolume) :
    ∃ patched, (Json.obj fields).mergePatch (statusPatch object) = .obj patched ∧
      valuesOf "metadata" patched = [mergePatch ((lookup "metadata" fields).getD .null)
        (.obj [("resourceVersion", (object.metadata.resourceVersion.map .str).getD .null)])] ∧
      valuesOf "status" patched = (object.status.map fun status =>
        mergePatch ((lookup "status" fields).getD .null) status.encode).toList ∧
      ∀ name, name ≠ "metadata" → name ≠ "status" → valuesOf name patched = valuesOf name fields := by
  rw [statusPatch_eq, mergePatch_obj, Json.fields]
  refine ⟨_, rfl, valuesOf_mergeFields "metadata" fields (by simp), ?_, fun name notMetadata notStatus => ?_⟩
  · exact valuesOf_mergeFields_getD_null fields (by simp) SharedVolumeStatus.encode
      (by simp [SharedVolumeStatus.encode]) rfl
  · rw [valuesOf_mergeFields name fields (by simp), lookup, if_neg notMetadata.symm, lookup,
      if_neg notStatus.symm, lookup]

/-- A patched document is read as the stored object with the new status. -/
theorem decode?_statusPatch (reads : SharedVolume.decode? (.obj fields) = some stored)
    (current : Resource.version? object = Resource.version? stored) :
    SharedVolume.decode? ((Json.obj fields).mergePatch (statusPatch object)) =
      some { stored with status := object.status } := by
  obtain ⟨once, readsMetadata, readsSpec, -⟩ := SharedVolume.decode?_obj_eq_some_iff.mp reads
  obtain ⟨patched, eq, metadata, status, others⟩ := valuesOf_patched fields object
  have spec : valuesOf "spec" patched = valuesOf "spec" fields := others "spec" (by decide) (by decide)
  rw [eq, SharedVolume.decode?_obj_eq_some_iff]
  refine ⟨fun name mem => ?_, ?_, (requiredField_congr spec _).trans readsSpec, ?_⟩
  · rcases List.mem_cons.mp mem with rfl | mem
    · simp [metadata]
    · rcases List.mem_cons.mp mem with rfl | mem
      · rw [spec]
        exact once "spec" (by simp)
      · obtain rfl := List.mem_singleton.mp mem
        cases given : object.status <;> simp [status, given]
  · obtain ⟨document, values, readsDocument⟩ :=
      valuesOf_of_requiredField (once "metadata" (by simp)) readsMetadata
    have there : lookup "metadata" fields = some document := by rw [lookup_eq_head?_valuesOf, values]; rfl
    rw [there, Option.getD_some, show object.metadata.resourceVersion = _ from current] at metadata
    exact requiredField_of_valuesOf metadata (Metadata.decode?_mergePatch readsDocument)
  · exact optionalField_of_valuesOf _ object.status status
      fun status _ => congrArg (Option.map some) (status.decode?_mergePatch _)

/-- Every other field of the document stays as it is. -/
theorem get?_statusPatch {name : String} (notMetadata : name ≠ "metadata") (notStatus : name ≠ "status") :
    ((Json.obj fields).mergePatch (statusPatch object)).get? name = (Json.obj fields).get? name := by
  obtain ⟨patched, eq, -, -, others⟩ := valuesOf_patched fields object
  rw [eq, get?, get?, lookup_eq_head?_valuesOf, lookup_eq_head?_valuesOf]
  exact congrArg List.head? (others name notMetadata notStatus)

/-- Every field of the metadata but the version stays as it is. -/
theorem get?_metadata_statusPatch {name : String} (notVersion : name ≠ "resourceVersion") :
    (((Json.obj fields).mergePatch (statusPatch object)).get? "metadata").bind (·.get? name) =
      ((Json.obj fields).get? "metadata").bind (·.get? name) := by
  obtain ⟨patched, eq, metadata, -, -⟩ := valuesOf_patched fields object
  have kept (target : Json) (version : Json) :
      (target.mergePatch (.obj [("resourceVersion", version)])).get? name = target.get? name := by
    rw [mergePatch_obj, get?, get?, lookup_eq_head?_valuesOf, lookup_eq_head?_valuesOf, Json.fields,
      valuesOf_mergeFields name target.fields (by simp), lookup, if_neg notVersion.symm, lookup]
  rw [eq]
  change (lookup "metadata" patched).bind _ = (lookup "metadata" fields).bind _
  rw [lookup_eq_head?_valuesOf "metadata" patched, metadata, List.head?_cons, Option.bind_some, kept]
  cases lookup "metadata" fields <;> rfl

/-- The request that replaces the status of a SharedVolume carries the patch. -/
theorem body_of_replaceStatus {client : Client} {request : Request}
    (made : client.request (.replaceStatus object) = .ok request) : request.method = .patch ∧
      request.contentType = some "application/merge-patch+json" ∧ request.body = some (statusPatch object) := by
  obtain ⟨path, -, given⟩ : ∃ path, client.objectPath SharedVolume (Resource.key object) = .ok path ∧
      requestFor .patch (path ++ "/status?") (some "application/merge-patch+json") (some (statusPatch object)) =
        .ok request := by
    cases named : client.objectPath SharedVolume (Resource.key object) with
    | error problem => simp [Client.request, named, bind, Except.bind] at made
    | ok path => exact ⟨path, rfl, by simpa [Client.request, named, bind, Except.bind] using made⟩
  rw [requestFor] at given
  split at given
  · obtain rfl := Except.ok.inj given
    exact ⟨rfl, rfl, rfl⟩
  · cases given

/-- Whatever the status of a stored document holds, the patch of a SharedVolume of the same version makes it a
document that is read as the stored SharedVolume with the other one's status, in which all other fields, and all of
the metadata but the version, are as they were. A store in memory holds the same after the same call, with a new
version. -/
theorem statusPatch_replaces_status (fields : List (String × Json)) (stored object : SharedVolume)
    (reads : SharedVolume.decode? (.obj fields) = some stored)
    (current : Resource.version? object = Resource.version? stored) :
    (∀ (client : Client) (request : Request), client.request (.replaceStatus object) = .ok request →
      request.method = .patch ∧ request.contentType = some "application/merge-patch+json" ∧
        request.body = some (statusPatch object)) ∧
    SharedVolume.decode? ((Json.obj fields).mergePatch (statusPatch object)) =
      some { stored with status := object.status } ∧
    (∀ name, name ≠ "metadata" → name ≠ "status" →
      ((Json.obj fields).mergePatch (statusPatch object)).get? name = (Json.obj fields).get? name) ∧
    (∀ name, name ≠ "resourceVersion" →
      (((Json.obj fields).mergePatch (statusPatch object)).get? "metadata").bind (·.get? name) =
        ((Json.obj fields).get? "metadata").bind (·.get? name)) ∧
    ∀ store : Store SharedVolume, store.failing .replaceStatus = false →
      store.object? (Resource.key object) = some stored →
      ∃ after, store.perform (.replaceStatus object) =
          (.ok (store.stamp ({ stored with status := object.status } : SharedVolume)), after) ∧
        after.object? (Resource.key object) = some (store.stamp { stored with status := object.status }) := by
  refine ⟨fun _ _ => body_of_replaceStatus, decode?_statusPatch reads current, fun _ => get?_statusPatch,
    fun _ => get?_metadata_statusPatch, fun store works found => ?_⟩
  have present : store.current object = .ok stored := Store.current_eq_ok_iff.mpr ⟨found, current⟩
  refine ⟨_, Store.replaceStatus_eq_ok_iff.mpr ⟨works, stored, present, rfl, rfl⟩, ?_⟩
  rw [Store.object?_writes, Store.object?_put, if_pos rfl]
  rfl

/-- A stored document with a status of an earlier phase, and with fields of which nothing is known. -/
def readyDocument : List (String × Json) :=
  [("apiVersion", .str "aws-efs.managed.openshift.io/v1alpha1"),
    ("metadata", .obj [("name", .str "a"), ("namespace", .str "x"), ("resourceVersion", .str "5"),
      ("note", .str "n")]),
    ("spec", .obj [("accessPointID", .str "fsap-1"), ("fileSystemID", .str "fs-1")]),
    ("status", .obj
      [("claimRef", .obj [("apiGroup", .str "g"), ("kind", .str "K"), ("name", .str "b"), ("since", .num 1)]),
        ("message", .str "m"), ("phase", .obj [("Ready", .null)]), ("reason", .str "r")])]

/-- The SharedVolume of that document, with a status. -/
def patchedVolume (status : Option SharedVolumeStatus) : SharedVolume where
  metadata := { name := some "a", ns := some "x", resourceVersion := some "5" }
  spec := { fileSystemId := "fs-1", accessPointId := "fsap-1" }
  status := status

/-- A claim without a group takes the place of one with a group, and no phase is left. -/
theorem statusPatch_replaces_status_sample :
    ∃ stored, SharedVolume.decode? (.obj readyDocument) = some stored ∧ stored.phase? = some .ready ∧
      SharedVolume.decode? ((Json.obj readyDocument).mergePatch
        (statusPatch (patchedVolume (some { claimRef := some { kind := "K", name := "b" } })))) =
          some (patchedVolume (some { claimRef := some { kind := "K", name := "b" } })) ∧
      SharedVolume.decode? ((Json.obj readyDocument).mergePatch (statusPatch (patchedVolume none))) =
        some (patchedVolume none) := by
  have read : SharedVolume.decode? (.obj readyDocument) = some (patchedVolume (some
      { claimRef := some { kind := "K", name := "b", apiGroup := some "g" }, phase := some .ready,
        message := "m" })) := by
    decide +kernel
  obtain ⟨-, replaced, -⟩ := statusPatch_replaces_status readyDocument _
    (patchedVolume (some { claimRef := some { kind := "K", name := "b" } })) read rfl
  obtain ⟨-, removed, -⟩ := statusPatch_replaces_status readyDocument _ (patchedVolume none) read rfl
  exact ⟨_, read, rfl, replaced, removed⟩

end Api.Client

end SharedMount
