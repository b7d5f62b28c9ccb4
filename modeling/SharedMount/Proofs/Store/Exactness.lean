import SharedMount.Proofs.Store.History

/-! # What writes store, to the field

A write that goes through stores the object that was sent but for the fields that are not the sender's, and one
that is refused, for one of the reasons that `Refused` lists, leaves the store as it was. `WritesExactly` says so
of a kind by means of an update of its objects; documents, by way of which the status travels, do not occur in it.
The way through a document cuts points in time to the second, and `LosesNothing` says that it costs no more.

SharedVolumes are our own, but their metadata and the other kinds are not. All that is used of their codecs is
that these read back what they have written, with its points in time cut.
-/

namespace SharedMount

namespace Store

section Statement

variable {K M : Type} [ObjectMeta M] [ObjectKind K M]

/-- An object with the status of a source, with a deletion mark, and with a version. -/
abbrev Update (K : Type) {M : Type} [ObjectMeta M] [ObjectKind K M] :=
  K → K → Option (ObjectMeta.Time M) → Option String → K

/-- One object with the status of another, read back from its document, with a mark and a version. -/
def exchange {S T : Type} (times : Times K T) (cut : T → T) (status : Part K S) : Update K :=
  fun object source mark version => Resource.withVersion version
    (Resource.withDeletionTime mark (times.map cut (status.set (status.get source) object)))

/-- The next version of a store, as text. -/
def nextVersion (store : Store K) : String := toString (store.version + 1)

/-- The object that is written over. -/
structure Current (store : Store K) (object present : K) : Prop where
  found : store.object? (Resource.key object) = some present
  version : Resource.version? object = Resource.version? present

/-- What a write over an object gives and the store that it leaves. Unless it takes the last finalizer of an object
that is to be deleted, the object stays, with the status and the mark of the one before. -/
inductive Replaced (update : Update K) (store : Store K) (object : K) : K → Store K → Prop where
  | stays {present stored : K} (current : store.Current object present)
      (stays : (Resource.deletionTime? present).isSome = true → Resource.finalizerList object ≠ [])
      (same : stored = update object present (Resource.deletionTime? present) store.nextVersion) :
      Replaced update store object stored
        { store with
          objects := store.objects.insert (Resource.key object) stored
          version := store.version + 1
          writes := { store.writes with updates := store.writes.updates + 1 } }
  | goes {present : K} (current : store.Current object present)
      (deleting : (Resource.deletionTime? present).isSome = true) (bare : Resource.finalizerList object = []) :
      Replaced update store object
        (update object present (Resource.deletionTime? present) (Resource.version? object))
        { store with
          objects := store.objects.erase (Resource.key object)
          writes := { store.writes with updates := store.writes.updates + 1 } }

/-- What a write of a status gives and the store that it leaves. The object keeps its mark, to the second. -/
inductive Reported (second : ObjectMeta.Time M → ObjectMeta.Time M) (update : Update K) (store : Store K)
    (object : K) : K → Store K → Prop where
  | intro {present stored : K} (current : store.Current object present)
      (same : stored = update present object ((Resource.deletionTime? present).map second) store.nextVersion) :
      Reported second update store object stored
        { store with
          objects := store.objects.insert (Resource.key object) stored
          version := store.version + 1
          writes := { store.writes with statusUpdates := store.writes.statusUpdates + 1 } }

/-- The failures with which a store refuses calls. -/
inductive Refused (store : Store K) : StoreCall K → Failure → Prop where
  | fault {call : StoreCall K} (fails : store.failing call.operation = true) :
      Refused store call (.internal ("injected " ++ call.operation.faultName ++ " failure"))
  | versioned {object : K} (works : store.failing .create = false)
      (version : Resource.version? object ≠ none) :
      Refused store (.create object) (.internal "resourceVersion should not be set on objects to be created")
  | taken {object : K} (works : store.failing .create = false) (version : Resource.version? object = none)
      (taken : store.object? (Resource.key object) ≠ none) :
      Refused store (.create object) (conflict K (Resource.key object) "already exists")
  | missing {call : StoreCall K} (works : store.failing call.operation = false)
      (writes : call.operation ∈ [.replace, .delete, .replaceStatus]) (missing : store.object? call.key = none) :
      Refused store call (notFound K call.key)
  | outdated {call : StoreCall K} {object present : K} (works : store.failing call.operation = false)
      (writes : call = .replace object ∨ call = .replaceStatus object)
      (found : store.object? (Resource.key object) = some present)
      (outdated : Resource.version? object ≠ Resource.version? present) :
      Refused store call (conflict K (Resource.key object) "the object has been modified")

/-- The writes of a kind are exact: they store what an update makes of the object, and a call that fails stores
nothing. -/
structure WritesExactly (K : Type) {M : Type} [ObjectMeta M] [ObjectKind K M]
    (second : ObjectMeta.Time M → ObjectMeta.Time M) (update : Update K) : Prop where
  /-- By way of its document, an object gets the status of another one. This never fails. -/
  travels (object source : K) : withStatusOf object source =
    .ok (update object source ((Resource.deletionTime? object).map second) (Resource.version? object))
  replaces {store after : Store K} {object stored : K} :
    store.perform (.replace object) = (.ok stored, after) ↔
      store.failing .replace = false ∧ Replaced update store object stored after
  reports {store after : Store K} {object stored : K} :
    store.perform (.replaceStatus object) = (.ok stored, after) ↔
      store.failing .replaceStatus = false ∧ Reported second update store object stored after
  /-- What is stored under another key stays as it is. -/
  apart (store : Store K) (call : StoreCall K) {key : ObjectKey} (other : key ≠ call.key) :
    (store.perform call).2.object? key = store.object? key
  /-- Whatever has happened to a store, the next version was never that of a stored object. -/
  fresh (history : List (Event K)) {first last : Nat} (order : first ≤ last) {key : ObjectKey} {object : K}
    (stored : (moment history first).object? key = some object) :
    Resource.version? object ≠ some (moment history last).nextVersion
  /-- Calls are refused for the listed reasons, and then nothing has changed. -/
  refuses {store : Store K} {call : StoreCall K} {failure : Failure} :
    (store.perform call).1 = .error failure ↔ store.Refused call failure
  atomic {store : Store K} {call : StoreCall K} {failure : Failure}
    (failed : (store.perform call).1 = .error failure) : (store.perform call).2 = store

/-- The way through a document costs an object nothing but fractions of seconds. -/
structure LosesNothing {S T : Type} (times : Times K T) (cut : T → T) (status : Part K S) (update : Update K) :
    Prop where
  /-- An object without fractions arrives as it was, with its mark as it is put there. -/
  exact {object source : K}
    (whole : ∀ time ∈ times.list (Resource.withDeletionTime none (status.set (status.get source) object)),
      cut time = time) (mark : Option (ObjectMeta.Time M)) (version : Option String) :
    update object source mark version =
      Resource.withVersion version (Resource.withDeletionTime mark (status.set (status.get source) object))
  /-- Objects that arrive as the same were the same, but for their points in time. -/
  injective {object other source source' : K}
    (same : times.list (status.set (status.get source) object) = times.list (status.set (status.get source') other))
    (arrive : withStatusOf object source = withStatusOf other source') :
    status.set (status.get source) object = status.set (status.get source') other

end Statement

/-! ## Calls that are refused -/

section Refusals

variable {K M : Type} [ObjectMeta M] [ObjectKind K M] {store : Store K} {object : K} {key : ObjectKey}
  {failure : Failure}

omit [ObjectMeta M] [ObjectKind K M] in
theorem get_eq_error_iff : store.get key = .error failure ↔ store.check .get = .error failure := by
  cases check : store.check .get <;> simp [get, check, bind, Except.bind, pure, Except.pure]

/-- Writes over an object and its status are refused for the same reasons. -/
private theorem refused_iff_of_writes {call : StoreCall K}
    (writes : call = .replace object ∨ call = .replaceStatus object) :
    store.Refused call failure ↔ store.check call.operation = .error failure ∨
      store.failing call.operation = false ∧ store.current object = .error failure := by
  have key : call.key = Resource.key object := by rcases writes with rfl | rfl <;> rfl
  rw [check_eq_error_iff, current_eq_error_iff]
  constructor
  · intro refused
    cases refused with
    | fault fails => exact .inl ⟨fails, rfl⟩
    | versioned | taken => simp at writes
    | missing works _ missing => exact .inr ⟨works, .inl (key ▸ ⟨missing, rfl⟩)⟩
    | @outdated _ other _ works same found outdated =>
      obtain rfl : object = other := by rcases writes with rfl | rfl <;> simpa using same
      exact .inr ⟨works, .inr ⟨_, found, outdated, rfl⟩⟩
  · rintro (⟨fails, rfl⟩ | ⟨works, ⟨missing, rfl⟩ | ⟨present, found, outdated, rfl⟩⟩)
    · exact .fault fails
    · rw [← key] at missing ⊢
      exact .missing works (by rcases writes with rfl | rfl <;> simp [StoreCall.operation]) missing
    · exact .outdated works writes found outdated

variable [StatusCarrier K]

/-- Since a call that fails changes nothing, its failure tells all about it. -/
theorem fst_perform_eq_error_iff {call : StoreCall K} :
    (store.perform call).1 = .error failure ↔ store.perform call = (.error failure, store) :=
  ⟨fun failed => Prod.ext failed (perform_of_error failed), congrArg Prod.fst⟩

theorem perform_eq_error_iff {call : StoreCall K} :
    (store.perform call).1 = .error failure ↔ store.Refused call failure := by
  rw [fst_perform_eq_error_iff]
  cases call with
  | get key =>
    have answered : store.perform (.get key) = (.error failure, store) ↔ store.get key = .error failure :=
      ⟨congrArg Prod.fst, fun failed => congrArg (·, store) failed⟩
    rw [answered, get_eq_error_iff, check_eq_error_iff]
    constructor
    · rintro ⟨fails, rfl⟩
      exact .fault fails
    · intro refused
      cases refused with
      | fault fails => exact ⟨fails, rfl⟩
      | missing works writes => simp [StoreCall.operation] at writes
      | outdated works writes => simp at writes
  | create object =>
    rw [create_eq_error_iff, check_eq_error_iff, and_iff_right rfl]
    constructor
    · rintro (⟨fails, rfl⟩ | ⟨works, ⟨version, rfl⟩ | ⟨version, taken, rfl⟩⟩)
      · exact .fault fails
      · exact .versioned works version
      · exact .taken works version taken
    · intro refused
      cases refused with
      | fault fails => exact .inl ⟨fails, rfl⟩
      | versioned works version => exact .inr ⟨works, .inl ⟨version, rfl⟩⟩
      | taken works version taken => exact .inr ⟨works, .inr ⟨version, taken, rfl⟩⟩
      | missing works writes => simp [StoreCall.operation] at writes
      | outdated works writes => simp at writes
  | delete key =>
    rw [delete_eq_error_iff, check_eq_error_iff, and_iff_right rfl]
    constructor
    · rintro (⟨fails, rfl⟩ | ⟨works, missing, rfl⟩)
      · exact .fault fails
      · exact .missing works (by simp [StoreCall.operation]) missing
    · intro refused
      cases refused with
      | fault fails => exact .inl ⟨fails, rfl⟩
      | missing works _ missing => exact .inr ⟨works, missing, rfl⟩
      | outdated works writes => simp at writes
  | replace object =>
    rw [replace_eq_error_iff, and_iff_right rfl]
    exact (refused_iff_of_writes (.inl rfl)).symm
  | replaceStatus object =>
    rw [replaceStatus_eq_error_iff, and_iff_right rfl]
    exact (refused_iff_of_writes (.inr rfl)).symm

end Refusals

/-! ## Writes that go through -/

section Writes

variable {K M : Type} [ObjectMeta M] [ObjectKind K M] {store after : Store K} {object stored : K}

theorem current_iff {present : K} : store.current object = .ok present ↔ store.Current object present :=
  current_eq_ok_iff.trans ⟨fun ⟨found, version⟩ => ⟨found, version⟩, fun ⟨found, version⟩ => ⟨found, version⟩⟩

variable [StatusCarrier K]

/-- The next version of a store was never that of an object that is or was stored. -/
theorem version?_ne_nextVersion (history : List (Event K)) {first last : Nat}
    (order : first ≤ last) {key : ObjectKey} (held : (moment history first).object? key = some object) :
    Resource.version? object ≠ some (moment history last).nextVersion := by
  obtain ⟨number, -, below, version⟩ := (Versioned.moment history first).dated held
  have counted := (ages_moment history order).version_le
  rw [version]
  intro same
  have : number = (moment history last).version + 1 := Nat.repr_injective (Option.some.inj same)
  omega

/-- An update comes to an exchange of the status, the mark and the version, of which the first leaves the version
alone and cuts the mark. -/
structure Exchanges (second : ObjectMeta.Time M → ObjectMeta.Time M) (update : Update K) : Prop where
  eq (object source : K) (mark : Option (ObjectMeta.Time M)) (version : Option String) :
    update object source mark version =
      Resource.withVersion version (Resource.withDeletionTime mark (StatusCarrier.takeStatus object source))
  version? (object source : K) :
    Resource.version? (StatusCarrier.takeStatus object source) = Resource.version? object
  deletionTime? (object source : K) :
    Resource.deletionTime? (StatusCarrier.takeStatus object source) = (Resource.deletionTime? object).map second

namespace Exchanges

variable {second : ObjectMeta.Time M → ObjectMeta.Time M} {update : Update K} (exchanges : Exchanges second update)

include exchanges

theorem eq_takeStatus (object source : K) (version : Option String) :
    update object source ((Resource.deletionTime? object).map second) version =
      Resource.withVersion version (StatusCarrier.takeStatus object source) := by
  rw [exchanges.eq, ← exchanges.deletionTime? object source, Resource.withDeletionTime_deletionTime?]

theorem eq_merged (object present : K) :
    update object present (Resource.deletionTime? present) (Resource.version? object) = merged object present := by
  have version : Resource.version? (merged object present) = Resource.version? object := by
    rw [merged, Resource.version?, Resource.withDeletionTime, Resource.metadata_mapMetadata,
      ObjectMeta.version?_withDeletionTime]
    exact exchanges.version? object present
  rw [exchanges.eq, ← version]
  exact Resource.withVersion_version? _

theorem replace_iff : store.perform (.replace object) = (.ok stored, after) ↔
    store.failing .replace = false ∧ Replaced update store object stored after := by
  refine replace_eq_ok_iff.trans (and_congr_right fun _ => ⟨?_, ?_⟩)
  · rintro ⟨present, current, rfl, rfl⟩
    by_cases finishes : Finishes object present
    · rw [if_pos finishes, if_pos finishes, ← exchanges.eq_merged]
      exact .goes (current_iff.mp current) finishes.1 finishes.2
    · rw [if_neg finishes, if_neg finishes]
      exact .stays (current_iff.mp current) (fun deleting bare => finishes ⟨deleting, bare⟩)
        (exchanges.eq object present _ _).symm
  · intro replaced
    cases replaced with
    | @stays present stored current stays same =>
      have stays : ¬Finishes object present := fun finishes => stays finishes.1 finishes.2
      have same : stored = store.stamp (merged object present) := same.trans (exchanges.eq ..)
      exact ⟨present, current_iff.mpr current, by rw [if_neg stays, same], by rw [if_neg stays, ← same]; rfl⟩
    | @goes present current deleting bare =>
      have finishes : Finishes object present := ⟨deleting, bare⟩
      exact ⟨present, current_iff.mpr current, by rw [if_pos finishes, exchanges.eq_merged],
        by rw [if_pos finishes]; rfl⟩

theorem replaceStatus_iff : store.perform (.replaceStatus object) = (.ok stored, after) ↔
    store.failing .replaceStatus = false ∧ Reported second update store object stored after := by
  refine replaceStatus_eq_ok_iff.trans (and_congr_right fun _ => ⟨?_, ?_⟩)
  · rintro ⟨present, current, rfl, rfl⟩
    exact .intro (current_iff.mp current) (exchanges.eq_takeStatus present object _).symm
  · rintro ⟨current, same⟩
    have same : stored = store.stamp (StatusCarrier.takeStatus _ object) :=
      same.trans (exchanges.eq_takeStatus _ object _)
    exact ⟨_, current_iff.mpr current, same, by rw [← same]; rfl⟩

theorem writesExactly : WritesExactly K second update where
  travels object source := by
    have version := exchanges.version? object source
    rw [exchanges.eq_takeStatus, ← version, Resource.withVersion_version?]
    exact StatusCarrier.withStatusOf_eq object source
  replaces := exchanges.replace_iff
  reports := exchanges.replaceStatus_iff
  apart := fun store call key other => object?_perform_of_ne store call (Ne.symm other)
  fresh history _ _ order _ _ held := version?_ne_nextVersion history order held
  refuses := perform_eq_error_iff
  atomic := perform_of_error

end Exchanges

end Writes

/-! ## Kinds of a codec -/

section Codec

variable {K M S T : Type} [ObjectMeta M] [ObjectKind K M] {times : Times K T} {cut : T → T} {wholeMeta : M → M}
  {second : ObjectMeta.Time M → ObjectMeta.Time M} {status : Part K S} {wholeStatus : S → S}
  (documented : Documented K (times.map cut) wholeMeta second status wholeStatus)

include documented

/-- The exchange of the status by way of documents is that of a kind with a codec. -/
theorem exchanges_of_documented :
    letI := documented.statusCarrier
    Exchanges second (exchange times cut status) :=
  letI := documented.statusCarrier
  { eq _ _ _ _ := rfl
    version? object source := by
      refine (congrArg ObjectMeta.version? (documented.metadata_whole_set (status.get source) object)).trans ?_
      exact documented.readsBack.version?_whole _
    deletionTime? object source := by
      refine (congrArg ObjectMeta.deletionTime? (documented.metadata_whole_set (status.get source) object)).trans ?_
      exact documented.readsBack.deletionTime?_whole _ }

theorem writesExactly_of_documented : WritesExactly K second (exchange times cut status) :=
  letI := documented.statusCarrier
  (exchanges_of_documented documented).writesExactly

/-- The mark that an object is given does not depend on the one that it had. -/
theorem withDeletionTime_whole (mark : Option (ObjectMeta.Time M)) (object : K) :
    Resource.withDeletionTime mark (times.map cut object) =
      Resource.withDeletionTime mark (times.map cut (Resource.withDeletionTime none object)) := by
  have bare : times.map cut (Resource.withDeletionTime none object) =
      Resource.withDeletionTime none (times.map cut object) := by
    refine (documented.metadataUnder.whole_set _ object).trans ?_
    rw [Resource.withDeletionTime, Resource.mapMetadata, documented.readsBack.whole_withDeletionTime]
    have metadata := documented.metadataUnder.get_whole object
    exact congrArg (fun given => Resource.withMetadata _ (ObjectMeta.withDeletionTime none given)) metadata.symm
  rw [bare, Resource.withDeletionTime_withDeletionTime]

theorem losesNothing_of_documented : LosesNothing times cut status (exchange times cut status) where
  exact {object source} whole mark version := by
    rw [exchange, withDeletionTime_whole documented, times.map_eq_self_iff.mpr whole,
      Resource.withDeletionTime_withDeletionTime]
  injective {object other source source'} same arrive := by
    have travels := documented.codec.withStatusOf_eq documented.statusUnder
    rw [travels, travels] at arrive
    exact times.ext same (Except.ok.inj arrive)

end Codec

end Store

end SharedMount
