import SharedMount.Proofs.Codec.Record

/-! # Records under small changes

A record is read by the names that its reader knows, whether its document gives the fields by name or by position. A
retouch changes one place of a document and nothing that a reader looks for: a field of another name, the value of such
a field, or `null` where an optional field was absent. Whatever is read of a document is also read of the document
after a retouch; one lemma says so for each of the three ways of reading a field.
-/

namespace SharedMount.Json

variable {α : Type}

/-! ## Retouches -/

/-- What the reader of a record knows of its fields. -/
structure RecordForm where
  /-- The names of the fields, in the order in which a document gives them by position. -/
  names : List String
  /-- The fields that may be absent and may as well be `null`. -/
  optional : List String := []
  /-- The fields whose values can be retouched themselves, and how. -/
  parts : List (String × (Json → Json → Prop)) := []

namespace RecordForm

/-- One change of the fields of a record that its reader does not notice. -/
inductive Retouch (form : RecordForm) : List (String × Json) → List (String × Json) → Prop
  /-- A field that the reader does not know is added in any place. -/
  | added {name : String} (unknown : name ∉ form.names) (value : Json) (before after : List (String × Json)) :
      Retouch form (before ++ after) (before ++ (name, value) :: after)
  /-- A field that the reader does not know gets any other value. -/
  | altered {name : String} (unknown : name ∉ form.names) (former value : Json) (before after : List (String × Json)) :
      Retouch form (before ++ (name, former) :: after) (before ++ (name, value) :: after)
  /-- An optional field that was absent is `null`. -/
  | nulled {name : String} (optional : name ∈ form.optional) (before after : List (String × Json))
      (absent : valuesOf name (before ++ after) = []) : Retouch form (before ++ after) (before ++ (name, .null) :: after)
  /-- The value of a field is retouched. -/
  | within {name : String} {retouches : Json → Json → Prop} (part : (name, retouches) ∈ form.parts)
      {former value : Json} (retouched : retouches former value) (before after : List (String × Json)) :
      Retouch form (before ++ (name, former) :: after) (before ++ (name, value) :: after)

/-- One change of the document of a record that its reader does not notice. A document by position has the fields of
these positions. -/
inductive Retouched (form : RecordForm) : Json → Json → Prop
  | byName {fields others : List (String × Json)} (retouch : form.Retouch fields others) :
      Retouched form (.obj fields) (.obj others)
  | byPosition {items others : List Json} (kept : items.length ≤ others.length)
      (fits : others.length ≤ form.names.length)
      (retouch : form.Retouch (form.names.zip items) (form.names.zip others)) : Retouched form (.arr items) (.arr others)

/-- How the values of a field can differ that a reader knows. -/
inductive Alike (form : RecordForm) (name : String) : List Json → List Json → Prop
  | same (values : List Json) : Alike form name values values
  | nulled (optional : name ∈ form.optional) : Alike form name [] [.null]
  | within {retouches : Json → Json → Prop} (part : (name, retouches) ∈ form.parts) {former value : Json}
      (retouched : retouches former value) (before after : List Json) :
      Alike form name (before ++ former :: after) (before ++ value :: after)

end RecordForm

/-- The values that the document of a record gives under a name, by name or by position. -/
def given (names : List String) (name : String) : Json → List Json
  | .obj fields => valuesOf name fields
  | .arr items => valuesOf name (names.zip items)
  | _ => []

theorem valuesOf_of_recordFields {least : Nat} {names : List String} {document : Json} {fields : List (String × Json)}
    (known : document.recordFields least names = some fields) (name : String) :
    valuesOf name fields = given names name document := by
  cases document with
  | obj fields => rw [← (recordFields_obj_iff.mp known).2, given]
  | arr items => rw [← (recordFields_arr_iff.mp known).2, given]
  | _ => cases known

namespace RecordForm

variable {form : RecordForm} {name : String}

/-- A retouch leaves each field that the reader knows alike. -/
theorem Retouch.alike {fields others : List (String × Json)} (retouch : form.Retouch fields others)
    (known : name ∈ form.names) : form.Alike name (valuesOf name fields) (valuesOf name others) := by
  cases retouch with
  | @added other unknown value before after =>
    have differ : other ≠ name := fun same => unknown (same ▸ known)
    simpa [valuesOf_append, differ] using Alike.same _
  | @altered other unknown former value before after =>
    have differ : other ≠ name := fun same => unknown (same ▸ known)
    simpa [valuesOf_append, differ] using Alike.same _
  | @nulled other optional before after absent =>
    by_cases same : other = name
    · subst same
      rw [valuesOf_append] at absent ⊢
      obtain ⟨noneBefore, noneAfter⟩ := List.append_eq_nil_iff.mp absent
      simpa [valuesOf_append, noneBefore, noneAfter] using Alike.nulled optional
    · simpa [valuesOf_append, same] using Alike.same _
  | @within other retouches part former value retouched before after =>
    by_cases same : other = name
    · subst same
      simpa [valuesOf_append] using Alike.within part retouched (valuesOf other before) (valuesOf other after)
    · simpa [valuesOf_append, same] using Alike.same _

/-- No field is given twice that was given once. -/
theorem Alike.length_le_one {values others : List Json} (alike : form.Alike name values others)
    (once : values.length ≤ 1) : others.length ≤ 1 := by
  cases alike with
  | same => exact once
  | nulled => exact Nat.le_refl 1
  | within => simpa using once

/-- After a retouch a record is still one, and each field that the reader knows is alike. -/
theorem Retouched.recordFields {least : Nat} {document other : Json} {fields : List (String × Json)}
    (retouched : form.Retouched document other) (reads : document.recordFields least form.names = some fields) :
    ∃ others, other.recordFields least form.names = some others ∧
      ∀ name ∈ form.names, form.Alike name (valuesOf name fields) (valuesOf name others) := by
  cases retouched with
  | byName retouch =>
    obtain ⟨once, rfl⟩ := recordFields_obj_iff.mp reads
    refine ⟨_, recordFields_obj_iff.mpr ⟨fun name known => ?_, rfl⟩, fun _ => retouch.alike⟩
    exact (retouch.alike known).length_le_one (once name known)
  | byPosition kept fits retouch =>
    obtain ⟨⟨enough, -⟩, rfl⟩ := recordFields_arr_iff.mp reads
    exact ⟨_, recordFields_arr_iff.mpr ⟨⟨Nat.le_trans enough kept, fits⟩, rfl⟩, fun _ => retouch.alike⟩

/-- Neither document of a retouch is `null`. -/
theorem Retouched.ne_null {document other : Json} (retouched : form.Retouched document other) :
    document ≠ .null ∧ other ≠ .null := by
  cases retouched <;> simp

end RecordForm

/-! ## Readers -/

/-- What is read of one document is read of the other. -/
def Kept (read : Json → Option α) (document other : Json) : Prop :=
  ∀ value, read document = some value → read other = some value

/-- What is read of a document is kept where it may be `null`, too. -/
theorem Kept.nullable {read : Json → Option α} {document other : Json} (kept : Kept read document other)
    (present : document ≠ .null ∧ other ≠ .null) : Kept (nullable read) document other := by
  intro value reads
  rw [nullable_of_ne_null present.1] at reads
  rw [nullable_of_ne_null present.2]
  obtain ⟨inner, readsInner, rfl⟩ := Option.map_eq_some_iff.mp reads
  rw [kept inner readsInner, Option.map_some]

private theorem mapM_append_cons_iff {read : Json → Option α} {before after : List Json} {value : Json}
    {values : List α} :
    (before ++ value :: after).mapM read = some values ↔ ∃ first own last, before.mapM read = some first ∧
      read value = some own ∧ after.mapM read = some last ∧ first ++ own :: last = values := by
  simp only [List.mapM_append, List.mapM_cons, Option.bind_eq_bind, Option.bind_eq_some_iff, Option.pure_def,
    Option.some.injEq]
  constructor
  · rintro ⟨first, readsBefore, _, ⟨own, readsOwn, last, readsAfter, rfl⟩, same⟩
    exact ⟨first, own, last, readsBefore, readsOwn, readsAfter, same⟩
  · rintro ⟨first, own, last, readsBefore, readsOwn, readsAfter, same⟩
    exact ⟨first, readsBefore, _, ⟨own, readsOwn, last, readsAfter, rfl⟩, same⟩

/-- Each value of a field that is read is read. -/
theorem reads_of_field? {name : String} {read : Json → Option α} {fields : List (String × Json)} {last : Option α}
    (reads : field? name read fields = some last) {value : Json} (there : value ∈ valuesOf name fields) :
    ∃ own, read value = some own := by
  obtain ⟨values, readsAll, -⟩ := field?_eq_some_iff.mp reads
  obtain ⟨before, after, split⟩ := List.append_of_mem there
  rw [split] at readsAll
  obtain ⟨-, own, -, -, readsOwn, -⟩ := mapM_append_cons_iff.mp readsAll
  exact ⟨own, readsOwn⟩

/-- A field that must be there is there. -/
theorem valuesOf_ne_nil_of_requiredField {name : String} {read : Json → Option α} {fields : List (String × Json)}
    {value : α} (reads : requiredField name read fields = some value) : valuesOf name fields ≠ [] := by
  intro missing
  obtain ⟨values, readsAll, there⟩ := field?_eq_some_iff.mp (requiredField_eq_some_iff.mp reads)
  obtain rfl : values = [] := by simpa [missing] using readsAll.symm
  cases there

namespace RecordForm

variable {form : RecordForm} {name : String} {fields others : List (String × Json)}

/-- A reader keeps the values of a field if it keeps them through each retouch of them. -/
def Keeps (form : RecordForm) (name : String) (read : Json → Option α) : Prop :=
  ∀ retouches, (name, retouches) ∈ form.parts → ∀ document other, retouches document other → Kept read document other

/-- A field of which nothing can be retouched is kept. -/
theorem keeps_of_whole (whole : name ∉ form.parts.map Prod.fst) (read : Json → Option α) : form.Keeps name read :=
  fun _ part => absurd (List.mem_map.mpr ⟨_, part, rfl⟩) whole

/-- A field that holds a record is kept, absent or not, if the reader of this record keeps what it reads. -/
theorem keeps_of_part {inner : RecordForm} {read : Json → Option α}
    (only : ∀ retouches, (name, retouches) ∈ form.parts → retouches = inner.Retouched)
    (kept : ∀ {document other : Json}, inner.Retouched document other → Kept read document other) :
    form.Keeps name read ∧ form.Keeps name (nullable read) := by
  constructor
  · intro retouches part document other retouched
    obtain rfl := only retouches part
    exact kept retouched
  · intro retouches part document other retouched
    obtain rfl := only retouches part
    exact (kept retouched).nullable retouched.ne_null

/-- Alike values are read alike, unless the first value of all is `null` where there was none. -/
private theorem Alike.mapM {read : Json → Option α} {values others : List Json}
    (alike : form.Alike name values others) (keeps : form.Keeps name read) {results : List α}
    (reads : values.mapM read = some results) :
    others.mapM read = some results ∨ name ∈ form.optional ∧ results = [] ∧ others = [.null] := by
  cases alike with
  | same => exact .inl reads
  | nulled optional => exact .inr ⟨optional, by simpa using reads.symm, rfl⟩
  | within part retouched before after =>
    obtain ⟨first, own, last, readsBefore, readsOwn, readsAfter, rfl⟩ := mapM_append_cons_iff.mp reads
    exact .inl (mapM_append_cons_iff.mpr
      ⟨first, own, last, readsBefore, keeps _ part _ _ retouched own readsOwn, readsAfter, rfl⟩)

private theorem Alike.field? {read : Json → Option α}
    (alike : form.Alike name (valuesOf name fields) (valuesOf name others)) (needed : name ∉ form.optional)
    (keeps : form.Keeps name read) {last : Option α} (reads : Json.field? name read fields = some last) :
    Json.field? name read others = some last := by
  obtain ⟨values, readsAll, same⟩ := field?_eq_some_iff.mp reads
  rcases alike.mapM keeps readsAll with readsOthers | ⟨optional, -⟩
  · exact field?_eq_some_iff.mpr ⟨values, readsOthers, same⟩
  · exact absurd optional needed

/-- A field that must be there is read as before. -/
theorem Alike.requiredField {read : Json → Option α}
    (alike : form.Alike name (valuesOf name fields) (valuesOf name others)) (needed : name ∉ form.optional)
    (keeps : form.Keeps name read) {value : α} (reads : Json.requiredField name read fields = some value) :
    Json.requiredField name read others = some value :=
  requiredField_eq_some_iff.mpr (alike.field? needed keeps (requiredField_eq_some_iff.mp reads))

/-- A field with a fixed value for absence is read as before. -/
theorem Alike.fieldOr {read : Json → Option α} {absent : α}
    (alike : form.Alike name (valuesOf name fields) (valuesOf name others)) (needed : name ∉ form.optional)
    (keeps : form.Keeps name read) {value : α} (reads : Json.fieldOr absent name read fields = some value) :
    Json.fieldOr absent name read others = some value := by
  obtain ⟨last, readsLast, same⟩ := fieldOr_eq_some_iff.mp reads
  exact fieldOr_eq_some_iff.mpr ⟨last, alike.field? needed keeps readsLast, same⟩

/-- A field that may be absent is read as before, also where it is `null` now. -/
theorem Alike.optionalField {read : Json → Option α}
    (alike : form.Alike name (valuesOf name fields) (valuesOf name others)) (keeps : form.Keeps name (nullable read))
    {value : Option α} (reads : Json.optionalField name read fields = some value) :
    Json.optionalField name read others = some value := by
  obtain ⟨last, readsLast, same⟩ := optionalField_eq_some_iff.mp reads
  obtain ⟨values, readsAll, latest⟩ := field?_eq_some_iff.mp readsLast
  rcases alike.mapM keeps readsAll with readsOthers | ⟨-, rfl, null⟩
  · exact optionalField_eq_some_iff.mpr ⟨last, field?_eq_some_iff.mpr ⟨values, readsOthers, latest⟩, same⟩
  · obtain rfl : last = none := latest.symm
    exact optionalField_eq_some_iff.mpr ⟨some none, field?_eq_some_iff.mpr ⟨[none], by rw [null]; rfl, rfl⟩, same⟩

end RecordForm

end SharedMount.Json
