import SharedMount.Json.Decode

/-! # Reading back the fields of a record

A reader looks at a document only through the values that stand under each name. Setting or erasing
one field leaves the values of every other name alone, so a status can be exchanged inside a document
without a trace in what is read from the other fields.
-/

namespace SharedMount.Json

variable {α : Type}

@[simp] theorem valuesOf_record_nil (name : String) : valuesOf name (record []).fields = [] := rfl

@[simp] theorem valuesOf_record_cons (name key : String) (value : Option Json)
    (rest : List (String × Option Json)) :
    valuesOf name (record ((key, value) :: rest)).fields =
      (if key = name then value.toList else []) ++ valuesOf name (record rest).fields := by
  cases value with
  | none => simp [record, fields]
  | some value => by_cases same : key = name <;> simp [record, fields, valuesOf, same]

@[simp] theorem valuesOf_nil (name : String) : valuesOf name [] = [] := rfl

@[simp] theorem valuesOf_cons (name key : String) (value : Json) (rest : List (String × Json)) :
    valuesOf name ((key, value) :: rest) =
      (if key = name then [value] else []) ++ valuesOf name rest := by
  by_cases same : key = name <;> simp [valuesOf, same]

theorem lookup_eq_head?_valuesOf (name : String) (fields : List (String × Json)) :
    lookup name fields = (valuesOf name fields).head? := by
  induction fields with
  | nil => rfl
  | cons field rest ih =>
    obtain ⟨key, value⟩ := field
    by_cases same : key = name <;> simp_all [lookup, valuesOf]

/-- Erasing a field leaves the values of other names alone. -/
theorem valuesOf_eraseField (name other : String) (fields : List (String × Json)) :
    valuesOf other (eraseField name fields) = if name = other then [] else valuesOf other fields := by
  induction fields with
  | nil => simp [eraseField, valuesOf]
  | cons field rest ih =>
    obtain ⟨key, value⟩ := field
    by_cases dropped : key = name <;> by_cases wanted : key = other <;>
      by_cases same : name = other <;> simp_all [eraseField, valuesOf]

private theorem valuesOf_insertField (name other : String) (value : Json)
    (fields : List (String × Json)) (fresh : valuesOf name fields = []) :
    valuesOf other (insertField name value fields) =
      if name = other then [value] else valuesOf other fields := by
  induction fields with
  | nil => by_cases same : name = other <;> simp [insertField, valuesOf, same]
  | cons field rest ih =>
    obtain ⟨key, old⟩ := field
    have differs : key ≠ name := by
      rintro rfl
      simp [valuesOf] at fresh
    have freshRest : valuesOf name rest = [] := by simpa [valuesOf, differs] using fresh
    simp only [insertField]
    split
    · by_cases same : name = other
      · subst same
        simpa [valuesOf] using fresh
      · simp [valuesOf, same]
    · have rest := ih freshRest
      by_cases wanted : key = other
      · have other' : name ≠ other := fun same => differs (wanted.trans same.symm)
        simp only [other', ↓reduceIte] at rest ⊢
        simpa [valuesOf, wanted] using rest
      · simpa [valuesOf, wanted] using rest

/-- Setting a field leaves the values of other names alone and puts one value under its own. -/
theorem valuesOf_setField (name other : String) (value : Json) (fields : List (String × Json)) :
    valuesOf other (setField name value fields) =
      if name = other then [value] else valuesOf other fields := by
  rw [setField, valuesOf_insertField _ _ _ _ (by simp [valuesOf_eraseField]), valuesOf_eraseField]
  split <;> rfl

/-- Erasing a field of a record takes one entry out of the list that it is made of. -/
theorem erase_record (name : String) (entries : List (String × Option Json)) :
    (record entries).erase name = record (entries.filter fun entry => entry.1 ≠ name) := by
  refine congrArg Json.obj ?_
  induction entries with
  | nil => rfl
  | cons entry rest ih =>
    obtain ⟨key, value⟩ := entry
    cases value <;> by_cases same : key = name <;> simp_all [eraseField]

theorem valuesOf_append (name : String) (fields others : List (String × Json)) :
    valuesOf name (fields ++ others) = valuesOf name fields ++ valuesOf name others := by
  simp [valuesOf]

/-- An object is a record if it gives no field of the record twice. -/
theorem recordFields_obj_iff {least : Nat} {names : List String} {fields known : List (String × Json)} :
    (Json.obj fields).recordFields least names = some known ↔
      (∀ name ∈ names, (valuesOf name fields).length ≤ 1) ∧ fields = known := by
  simp [recordFields]

/-- A list is a record if it gives so many leading fields as there must be at least. -/
theorem recordFields_arr_iff {least : Nat} {names : List String} {items : List Json}
    {known : List (String × Json)} :
    (Json.arr items).recordFields least names = some known ↔
      (least ≤ items.length ∧ items.length ≤ names.length) ∧ names.zip items = known := by
  simp [recordFields]

/-! ## Fields -/

theorem nullable_of_ne_null {read : Json → Option α} {document : Json} (present : document ≠ .null) :
    nullable read document = (read document).map some := by
  cases document with
  | null => exact absurd rfl present
  | _ => rfl

theorem field?_eq_some_iff {name : String} {read : Json → Option α} {fields : List (String × Json)}
    {last : Option α} :
    field? name read fields = some last ↔
      ∃ values, (valuesOf name fields).mapM read = some values ∧ values.getLast? = last := by
  simp [field?, Option.bind_eq_some_iff]

theorem optionalField_eq_some_iff {name : String} {read : Json → Option α}
    {fields : List (String × Json)} {value : Option α} :
    optionalField name read fields = some value ↔
      ∃ last, field? name (nullable read) fields = some last ∧ last.join = value := by
  simp [optionalField, Option.bind_eq_some_iff]

theorem fieldOr_eq_some_iff {absent : α} {name : String} {read : Json → Option α}
    {fields : List (String × Json)} {value : α} :
    fieldOr absent name read fields = some value ↔
      ∃ last, field? name read fields = some last ∧ last.getD absent = value := by
  simp [fieldOr, Option.bind_eq_some_iff]

theorem requiredField_eq_some_iff {name : String} {read : Json → Option α}
    {fields : List (String × Json)} {value : α} :
    requiredField name read fields = some value ↔ field? name read fields = some (some value) := by
  simp [requiredField, Option.bind_eq_some_iff]

/-- What a field is read as depends on the values under its name only. -/
theorem optionalField_congr {name : String} {fields others : List (String × Json)}
    (same : valuesOf name others = valuesOf name fields) (read : Json → Option α) :
    optionalField name read others = optionalField name read fields := by
  rw [optionalField, field?, same]
  rfl

theorem requiredField_congr {name : String} {fields others : List (String × Json)}
    (same : valuesOf name others = valuesOf name fields) (read : Json → Option α) :
    requiredField name read others = requiredField name read fields := by
  rw [requiredField, field?, same]
  rfl

/-- A field that must be there and is there once has a single value. -/
theorem valuesOf_of_requiredField {name : String} {read : Json → Option α}
    {fields : List (String × Json)} {value : α} (once : (valuesOf name fields).length ≤ 1)
    (reads : requiredField name read fields = some value) :
    ∃ document, valuesOf name fields = [document] ∧ read document = some value := by
  match values : valuesOf name fields with
  | [] => simp [requiredField, field?, values] at reads
  | [document] =>
    refine ⟨document, rfl, ?_⟩
    cases given : read document <;> simp [requiredField, field?, values, given] at reads
    exact congrArg some reads
  | _ :: _ :: _ => simp [values] at once

/-- A field that may be absent is read back as what is read for its value. -/
theorem optionalField_map_of_valuesOf {name : String} {read : Json → Option α}
    {fields : List (String × Json)} (write : α → Json) (whole : α → α) (value : Option α)
    (written : valuesOf name fields = (value.map write).toList)
    (reads : ∀ a ∈ value, nullable read (write a) = some (some (whole a))) :
    optionalField name read fields = some (value.map whole) := by
  cases value with
  | none => simp_all [optionalField, field?]
  | some a => simp_all [optionalField, field?]

/-- A field that may be absent is read back as it was written. -/
theorem optionalField_of_valuesOf {name : String} {read : Json → Option α}
    {fields : List (String × Json)} (write : α → Json) (value : Option α)
    (written : valuesOf name fields = (value.map write).toList)
    (reads : ∀ a ∈ value, nullable read (write a) = some (some a)) :
    optionalField name read fields = some value := by
  rw [optionalField_map_of_valuesOf write id value written reads, Option.map_id, id]

/-- A field that is written as `null` when it is absent is read back as it was written. -/
theorem optionalField_of_nullable {name : String} {read : Json → Option α}
    {fields : List (String × Json)} (write : α → Json) (value : Option α)
    (written : valuesOf name fields = [(value.map write).getD .null])
    (reads : ∀ a ∈ value, nullable read (write a) = some (some a)) :
    optionalField name read fields = some value := by
  cases value with
  | none => simp_all [optionalField, field?, nullable]
  | some a => simp_all [optionalField, field?]

/-- A field that must be there is read back as it was written. -/
theorem requiredField_of_valuesOf {name : String} {read : Json → Option α}
    {fields : List (String × Json)} {document : Json} {value : α}
    (written : valuesOf name fields = [document]) (reads : read document = some value) :
    requiredField name read fields = some value := by
  simp [requiredField, field?, written, reads]

/-- A field with a fixed value for absence is read back as it was written. -/
theorem fieldOr_of_valuesOf {absent : α} {name : String} {read : Json → Option α}
    {fields : List (String × Json)} {document : Json} {value : α}
    (written : valuesOf name fields = [document]) (reads : read document = some value) :
    fieldOr absent name read fields = some value := by
  simp [fieldOr, field?, written, reads]

@[simp] theorem text?_str (text : String) : text? (.str text) = some text := rfl

@[simp] theorem nullable_text?_str (text : String) :
    nullable text? (.str text) = some (some text) := rfl

@[simp] theorem nullable_flag?_bool (value : Bool) :
    nullable flag? (.bool value) = some (some value) := rfl

/-- A list of texts is read back as it was written. -/
theorem texts?_ofTexts (texts : List String) : texts? (ofTexts texts) = some texts := by
  simp only [texts?, items?, ofTexts]
  induction texts with
  | nil => rfl
  | cons text rest ih => simp_all

@[simp] theorem nullable_texts?_ofTexts (texts : List String) :
    nullable texts? (ofTexts texts) = some (some texts) := by
  change (texts? (ofTexts texts)).map some = _
  rw [texts?_ofTexts]
  rfl

private theorem ofList_toList (map : TextMap) : Std.ExtTreeMap.ofList map.toList = map := by
  apply Std.ExtTreeMap.ext_getElem?
  intro name
  cases present : map[name]? with
  | none =>
    apply Std.ExtTreeMap.getElem?_ofList_of_contains_eq_false
    rw [← Bool.not_eq_true, List.contains_eq_mem, decide_eq_true_eq]
    intro member
    obtain ⟨⟨key, value⟩, listed, rfl⟩ := List.mem_map.mp member
    rw [Std.ExtTreeMap.mem_toList_iff_getElem?_eq_some.mp listed] at present
    contradiction
  | some value =>
    exact Std.ExtTreeMap.getElem?_ofList_of_mem (by simp) Std.ExtTreeMap.distinct_keys_toList
      (Std.ExtTreeMap.mem_toList_iff_getElem?_eq_some.mpr present)

private theorem mapM_text?_fields (entries : List (String × String)) :
    (entries.map fun entry => (entry.1, Json.str entry.2)).mapM
      (fun entry => do return (entry.1, ← text? entry.2)) = some entries := by
  induction entries with
  | nil => rfl
  | cons entry rest ih => simp_all

/-- A map of texts is read back as it was written. -/
theorem textMap?_ofTextMap (map : TextMap) : textMap? (ofTextMap map) = some map := by
  simp only [textMap?, ofTextMap]
  rw [mapM_text?_fields map.toList]
  exact congrArg some (ofList_toList map)

@[simp] theorem nullable_textMap?_ofTextMap (map : TextMap) :
    nullable textMap? (ofTextMap map) = some (some map) := by
  change (textMap? (ofTextMap map)).map some = _
  rw [textMap?_ofTextMap]
  rfl

end SharedMount.Json
