/-! # JSON values

Objects of the cluster travel as JSON. An object is a list of named fields, of which a text may give
several under one name; `get?` reads the first field of a name, `set` and `erase` change all fields
of a name. Fields written by `record` and `set` stand in increasing order of their names when they
start so, which makes equal documents equal values.
-/

namespace SharedMount

/-- A JSON value. Numbers are integers: no field of a document takes any other number. -/
inductive Json where
  | null
  | bool (value : Bool)
  | num (value : Int)
  | str (value : String)
  | arr (items : List Json)
  | obj (fields : List (String × Json))
  /-- A part of a text that no field of a document takes, as it is written there: a number that is
  not written as an integer, or a string or a field name that pairs its surrogates wrongly. -/
  | verbatim (text : String)
deriving Inhabited, Repr

namespace Json

mutual

/-- Equality of values is decidable. -/
def decEq : (a b : Json) → Decidable (a = b)
  | .null, .null => isTrue rfl
  | .bool a, .bool b => decidable_of_iff (a = b) (by simp)
  | .num a, .num b => decidable_of_iff (a = b) (by simp)
  | .str a, .str b => decidable_of_iff (a = b) (by simp)
  | .arr a, .arr b => have := decEqItems a b; decidable_of_iff (a = b) (by simp)
  | .obj a, .obj b => have := decEqFields a b; decidable_of_iff (a = b) (by simp)
  | .verbatim a, .verbatim b => decidable_of_iff (a = b) (by simp)
  | .null, .bool _ | .null, .num _ | .null, .str _ | .null, .arr _ | .null, .obj _
  | .null, .verbatim _
  | .bool _, .null | .bool _, .num _ | .bool _, .str _ | .bool _, .arr _ | .bool _, .obj _
  | .bool _, .verbatim _
  | .num _, .null | .num _, .bool _ | .num _, .str _ | .num _, .arr _ | .num _, .obj _
  | .num _, .verbatim _
  | .str _, .null | .str _, .bool _ | .str _, .num _ | .str _, .arr _ | .str _, .obj _
  | .str _, .verbatim _
  | .arr _, .null | .arr _, .bool _ | .arr _, .num _ | .arr _, .str _ | .arr _, .obj _
  | .arr _, .verbatim _
  | .obj _, .null | .obj _, .bool _ | .obj _, .num _ | .obj _, .str _ | .obj _, .arr _
  | .obj _, .verbatim _
  | .verbatim _, .null | .verbatim _, .bool _ | .verbatim _, .num _ | .verbatim _, .str _
  | .verbatim _, .arr _ | .verbatim _, .obj _ =>
      isFalse nofun

/-- Equality of lists of values is decidable. -/
def decEqItems : (a b : List Json) → Decidable (a = b)
  | [], [] => isTrue rfl
  | a :: as, b :: bs =>
      have := decEq a b
      have := decEqItems as bs
      decidable_of_iff (a = b ∧ as = bs) (by simp)
  | [], _ :: _ | _ :: _, [] => isFalse nofun

/-- Equality of lists of fields is decidable. -/
def decEqFields : (a b : List (String × Json)) → Decidable (a = b)
  | [], [] => isTrue rfl
  | (m, a) :: as, (n, b) :: bs =>
      have := decEq a b
      have := decEqFields as bs
      decidable_of_iff ((m = n ∧ a = b) ∧ as = bs) (by simp)
  | [], _ :: _ | _ :: _, [] => isFalse nofun

end

instance : DecidableEq Json := decEq

/-- The first value under a name in a list of fields. -/
def lookup (name : String) : List (String × Json) → Option Json
  | [] => none
  | (key, value) :: rest => if key = name then some value else lookup name rest

/-- The fields without those of a name. -/
def eraseField (name : String) (fields : List (String × Json)) : List (String × Json) :=
  fields.filter fun field => field.1 ≠ name

/-- The fields with one value under a name, in front of the first field with a greater name. -/
def insertField (name : String) (value : Json) : List (String × Json) → List (String × Json)
  | [] => [(name, value)]
  | (key, old) :: rest =>
      if name < key then (name, value) :: (key, old) :: rest
      else (key, old) :: insertField name value rest

/-- The fields with one value under a name in place of any earlier ones. -/
def setField (name : String) (value : Json) (fields : List (String × Json)) :
    List (String × Json) :=
  insertField name value (eraseField name fields)

/-- The fields of an object; any other value has none. -/
def fields : Json → List (String × Json)
  | .obj fields => fields
  | _ => []

/-- The value of a field of an object, if it has that field. -/
def get? (json : Json) (name : String) : Option Json :=
  lookup name json.fields

/-- An object with a field set to a value; any other value is left alone. -/
def set (json : Json) (name : String) (value : Json) : Json :=
  match json with
  | .obj fields => .obj (setField name value fields)
  | other => other

/-- An object without a field; any other value is left alone. -/
def erase (json : Json) (name : String) : Json :=
  match json with
  | .obj fields => .obj (eraseField name fields)
  | other => other

/-- An object with a field as it is given: set to a value, or not there. -/
def exchange (json : Json) (name : String) : Option Json → Json
  | some value => json.set name value
  | none => json.erase name

/-- An object of those fields that are present. -/
def record (fields : List (String × Option Json)) : Json :=
  .obj (fields.filterMap fun (name, value) => value.map fun value => (name, value))

theorem lookup_eraseField (name other : String) (fields : List (String × Json)) :
    lookup other (eraseField name fields) = if name = other then none else lookup other fields := by
  induction fields with
  | nil => simp [eraseField, lookup]
  | cons field rest ih =>
    obtain ⟨key, value⟩ := field
    by_cases dropped : key = name <;> by_cases wanted : key = other <;>
      by_cases same : name = other <;> simp_all [eraseField, lookup]

theorem lookup_insertField (name other : String) (value : Json) (fields : List (String × Json))
    (fresh : lookup name fields = none) :
    lookup other (insertField name value fields) =
      if name = other then some value else lookup other fields := by
  induction fields with
  | nil => simp [insertField, lookup]
  | cons field rest ih =>
    obtain ⟨key, old⟩ := field
    simp only [lookup] at fresh
    split at fresh
    · simp at fresh
    next differs =>
      by_cases before : name < key
      · simp [insertField, lookup, before]
      · simp only [insertField, before, ↓reduceIte, lookup, ih fresh]
        by_cases wanted : key = other
        · have other' : name ≠ other := fun same => differs (wanted.trans same.symm)
          simp [wanted, other']
        · simp [wanted]

/-- Setting a field changes what is read under its name and under no other. -/
theorem lookup_setField (name other : String) (value : Json) (fields : List (String × Json)) :
    lookup other (setField name value fields) =
      if name = other then some value else lookup other fields := by
  rw [setField, lookup_insertField _ _ _ _ (by simp [lookup_eraseField]), lookup_eraseField]
  split <;> rfl

end Json

end SharedMount
