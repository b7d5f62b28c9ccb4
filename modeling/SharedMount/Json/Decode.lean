import SharedMount.Json.Basic
import Std.Data.ExtTreeMap

/-! # Reading typed values from JSON

A reader is a function `Json → Option α` that gives nothing on a value of the wrong shape. Fields
come in three kinds: an `optionalField` may be absent or `null`; a field read by `fieldOr` may be
absent but not `null`; a `requiredField` must be there. Where fields of one name are given, each must
be readable and the last one counts; a record refuses to be given a field of its own twice. Unknown
fields are never looked at.
-/

namespace SharedMount

/-- A map from texts to texts, such as the labels of an object. -/
abbrev TextMap := Std.ExtTreeMap String String

namespace Json

/-- Read a text. -/
def text? : Json → Option String
  | .str text => some text
  | _ => none

/-- Read a truth value. -/
def flag? : Json → Option Bool
  | .bool value => some value
  | _ => none

/-- Read a word of a fixed set, which the caller knows. A word may also be given as an object that
has it as its only field, with the value `null`. -/
def word? : Json → Option String
  | .str word => some word
  | .obj [(word, .null)] => some word
  | _ => none

/-- Read a natural number below a bound. -/
def below? (bound : Nat) : Json → Option Nat
  | .num value => if 0 ≤ value ∧ value < bound then some value.toNat else none
  | _ => none

/-- Read an object, in whatever fields it has. -/
def object? : Json → Option (List (String × Json))
  | .obj fields => some fields
  | _ => none

/-- Read a list of values that a reader reads. -/
def items? {α : Type} (read : Json → Option α) : Json → Option (List α)
  | .arr items => items.mapM read
  | _ => none

/-- Read a list of texts. -/
def texts? : Json → Option (List String) :=
  items? text?

/-- Read a map from texts to texts. -/
def textMap? : Json → Option TextMap
  | .obj fields => do
      let entries ← fields.mapM fun (name, value) => do return (name, ← text? value)
      return Std.ExtTreeMap.ofList entries
  | _ => none

/-- Write a list of texts. -/
def ofTexts (texts : List String) : Json :=
  .arr (texts.map .str)

/-- Write a map from texts to texts. -/
def ofTextMap (map : TextMap) : Json :=
  .obj (map.toList.map fun (name, value) => (name, .str value))

/-- Read a value, or `null` as nothing. -/
def nullable {α : Type} (read : Json → Option α) : Json → Option (Option α)
  | .null => some none
  | value => (read value).map some

/-- The values of the fields of a name. -/
def valuesOf (name : String) (fields : List (String × Json)) : List Json :=
  (fields.filter fun field => field.1 = name).map fun field => field.2

/-- Read every field of a name; the last one counts. -/
def field? {α : Type} (name : String) (read : Json → Option α) (fields : List (String × Json)) :
    Option (Option α) := do
  return (← (valuesOf name fields).mapM read).getLast?

/-- Read a field that may be absent or `null`. -/
def optionalField {α : Type} (name : String) (read : Json → Option α)
    (fields : List (String × Json)) : Option (Option α) := do
  return (← field? name (nullable read) fields).join

/-- Read a field that may be absent, in which case it has a fixed value. -/
def fieldOr {α : Type} (absent : α) (name : String) (read : Json → Option α)
    (fields : List (String × Json)) : Option α := do
  return (← field? name read fields).getD absent

/-- Read a field that must be there. -/
def requiredField {α : Type} (name : String) (read : Json → Option α)
    (fields : List (String × Json)) : Option α := do
  ← field? name read fields

/-- The named fields of a record, none of which may be given twice. A record may also be given by
position, as a list of the values of its leading fields, of which there must be so many at least. -/
def recordFields (least : Nat) (names : List String) : Json → Option (List (String × Json))
  | .obj fields =>
      if names.all fun name => (valuesOf name fields).length ≤ 1 then some fields else none
  | .arr items =>
      if least ≤ items.length ∧ items.length ≤ names.length then some (names.zip items) else none
  | _ => none

end Json

end SharedMount
