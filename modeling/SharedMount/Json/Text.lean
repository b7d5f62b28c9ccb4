import SharedMount.Json.Basic
import SharedMount.Json.Numeral

/-! # JSON as text

`Json.render` writes a value without any space; control characters in strings are escaped, all
other characters stand for themselves. `Json.parse?` reads a text that holds exactly one value, with
space allowed between the parts. It keeps every field of an object in the order of the text, and a
part that no field of a document takes as it is written, so that such a part does no harm where
nobody looks at it. `Json.isReadable` tells whether every part is a value.
-/

namespace SharedMount.Json

/-- The characters that stand for one character in a JSON string. -/
def escapeChar : Char → List Char
  | '"' => ['\\', '"']
  | '\\' => ['\\', '\\']
  | '\n' => ['\\', 'n']
  | '\r' => ['\\', 'r']
  | '\t' => ['\\', 't']
  | '\x08' => ['\\', 'b']
  | '\x0c' => ['\\', 'f']
  | c =>
      if c.toNat < 0x20 then
        ['\\', 'u', '0', '0'] ++ (if c.toNat < 0x10 then ['0'] else []) ++ Nat.toDigits 16 c.toNat
      else [c]

/-- A string with its quotes. -/
def renderText (text : String) : List Char :=
  '"' :: text.toList.flatMap escapeChar ++ ['"']

mutual

/-- The characters of a value. -/
def renderChars : Json → List Char
  | .null => "null".toList
  | .bool true => "true".toList
  | .bool false => "false".toList
  | .num value => (toString value).toList
  | .str text => renderText text
  | .arr items => '[' :: renderItems items
  | .obj fields => '\x7b' :: renderFields fields
  | .verbatim text => text.toList

/-- The characters of the items of a list, with the bracket that ends it. -/
def renderItems : List Json → List Char
  | [] => [']']
  | [item] => renderChars item ++ [']']
  | item :: rest => renderChars item ++ ',' :: renderItems rest

/-- The characters of the fields of an object, with the brace that ends it. -/
def renderFields : List (String × Json) → List Char
  | [] => ['\x7d']
  | [(name, value)] => renderText name ++ ':' :: renderChars value ++ ['\x7d']
  | (name, value) :: rest =>
      renderText name ++ ':' :: renderChars value ++ ',' :: renderFields rest

end

/-- The text of a value. -/
def render (json : Json) : String :=
  String.ofList json.renderChars

/-- The characters that may stand between the parts of a document. -/
def isSpace (c : Char) : Bool :=
  c = ' ' || c = '\n' || c = '\r' || c = '\t'

/-- The value of a hexadecimal digit. -/
def hexValue? (c : Char) : Option Nat :=
  if '0' ≤ c ∧ c ≤ '9' then some (c.toNat - '0'.toNat)
  else if 'a' ≤ c ∧ c ≤ 'f' then some (c.toNat - 'a'.toNat + 10)
  else if 'A' ≤ c ∧ c ≤ 'F' then some (c.toNat - 'A'.toNat + 10)
  else none

/-- The number written by four hexadecimal digits. -/
def fourHex? (a b c d : Char) : Option Nat := do
  return (((← hexValue? a) * 16 + (← hexValue? b)) * 16 + (← hexValue? c)) * 16 + (← hexValue? d)

/-- The character that a character stands for after a backslash. -/
def unescape? : Char → Option Char
  | '"' => some '"'
  | '\\' => some '\\'
  | '/' => some '/'
  | 'b' => some '\x08'
  | 'f' => some '\x0c'
  | 'n' => some '\n'
  | 'r' => some '\r'
  | 't' => some '\t'
  | _ => none

/-- The code units of a string up to its closing quote, and the rest. A unit escaped by its number
may be a surrogate; a character that stands for itself is one unit. -/
def scanUnits? : List Char → Option (List Nat × List Char)
  | [] => none
  | '"' :: rest => some ([], rest)
  | '\\' :: 'u' :: a :: b :: c :: d :: rest => do
      let unit ← fourHex? a b c d
      let (units, rest) ← scanUnits? rest
      return (unit :: units, rest)
  | '\\' :: c :: rest => do
      let c ← unescape? c
      let (units, rest) ← scanUnits? rest
      return (c.toNat :: units, rest)
  | c :: rest =>
      if c.toNat < 0x20 ∨ c = '\\' then none
      else (scanUnits? rest).map fun (units, rest) => (c.toNat :: units, rest)

/-- Whether a unit is the first of a surrogate pair. -/
def isHighSurrogate (unit : Nat) : Bool :=
  0xD800 ≤ unit && unit < 0xDC00

/-- Whether a unit is the second of a surrogate pair. -/
def isLowSurrogate (unit : Nat) : Bool :=
  0xDC00 ≤ unit && unit < 0xE000

/-- The characters that code units make up, if every surrogate is in a pair. -/
def joinUnits? : List Nat → Option (List Char)
  | [] => some []
  | unit :: rest =>
      if isHighSurrogate unit then
        match rest with
        | [] => none
        | low :: rest =>
            if isLowSurrogate low then
              let point := 0x10000 + (unit - 0xD800) * 0x400 + (low - 0xDC00)
              (joinUnits? rest).map (Char.ofNat point :: ·)
            else none
      else if isLowSurrogate unit then none
      else (joinUnits? rest).map (Char.ofNat unit :: ·)

/-- The string that ends with the next quote, if its code units make up a text, and the rest. -/
def parseText? (text : List Char) : Option (Option String × List Char) :=
  (scanUnits? text).map fun (units, rest) => ((joinUnits? units).map String.ofList, rest)

/-- What stands between a place of a text and the rest after it, as it is written. -/
def verbatimUpTo (text rest : List Char) : Json :=
  .verbatim (String.ofList (text.take (text.length - rest.length)))

/-- The number that a text starts with, and the rest. -/
def parseNumber? (text : List Char) : Option (Json × List Char) :=
  (Numeral.scan? text).map fun (numeral, rest) =>
    (if numeral.isInteger then .num numeral.integer else verbatimUpTo text rest, rest)

/-- The object of fields whose names are all texts. -/
def ofFields? (fields : List (Option String × Json)) : Option Json := do
  return .obj (← fields.mapM fun (name, value) => do return (← name, value))

mutual

/-- The value that the text starts with, after any space, and the rest. -/
def parseValue? : Nat → List Char → Option (Json × List Char)
  | 0, _ => none
  | fuel + 1, text =>
      let start := text.dropWhile isSpace
      match start with
      | 'n' :: 'u' :: 'l' :: 'l' :: rest => some (.null, rest)
      | 't' :: 'r' :: 'u' :: 'e' :: rest => some (.bool true, rest)
      | 'f' :: 'a' :: 'l' :: 's' :: 'e' :: rest => some (.bool false, rest)
      | '"' :: rest => do
          let (value, rest) ← parseText? rest
          return ((value.map .str).getD (verbatimUpTo start rest), rest)
      | '[' :: rest =>
          match rest.dropWhile isSpace with
          | ']' :: rest => some (.arr [], rest)
          | rest => (parseItems? fuel rest).map fun (items, rest) => (.arr items, rest)
      | '\x7b' :: rest =>
          match rest.dropWhile isSpace with
          | '\x7d' :: rest => some (.obj [], rest)
          | rest =>
              (parseFields? fuel rest).map fun (fields, rest) =>
                ((ofFields? fields).getD (verbatimUpTo start rest), rest)
      | _ => parseNumber? start

/-- The items of a list up to its closing bracket, and the rest. -/
def parseItems? : Nat → List Char → Option (List Json × List Char)
  | 0, _ => none
  | fuel + 1, text => do
      let (item, rest) ← parseValue? fuel text
      match rest.dropWhile isSpace with
      | ']' :: rest => return ([item], rest)
      | ',' :: rest =>
          let (items, rest) ← parseItems? fuel rest
          return (item :: items, rest)
      | _ => none

/-- The fields of an object up to its closing brace, and the rest. -/
def parseFields? : Nat → List Char → Option (List (Option String × Json) × List Char)
  | 0, _ => none
  | fuel + 1, text =>
      match text.dropWhile isSpace with
      | '"' :: rest => do
          let (name, rest) ← parseText? rest
          match rest.dropWhile isSpace with
          | ':' :: rest =>
              let (value, rest) ← parseValue? fuel rest
              match rest.dropWhile isSpace with
              | '\x7d' :: rest => return ([(name, value)], rest)
              | ',' :: rest =>
                  let (fields, rest) ← parseFields? fuel rest
                  return ((name, value) :: fields, rest)
              | _ => none
          | _ => none
      | _ => none

end

/-- The value that a text holds, if it holds exactly one. -/
def parse? (text : String) : Option Json :=
  match parseValue? (text.length + 1) text.toList with
  | some (value, rest) => if rest.all isSpace then some value else none
  | none => none

/-- How many levels deep lists and objects may be nested in a document that is read as a whole. -/
def nestingLimit : Nat := 127

/-- Whether every part of a value is itself a value, and lists and objects are nested no deeper than a
number of levels. -/
def isReadable : Nat → Json → Bool
  | depth + 1, .arr items => items.all (isReadable depth)
  | depth + 1, .obj fields => fields.all fun field => isReadable depth field.2
  | 0, .arr _ | 0, .obj _ => false
  | _, .num value => value.natAbs < Numeral.hugeFrom
  | _, .verbatim text =>
      match Numeral.scan? text.toList with
      | some (numeral, []) => !numeral.isHuge
      | _ => false
  | _, .null | _, .bool _ | _, .str _ => true

end SharedMount.Json
