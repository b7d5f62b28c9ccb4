import SharedMount.Json.Basic

/-! # YAML in block style

Documents written for people: a field or an item a line, nested parts indented by two spaces, lists
not indented under their field. A text stands plainly where that cannot be misread, in single quotes
where it could be, and as a literal block when it has several lines. Fields keep their order.
-/

namespace SharedMount.Yaml

/-- Texts that stand for a truth value or for nothing, in any case of their letters. -/
def reservedWords : List String :=
  ["", "~", "null", "true", "false", "y", "yes", "n", "no", "on", "off"]

/-- Whether the start of a text reads as that of a number. -/
def startsNumber : List Char → Bool
  | c :: d :: _ => c.isDigit || ((c = '+' || c = '-' || c = '.') && d.isDigit)
  | [c] => c.isDigit
  | [] => false

/-- Characters that have a meaning of their own at the start of a value. -/
def indicators : List Char :=
  ['#', ',', '[', ']', '\x7b', '\x7d', '&', '*', '!', '|', '>', '\'', '"', '%', '@', '\x60']

/-- Whether a text holds a colon that ends a key or a number sign that starts a comment. -/
def hasMark : List Char → Bool
  | [':'] => true
  | ':' :: ' ' :: _ => true
  | ' ' :: '#' :: _ => true
  | _ :: rest => hasMark rest
  | [] => false

/-- Whether the start of a text reads as that of a list item, a key or a value. -/
def startsEntry : List Char → Bool
  | [c] => c = '-' || c = '?' || c = ':'
  | c :: ' ' :: _ => c = '-' || c = '?' || c = ':'
  | _ => false

/-- Whether a text on one line can stand without quotes. -/
def isPlain (text : String) : Bool :=
  let chars := text.toList
  let lower := String.ofList (chars.map Char.toLower)
  !reservedWords.contains lower && !startsNumber chars && !startsEntry chars && !hasMark chars &&
    chars.head? ≠ some ' ' && chars.getLast? ≠ some ' ' &&
    !"---".toList.isPrefixOf chars && !"...".toList.isPrefixOf chars &&
    !indicators.any fun c => chars.head? = some c

/-- A text in single quotes, with each of its own single quotes written twice. -/
def singleQuoted (text : String) : String :=
  String.ofList ('\'' :: (text.toList.flatMap fun c => if c = '\'' then [c, c] else [c]) ++ ['\''])

/-- A text on one line. -/
def lineText (text : String) : String :=
  if isPlain text then text else singleQuoted text

/-- Lines two spaces further in; empty lines stay empty. -/
def indent (lines : List String) : List String :=
  lines.map fun line => if line = "" then "" else "  " ++ line

/-- The head and the lines of a literal block: a minus sign in the head says that no line break ends
the text, a plus sign that several do. -/
def literal (text : String) : String × List String :=
  let lines := text.splitOn "\n"
  match lines.reverse with
  | "" :: "" :: _ => ("|+", lines.dropLast)
  | "" :: _ => ("|", lines.dropLast)
  | _ => ("|-", lines)

mutual

/-- What stands on the line of a key or a dash, and the lines below it. -/
def parts : Json → String × List String
  | .null => ("null", [])
  | .bool true => ("true", [])
  | .bool false => ("false", [])
  | .num value => (toString value, [])
  | .str text =>
      if text.contains '\n' then
        let (head, lines) := literal text
        (head, indent lines)
      else (lineText text, [])
  | .arr [] => ("[]", [])
  | .arr items => ("", itemLines items)
  | .obj [] => ("\x7b\x7d", [])
  | .obj fields => ("", fieldLines fields)
  | .verbatim text => (text, [])

/-- The lines of the items of a list. -/
def itemLines : List Json → List String
  | [] => []
  | item :: rest =>
      let lines :=
        match parts item with
        | ("", first :: more) => ("- " ++ first) :: indent more
        | (head, lines) => ("- " ++ head) :: lines
      lines ++ itemLines rest

/-- The lines of the fields of an object. -/
def fieldLines : List (String × Json) → List String
  | [] => []
  | (name, value) :: rest =>
      let nested : Bool :=
        match value with
        | .obj _ => true
        | _ => false
      let lines :=
        match parts value with
        | ("", lines) => (lineText name ++ ":") :: if nested then indent lines else lines
        | (head, lines) => (lineText name ++ ": " ++ head) :: lines
      lines ++ fieldLines rest

end

/-- A document as text, every line ended by a line break. -/
def render (json : Json) : String :=
  let lines :=
    match parts json with
    | ("", lines) => lines
    | (head, lines) => head :: lines
  String.join (lines.map (· ++ "\n"))

end SharedMount.Yaml
