import SharedMount.Text.Unprintable

/-! # Quoted text

Messages show the parts of an API response between double quotes. A quote and a backslash are
preceded by a backslash, five control characters have short forms, and any other character without
a glyph is given by its code point in hexadecimal.
-/

namespace SharedMount.Text

/-- The characters that stand for one character between quotes. -/
def escape : Char → List Char
  | '"' => ['\\', '"']
  | '\\' => ['\\', '\\']
  | '\n' => ['\\', 'n']
  | '\r' => ['\\', 'r']
  | '\t' => ['\\', 't']
  | '\x00' => ['\\', '0']
  | c =>
      if isUnprintable c then
        ['\\', 'u', '\x7b'] ++ Nat.toDigits 16 c.toNat ++ ['\x7d']
      else [c]

/-- A text between double quotes, with every character escaped that needs it. -/
def quoted (text : String) : String :=
  String.ofList ('"' :: text.toList.flatMap escape ++ ['"'])

end SharedMount.Text
