/-! # Blank text

Names in settings must hold something other than white space. The table lists the code points with
the Unicode property White_Space; format characters such as the zero-width space are not in it, so
a name made of them alone is not blank.
-/

namespace SharedMount.Text

/-- The code points with the property White_Space, as inclusive ranges in increasing order. -/
def blankRanges : List (Nat × Nat) :=
  [(0x9, 0xD), (0x20, 0x20), (0x85, 0x85), (0xA0, 0xA0), (0x1680, 0x1680), (0x2000, 0x200A),
    (0x2028, 0x2029), (0x202F, 0x202F), (0x205F, 0x205F), (0x3000, 0x3000)]

/-- Whether a character is white space. -/
def isBlankChar (c : Char) : Bool :=
  blankRanges.any fun (first, last) => first ≤ c.toNat && c.toNat ≤ last

/-- Whether a text holds nothing but white space; the empty text does. -/
def isBlank (text : String) : Bool :=
  text.toList.all isBlankChar

end SharedMount.Text
