import SharedMount.Text.Decimal

/-! # Numbers as written

A number of a text has digits before its point, the first of which is no zero unless it is the only
one, and may have digits after the point and an exponent. `Numeral.scan?` reads the number that a text
starts with. Only a number that is written as an integer counts as one: neither `1.0` nor `1e3` does,
nor does `-0`. A number is huge if it rounds to no double-precision number.
-/

namespace SharedMount.Json

/-- A number as it is written. -/
structure Numeral where
  isNegative : Bool
  whole : List Char
  fraction : List Char := []
  exponent : Option Int := none
deriving DecidableEq, Inhabited, Repr

namespace Numeral

/-- The digits that a text starts with, at least one, and the rest. -/
def digits? (text : List Char) : Option (List Char × List Char) :=
  let digits := text.takeWhile Char.isDigit
  if digits.isEmpty then none else some (digits, text.dropWhile Char.isDigit)

/-- The digits after a point, none if there is no point, and the rest. -/
def fraction? : List Char → Option (List Char × List Char)
  | '.' :: rest => digits? rest
  | text => some ([], text)

/-- The exponent that a text starts with, if there is one, and the rest. -/
def exponent? : List Char → Option (Option Int × List Char)
  | [] => some (none, [])
  | c :: rest =>
      if c = 'e' ∨ c = 'E' then do
        let (isNegative, rest) :=
          match rest with
          | '-' :: rest => (true, rest)
          | '+' :: rest => (false, rest)
          | rest => (false, rest)
        let (digits, rest) ← digits? rest
        let size : Int := Text.decimalValue digits
        return (some (if isNegative then -size else size), rest)
      else some (none, c :: rest)

/-- The number that a text starts with, and the rest. -/
def scan? (text : List Char) : Option (Numeral × List Char) := do
  let (isNegative, rest) :=
    match text with
    | '-' :: rest => (true, rest)
    | text => (false, text)
  let (whole, rest) ← digits? rest
  if whole.head? = some '0' ∧ whole ≠ ['0'] then none
  else
    let (fraction, rest) ← fraction? rest
    let (exponent, rest) ← exponent? rest
    return ({ isNegative, whole, fraction, exponent }, rest)

/-- Whether a number is written as an integer. -/
def isInteger (numeral : Numeral) : Bool :=
  numeral.fraction.isEmpty && numeral.exponent.isNone &&
    !(numeral.isNegative && numeral.whole = ['0'])

/-- The integer before the point. -/
def integer (numeral : Numeral) : Int :=
  let size : Int := Text.decimalValue numeral.whole
  if numeral.isNegative then -size else size

/-- The least magnitude that rounds to no double-precision number: half a step beyond the greatest
of them. -/
def hugeFrom : Nat :=
  Nat.pow 2 1024 - Nat.pow 2 970

/-- Whether a number rounds to no double-precision number. Numbers of other than 309 places before
the point are told apart by their places alone. -/
def isHuge (numeral : Numeral) : Bool :=
  let digits := (numeral.whole ++ numeral.fraction).dropWhile (· = '0')
  let scale : Int := numeral.exponent.getD 0 - numeral.fraction.length
  let places : Int := digits.length + scale
  !digits.isEmpty &&
    (309 < places ||
      (places = 309 &&
        hugeFrom * Nat.pow 10 (-scale).toNat ≤
          Text.decimalValue digits * Nat.pow 10 scale.toNat))

end Numeral

end SharedMount.Json
