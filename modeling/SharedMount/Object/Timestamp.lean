import SharedMount.Text.Blank
import SharedMount.Text.Decimal

/-! # Points in time

A `Timestamp` is a second of the calendar in universal time, and a `Moment` is a point within such a
second. Both are written as in RFC 3339, with the letters `T` and `Z` and without a fraction. Reading
is more lenient: any offset is carried over to universal time, a fraction of a second may follow, the
numbers need not be padded, and white space may stand around the separators.
-/

namespace SharedMount

namespace Calendar

/-- Whether a year has 366 days. -/
def isLeapYear (year : Int) : Bool :=
  year % 4 = 0 && (year % 100 ≠ 0 || year % 400 = 0)

/-- The number of days of a month, and 0 for a number that is no month. -/
def daysInMonth (year : Int) (month : Nat) : Nat :=
  match month with
  | 2 => if isLeapYear year then 29 else 28
  | 4 | 6 | 9 | 11 => 30
  | 1 | 3 | 5 | 7 | 8 | 10 | 12 => 31
  | _ => 0

/-- The day before a date. -/
def dayBefore (year : Int) (month day : Nat) : Int × Nat × Nat :=
  if 1 < day then (year, month, day - 1)
  else if 1 < month then (year, month - 1, daysInMonth year (month - 1))
  else (year - 1, 12, 31)

/-- The day after a date. -/
def dayAfter (year : Int) (month day : Nat) : Int × Nat × Nat :=
  if day < daysInMonth year month then (year, month, day + 1)
  else if month < 12 then (year, month + 1, 1)
  else (year + 1, 1, 1)

/-- The least year that is kept. -/
def firstYear : Int := -262143

/-- The greatest year that is kept. -/
def lastYear : Int := 262142

/-- Whether the numbers name a second of the calendar; the second 60 is a leap second. -/
def isValid (year : Int) (month day hour minute second : Nat) : Bool :=
  firstYear ≤ year && year ≤ lastYear && 1 ≤ day && day ≤ daysInMonth year month &&
    hour < 24 && minute < 60 && second ≤ 60

end Calendar

/-- A second of the calendar in universal time. -/
structure Timestamp where
  year : Int
  month : Nat
  day : Nat
  hour : Nat
  minute : Nat
  second : Nat
  valid : Calendar.isValid year month day hour minute second = true := by decide
deriving DecidableEq, Repr

namespace Timestamp

/-- The second with these numbers, if the calendar has it. -/
def ofNumbers? (year : Int) (month day hour minute second : Nat) : Option Timestamp :=
  if valid : Calendar.isValid year month day hour minute second = true then
    some { year, month, day, hour, minute, second, valid }
  else none

/-- The same second when the numbers are those of a clock that is `offset` minutes ahead. An offset
is less than a day, so the date moves by one day at most. -/
def ofLocal? (year : Int) (month day hour minute second : Nat) (offset : Int) :
    Option Timestamp :=
  if ¬ Calendar.isValid year month day hour minute second then none
  else
    let minutes : Int := hour * 60 + minute - offset
    let (year, month, day) :=
      if minutes < 0 then Calendar.dayBefore year month day
      else if 1440 ≤ minutes then Calendar.dayAfter year month day
      else (year, month, day)
    let inDay := (minutes % 1440).toNat
    ofNumbers? year month day (inDay / 60) (inDay % 60) second

/-- The year: four digits, or at least four after a sign when it has no four-digit form. -/
def yearText (year : Int) : String :=
  if 0 ≤ year ∧ year ≤ 9999 then Text.padded 4 year.toNat
  else (if year < 0 then "-" else "+") ++ Text.padded 4 year.natAbs

/-- The time as written in documents. -/
def text (time : Timestamp) : String :=
  yearText time.year ++ "-" ++ Text.padded 2 time.month ++ "-" ++ Text.padded 2 time.day ++ "T" ++
    Text.padded 2 time.hour ++ ":" ++ Text.padded 2 time.minute ++ ":" ++ Text.padded 2 time.second ++ "Z"

/-- The text after its leading white space. -/
def skipBlank (text : List Char) : List Char :=
  text.dropWhile Text.isBlankChar

/-- A decimal number of one to `width` digits, and the rest. -/
def number? (width : Nat) (text : List Char) : Option (Nat × List Char) :=
  let digits := (text.take width).takeWhile Char.isDigit
  if digits = [] then none
  else
    some (Text.decimalValue digits, text.drop digits.length)

/-- The number of a year: four digits at most, or any number of digits after a sign. -/
def year? (text : List Char) : Option (Int × List Char) :=
  match skipBlank text with
  | '-' :: rest => (number? rest.length rest).map fun (value, rest) => (-(value : Int), rest)
  | '+' :: rest => (number? rest.length rest).map fun (value, rest) => ((value : Int), rest)
  | rest => (number? 4 rest).map fun (value, rest) => ((value : Int), rest)

/-- A number of two digits at most, after any white space. -/
def twoDigits? (text : List Char) : Option (Nat × List Char) :=
  number? 2 (skipBlank text)

/-- The rest after a separator and any white space before it. -/
def separator? (separator : Char) (text : List Char) : Option (List Char) :=
  match skipBlank text with
  | c :: rest => if c = separator then some rest else none
  | [] => none

/-- The fraction of a second in billionths, zero if there is none, and the rest. Digits after the
ninth do not count. -/
def fraction? : List Char → Option (Fin 1000000000 × List Char)
  | '.' :: rest =>
      let digits := rest.takeWhile Char.isDigit
      if digits.isEmpty then none
      else
        let billionths := Text.decimalValue ((digits ++ List.replicate 9 '0').take 9)
        some (Fin.ofNat _ billionths, rest.dropWhile Char.isDigit)
  | rest => some (0, rest)

/-- The offset from universal time in minutes, and the rest. -/
def offset? (text : List Char) : Option (Int × List Char) :=
  match text with
  | 'Z' :: rest | 'z' :: rest => some (0, rest)
  | u :: t :: c :: rest =>
      if u.toUpper = 'U' ∧ t.toUpper = 'T' ∧ c.toUpper = 'C' then some (0, rest)
      else signed? u (t :: c :: rest)
  | _ => none
where
  /-- The offset after its sign: two digits of hours, any colons and white space, and two digits of
  minutes. -/
  signed? (sign : Char) (text : List Char) : Option (Int × List Char) :=
    match text with
    | h :: h' :: rest =>
        match rest.dropWhile fun c => c = ':' || Text.isBlankChar c with
        | m :: m' :: rest =>
            if h.isDigit ∧ h'.isDigit ∧ '0' ≤ m ∧ m ≤ '5' ∧ m'.isDigit then
              let minutes := Text.decimalValue [h, h'] * 60 + Text.decimalValue [m, m']
              if 1440 ≤ minutes then none
              else if sign = '+' then some (minutes, rest)
              else if sign = '-' ∨ sign = '\u2212' then some (-minutes, rest)
              else none
            else none
        | _ => none
    | _ => none

/-- The numbers of a date, and the rest. -/
def date? (text : List Char) : Option ((Int × Nat × Nat) × List Char) := do
  let (year, rest) ← year? text
  let rest ← separator? '-' rest
  let (month, rest) ← twoDigits? rest
  let rest ← separator? '-' rest
  let (day, rest) ← twoDigits? rest
  return ((year, month, day), rest)

/-- The numbers of a time of day, and the rest. -/
def clock? (text : List Char) : Option ((Nat × Nat × Nat) × List Char) := do
  let (hour, rest) ← twoDigits? text
  let rest ← separator? ':' rest
  let (minute, rest) ← twoDigits? rest
  let rest ← separator? ':' rest
  let (second, rest) ← twoDigits? rest
  return ((hour, minute, second), rest)

end Timestamp

/-- A point in time: a second, and how many billionths of it have passed. -/
structure Moment where
  second : Timestamp
  billionths : Fin 1000000000 := 0
deriving DecidableEq, Repr

namespace Moment

open Timestamp

/-- The point in time at which its second began. -/
def whole (moment : Moment) : Moment :=
  { second := moment.second }

/-- The point in time as written in documents, to the second. -/
def text (moment : Moment) : String :=
  moment.second.text

/-- The point in time that a text gives. -/
def parse? (text : String) : Option Moment := do
  let ((year, month, day), rest) ← date? text.toList
  let rest ←
    match rest with
    | 'T' :: rest | 't' :: rest | ' ' :: rest => some rest
    | _ => none
  let ((hour, minute, second), rest) ← clock? rest
  let (billionths, rest) ← fraction? rest
  let (offset, rest) ← offset? (skipBlank rest)
  if rest.all Text.isBlankChar then
    (ofLocal? year month day hour minute second offset).map fun second => { second, billionths }
  else none

end Moment

/-- The second that a text gives. -/
def Timestamp.parse? (text : String) : Option Timestamp :=
  (Moment.parse? text).map Moment.second

end SharedMount
