import SharedMount.Object.Timestamp

/-! # Written times are read back

Reading a time is more lenient than writing it, and every written time reads as itself. A number is
written with at least a fixed count of digits and is followed by a character that is no digit, so
reading stops where writing did. The offset is zero, so the calendar is not consulted for a date on
another day.
-/

namespace SharedMount

namespace Text

theorem decimalValue_eq_ofDigitChars (digits : List Char) :
    decimalValue digits = Nat.ofDigitChars 10 digits 0 := by
  simp [decimalValue, digitValue, Nat.ofDigitChars_eq_foldl, Nat.mul_comm]

@[simp] theorem decimalValue_padded (width value : Nat) :
    decimalValue (padded width value).toList = value := by
  simp [decimalValue_eq_ofDigitChars, padded, Nat.ofDigitChars_append]

theorem isDigit_of_mem_padded {width value : Nat} {c : Char}
    (member : c ∈ (padded width value).toList) : c.isDigit = true := by
  simp only [padded, String.toList_ofList, List.mem_append, List.mem_replicate] at member
  rcases member with ⟨-, rfl⟩ | member
  · rfl
  · exact Nat.isDigit_of_mem_toDigits (by decide) (by decide) member

theorem padded_ne_nil (width value : Nat) : (padded width value).toList ≠ [] := by
  simp [padded, Nat.toDigits_ne_nil]

theorem length_padded {width value : Nat} (short : (Nat.toDigits 10 value).length ≤ width) :
    (padded width value).toList.length = width := by
  simp only [padded, String.toList_ofList, List.length_append, List.length_replicate]
  omega

theorem isBlankChar_of_isDigit {c : Char} (digit : c.isDigit = true) : isBlankChar c = false := by
  simp only [Char.isDigit, Bool.and_eq_true, decide_eq_true_eq] at digit
  have lower : 48 ≤ c.toNat := digit.1
  have upper : c.toNat ≤ 57 := digit.2
  simp only [isBlankChar, blankRanges, List.any_cons, List.any_nil, Bool.or_false,
    Bool.or_eq_false_iff, Bool.and_eq_false_iff, decide_eq_false_iff_not]
  omega

end Text

namespace Timestamp

open Text

/-- A number ends at the first character that is no digit. -/
theorem number?_digits {digits : List Char} {stop : Char} (width : Nat) (rest : List Char)
    (allDigits : ∀ c ∈ digits, c.isDigit = true) (some' : digits ≠ [])
    (fits : digits.length ≤ width) (stops : stop.isDigit = false) :
    number? width (digits ++ stop :: rest) = some (decimalValue digits, stop :: rest) := by
  have taken : ((digits ++ stop :: rest).take width).takeWhile Char.isDigit = digits := by
    rw [List.take_append, List.take_of_length_le fits, List.takeWhile_append_of_pos allDigits]
    cases width - digits.length with
    | zero => simp
    | succ room => simp [stops]
  simp [number?, taken, some']

private theorem skipBlank_padded (width value : Nat) (rest : List Char) :
    skipBlank ((padded width value).toList ++ rest) = (padded width value).toList ++ rest := by
  cases digits : (padded width value).toList with
  | nil => exact absurd digits (padded_ne_nil _ _)
  | cons c more =>
    have digit : c.isDigit = true := isDigit_of_mem_padded (digits ▸ List.mem_cons_self ..)
    simp [skipBlank, isBlankChar_of_isDigit digit]

private theorem twoDigits?_padded {value : Nat} {stop : Char} (rest : List Char)
    (bound : value < 100) (stops : stop.isDigit = false) :
    twoDigits? ((padded 2 value).toList ++ stop :: rest) = some (value, stop :: rest) := by
  have short : (Nat.toDigits 10 value).length ≤ 2 :=
    (Nat.length_toDigits_le_iff (by decide) (by decide)).mpr bound
  rw [twoDigits?, skipBlank_padded, number?_digits _ _ (fun _ => isDigit_of_mem_padded)
    (padded_ne_nil _ _) (Nat.le_of_eq (length_padded short)) stops, decimalValue_padded]

private theorem separator?_cons {separator : Char} (rest : List Char)
    (printed : isBlankChar separator = false) :
    separator? separator (separator :: rest) = some rest := by
  simp [separator?, skipBlank, printed]

private theorem year?_short {value : Nat} {stop : Char} (rest : List Char) (bound : value < 10000)
    (stops : stop.isDigit = false) :
    year? ((padded 4 value).toList ++ stop :: rest) = some ((value : Int), stop :: rest) := by
  have short : (Nat.toDigits 10 value).length ≤ 4 :=
    (Nat.length_toDigits_le_iff (by decide) (by decide)).mpr bound
  have read := number?_digits 4 rest (fun _ => isDigit_of_mem_padded)
    (padded_ne_nil 4 value) (Nat.le_of_eq (length_padded short)) stops
  rw [year?, skipBlank_padded]
  cases digits : (padded 4 value).toList with
  | nil => exact absurd digits (padded_ne_nil _ _)
  | cons c more =>
    have digit : c.isDigit = true := isDigit_of_mem_padded (digits ▸ List.mem_cons_self ..)
    rw [digits] at read
    -- a digit is neither of the signs, so the last arm of the match is taken
    split
    · next same => simp only [List.cons_append, List.cons.injEq] at same; simp [same.1] at digit
    · next same => simp only [List.cons_append, List.cons.injEq] at same; simp [same.1] at digit
    · rw [read, ← digits, decimalValue_padded]
      rfl

private theorem year?_signed (value : Nat) {stop : Char} (rest : List Char)
    (stops : stop.isDigit = false) :
    year? ('-' :: ((padded 4 value).toList ++ stop :: rest)) = some (-(value : Int), stop :: rest) ∧
      year? ('+' :: ((padded 4 value).toList ++ stop :: rest)) = some ((value : Int), stop :: rest) := by
  have read := number?_digits ((padded 4 value).toList ++ stop :: rest).length rest
    (fun _ => isDigit_of_mem_padded)
    (padded_ne_nil 4 value) (by simp) stops
  rw [decimalValue_padded] at read
  have minus : isBlankChar '-' = false := by decide
  have plus : isBlankChar '+' = false := by decide
  simp only [year?, skipBlank, List.dropWhile_cons, minus, plus, Bool.false_eq_true, ↓reduceIte, read,
    Option.map_some, and_self]

/-- The year is read up to the character after it. -/
theorem year?_yearText (year : Int) {stop : Char} (rest : List Char)
    (stops : stop.isDigit = false) :
    year? ((yearText year).toList ++ stop :: rest) = some (year, stop :: rest) := by
  simp only [yearText]
  split
  next short =>
    rw [year?_short rest (by omega) stops, Int.toNat_of_nonneg short.1]
  next =>
    obtain ⟨minus, plus⟩ := year?_signed year.natAbs rest stops
    by_cases negative : year < 0
    · have value : -(year.natAbs : Int) = year := by omega
      rw [value] at minus
      simpa [negative] using minus
    · have value : (year.natAbs : Int) = year := by omega
      rw [value] at plus
      simpa [negative] using plus

private theorem ofLocal?_self (time : Timestamp) :
    ofLocal? time.year time.month time.day time.hour time.minute time.second 0 = some time := by
  have valid := time.valid
  simp only [Calendar.isValid, Bool.and_eq_true, decide_eq_true_eq] at valid
  obtain ⟨⟨⟨-, hour⟩, minute⟩, -⟩ := valid
  have early : ¬ ((time.hour : Int) * 60 + time.minute - 0 < 0) := by omega
  have late : ¬ ((1440 : Int) ≤ time.hour * 60 + time.minute - 0) := by omega
  have inDay : (((time.hour : Int) * 60 + time.minute - 0) % 1440).toNat =
      time.hour * 60 + time.minute := by omega
  have hours : (time.hour * 60 + time.minute) / 60 = time.hour := by omega
  have minutes : (time.hour * 60 + time.minute) % 60 = time.minute := by omega
  simp only [ofLocal?, time.valid, not_true_eq_false, ↓reduceIte, early, late, inDay, hours, minutes,
    ofNumbers?, ↓reduceDIte]

private theorem bounds (time : Timestamp) : time.month < 100 ∧ time.day < 100 ∧
    time.hour < 100 ∧ time.minute < 100 ∧ time.second < 100 := by
  have valid := time.valid
  simp only [Calendar.isValid, Bool.and_eq_true, decide_eq_true_eq] at valid
  obtain ⟨⟨⟨⟨⟨-, positive⟩, inMonth⟩, hour⟩, minute⟩, second⟩ := valid
  have days : Calendar.daysInMonth time.year time.month ≤ 31 ∧
      (0 < Calendar.daysInMonth time.year time.month → time.month ≤ 12) := by
    simp only [Calendar.daysInMonth]
    split <;> (try split) <;> omega
  omega

private theorem date?_text {month day : Nat} (year : Int) (inYear : month < 100) (inMonth : day < 100) {stop : Char}
    (rest : List Char) (stops : stop.isDigit = false) :
    date? ((yearText year).toList ++ '-' :: ((padded 2 month).toList ++ '-' :: ((padded 2 day).toList ++ stop :: rest))) =
      some ((year, month, day), stop :: rest) := by
  have dash : isBlankChar '-' = false := by decide
  simp only [date?, Option.bind_eq_bind, Option.bind_some, year?_yearText, separator?_cons, twoDigits?_padded,
    Char.reduceIsDigit, inYear, inMonth, dash, stops]
  rfl

private theorem clock?_text {hour minute second : Nat} (inDay : hour < 100) (inHour : minute < 100)
    (inMinute : second < 100) {stop : Char} (rest : List Char) (stops : stop.isDigit = false) :
    clock? ((padded 2 hour).toList ++ ':' :: ((padded 2 minute).toList ++ ':' ::
      ((padded 2 second).toList ++ stop :: rest))) = some ((hour, minute, second), stop :: rest) := by
  have colon : isBlankChar ':' = false := by decide
  simp only [clock?, Option.bind_eq_bind, Option.bind_some, separator?_cons, twoDigits?_padded,
    Char.reduceIsDigit, inDay, inHour, inMinute, colon, stops]
  rfl

end Timestamp

open Text Timestamp in
/-- Every point in time is read back as it was written, to the second. -/
theorem Moment.parse?_text (moment : Moment) : parse? moment.text = some moment.whole := by
  obtain ⟨month, day, hour, minute, second⟩ := bounds moment.second
  have fraction : fraction? ['Z'] = some (0, ['Z']) := rfl
  have blank : skipBlank ['Z'] = ['Z'] := by decide
  have utc : offset? ['Z'] = some (0, []) := rfl
  simp only [parse?, Moment.text, Timestamp.text, String.toList_append, List.append_assoc, String.reduceToList,
    List.cons_append, List.nil_append, Option.bind_eq_bind, Option.bind_some, date?_text, clock?_text,
    Char.reduceIsDigit, month, day, hour, minute, second, fraction, blank, utc, List.all_nil, ↓reduceIte]
  rw [ofLocal?_self]
  rfl

/-- Every second is read back as it was written. -/
theorem Timestamp.parse?_text (time : Timestamp) : parse? time.text = some time :=
  congrArg (Option.map Moment.second) (Moment.parse?_text { second := time })

end SharedMount
