/-! # Dividing a text at a separator

`divide?` cuts a character list at the first occurrence of a separator. The lemmas say that
nothing but that separator is lost, that the first part is free of it, and that the cut fails
exactly when the separator does not occur.
-/

namespace SharedMount.Text

/-- The parts before and after the first `separator`, or nothing when it does not occur. -/
def divide? (separator : Char) : List Char → Option (List Char × List Char)
  | [] => none
  | c :: rest =>
      if c = separator then some ([], rest)
      else (divide? separator rest).map fun (before, after) => (c :: before, after)

/-- A cut succeeds exactly with the parts around the first separator. -/
theorem divide?_eq_some_iff {separator : Char} {text before after : List Char} :
    divide? separator text = some (before, after) ↔
      text = before ++ separator :: after ∧ separator ∉ before := by
  induction text generalizing before with
  | nil => simp [divide?]
  | cons c rest ih =>
    by_cases same : c = separator
    · subst same
      cases before with
      | nil => simp [divide?, eq_comm]
      | cons b bs => simp +contextual [divide?, eq_comm]
    · cases before with
      | nil => simp [divide?, same]
      | cons b bs =>
        simp only [divide?, same, ↓reduceIte, Option.map_eq_some_iff, Prod.mk.injEq, List.cons.injEq,
          Prod.exists, List.cons_append, List.mem_cons, not_or]
        constructor
        · rintro ⟨_, _, cut, ⟨rfl, rfl⟩, rfl⟩
          exact ⟨⟨rfl, (ih.mp cut).1⟩, Ne.symm same, (ih.mp cut).2⟩
        · rintro ⟨⟨rfl, rest⟩, _, free⟩
          exact ⟨bs, after, ih.mpr ⟨rest, free⟩, ⟨rfl, rfl⟩, rfl⟩

/-- A cut fails exactly on a text without the separator. -/
theorem divide?_eq_none_iff {separator : Char} {text : List Char} :
    divide? separator text = none ↔ separator ∉ text := by
  induction text with
  | nil => simp [divide?]
  | cons c rest ih =>
    by_cases same : c = separator
    · simp [divide?, same]
    · simp [divide?, same, ih, Ne.symm same]

end SharedMount.Text
