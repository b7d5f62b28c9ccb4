import SharedMount.Json.MergePatch
import SharedMount.Proofs.Codec.Record

/-! # What a merge patch changes

A patch object changes what is read under the names of its own fields, each by itself, and nothing else: a field that
it sets to `null` is gone, and any other value is merged into what the target has there.
-/

namespace SharedMount.Json

theorem mergePatch_obj (target : Json) (changes : List (String × Json)) :
    mergePatch target (.obj changes) = .obj (mergeFields target.fields changes) := rfl

@[simp] theorem mergeFields_nil (fields : List (String × Json)) : mergeFields fields [] = fields := rfl

/-- The value of a field after a change of it, if there is still one. -/
def changed? (former : Option Json) : Json → Option Json
  | .null => none
  | change => some (mergePatch (former.getD .null) change)

/-- A field that a patch sets to `null` when it is absent is there afterwards just when it is present. -/
theorem changed?_getD_null {α : Type} (former : Option Json) (write : α → Json)
    (writes : ∀ value, write value ≠ .null) (value : Option α) :
    changed? former ((value.map write).getD .null) =
      value.map fun value => mergePatch (former.getD .null) (write value) := by
  cases value with
  | none => rfl
  | some value =>
    rw [Option.map_some, Option.getD_some, Option.map_some, changed?]
    exact writes value

/-- A patch first changes the field that it names first. -/
theorem mergeFields_cons (fields : List (String × Json)) (name : String) (change : Json)
    (rest : List (String × Json)) :
    ∃ changed, mergeFields fields ((name, change) :: rest) = mergeFields changed rest ∧
      ∀ other, valuesOf other changed =
        if name = other then (changed? (lookup name fields) change).toList else valuesOf other fields := by
  cases change with
  | null => exact ⟨eraseField name fields, rfl, fun other => valuesOf_eraseField ..⟩
  | _ => exact ⟨setField name _ fields, rfl, fun other => valuesOf_setField ..⟩

theorem lookup_eq_none_of_fresh {name : String} {fields : List (String × Json)}
    (fresh : name ∉ fields.map Prod.fst) : lookup name fields = none := by
  induction fields with
  | nil => rfl
  | cons field rest ih =>
    obtain ⟨differ, fresh⟩ := List.ne_and_not_mem_of_not_mem_cons fresh
    rw [lookup, if_neg differ.symm, ih fresh]

/-- Under a name that a patch has no field of, all values stay; under any other one they give way to what the change
leaves of the first of them. -/
theorem valuesOf_mergeFields (name : String) (fields : List (String × Json)) {changes : List (String × Json)}
    (distinct : (changes.map Prod.fst).Nodup) :
    valuesOf name (mergeFields fields changes) =
      match lookup name changes with
      | none => valuesOf name fields
      | some change => (changed? (lookup name fields) change).toList := by
  induction changes generalizing fields with
  | nil => rfl
  | cons entry rest ih =>
    obtain ⟨key, change⟩ := entry
    obtain ⟨fresh, distinct⟩ := List.nodup_cons.mp distinct
    obtain ⟨changed, merged, values⟩ := mergeFields_cons fields key change rest
    rw [merged, ih changed distinct, lookup]
    by_cases same : key = name
    · subst same
      rw [lookup_eq_none_of_fresh fresh, if_pos rfl]
      exact (values key).trans (if_pos rfl)
    · have kept : valuesOf name changed = valuesOf name fields := (values name).trans (if_neg same)
      rw [if_neg same, lookup_eq_head?_valuesOf name changed, kept, ← lookup_eq_head?_valuesOf]

/-- What stands under the name of a field that a patch sets to `null` when it is absent. -/
theorem valuesOf_mergeFields_getD_null {name : String} (fields : List (String × Json))
    {changes : List (String × Json)} (distinct : (changes.map Prod.fst).Nodup) {α : Type} (write : α → Json)
    (writes : ∀ value, write value ≠ .null) {value : Option α}
    (given : lookup name changes = some ((value.map write).getD .null)) :
    valuesOf name (mergeFields fields changes) =
      (value.map fun value => mergePatch ((lookup name fields).getD .null) (write value)).toList := by
  rw [valuesOf_mergeFields name fields distinct, given]
  exact congrArg Option.toList (changed?_getD_null _ write writes value)

end SharedMount.Json
