import SharedMount.Json.Basic

/-! # Merge patches

A merge patch (RFC 7396) describes a change of a document by a document. A patch that is no object
replaces its target. A patch object is applied field by field: `null` removes the field, any other
value is merged into what the target has there.
-/

namespace SharedMount.Json

mutual

/-- The target after a merge patch. -/
def mergePatch (target : Json) : Json → Json
  | .obj changes => .obj (mergeFields target.fields changes)
  | patch => patch

/-- The fields of a target after the fields of a patch, in their order. -/
def mergeFields (fields : List (String × Json)) : List (String × Json) → List (String × Json)
  | [] => fields
  | (name, change) :: rest =>
      mergeFields
        (match change with
        | .null => eraseField name fields
        | change => setField name (mergePatch ((lookup name fields).getD .null) change) fields)
        rest

end

end SharedMount.Json
