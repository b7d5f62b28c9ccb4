import SharedMount.Object.Resource

/-! # Comparing wanted and stored objects

A stored object may differ from the wanted one in ways that do not matter, such as fields that the
server adds. A `Comparison` names the part that matters; it looks at the documents of both objects.
-/

namespace SharedMount

/-- Which part of an object has to be as wanted. -/
inductive Comparison where
  /-- None: an object that exists is never written again. -/
  | always
  /-- All but the metadata. -/
  | ignoringMetadata
  /-- One field of the document. -/
  | field (name : String)
deriving DecidableEq, Inhabited, Repr

variable {K M : Type} [ObjectKind K M]

/-- Whether a stored object is as wanted in the part that matters. -/
def Comparison.agree (comparison : Comparison) (wanted stored : K) : Bool :=
  match comparison with
  | always => true
  | ignoringMetadata =>
      (Resource.encode wanted).erase "metadata" = (Resource.encode stored).erase "metadata"
  | field name => (Resource.encode wanted).get? name = (Resource.encode stored).get? name

theorem Comparison.agree_self (comparison : Comparison) (object : K) : comparison.agree object object = true := by
  cases comparison <;> simp [agree]

/-- Whether two objects are known to be the same stored form: both have a version, it is not empty,
and it is the same. -/
def sameVersion [ObjectMeta M] (wanted stored : K) : Bool :=
  match Resource.version? wanted, Resource.version? stored with
  | some a, some b => a ≠ "" && a = b
  | _, _ => false

end SharedMount
