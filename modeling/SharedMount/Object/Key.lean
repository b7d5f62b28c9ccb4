import Std.Data.ExtTreeMap

/-! # Identities of objects

An object of one kind is identified by its name and, for kinds that live in namespaces, by its
namespace. Keys are ordered by namespace, an absent one first, and then by name; texts are compared
by code points, which is also the order of their UTF-8 bytes.
-/

namespace SharedMount

/-- The identity of an object within its kind. -/
structure ObjectKey where
  ns : Option String
  name : String
deriving DecidableEq, Repr, Inhabited

namespace ObjectKey

/-- The key of an object in a namespace. -/
def namespaced (ns name : String) : ObjectKey :=
  ⟨some ns, name⟩

/-- The key of an object outside all namespaces. -/
def cluster (name : String) : ObjectKey :=
  ⟨none, name⟩

instance : Ord ObjectKey where
  compare := compareLex (compareOn ns) (compareOn name)

instance : Std.TransOrd ObjectKey :=
  inferInstanceAs (Std.TransCmp (compareLex (compareOn ns) (compareOn name)))

instance : Std.LawfulEqOrd ObjectKey where
  eq_of_compare {a b} same := by
    have inOrder : compareLex (compareOn ns) (compareOn name) a b = .eq := same
    obtain ⟨sameNs, sameName⟩ := compareLex_eq_eq.mp inOrder
    cases a
    cases b
    simp only [compareOn, Std.LawfulEqOrd.compare_eq_iff_eq] at sameNs sameName
    simp [sameNs, sameName]

/-- A key as shown in messages: the namespace, if there is one, a slash, and the name. -/
def display (key : ObjectKey) : String :=
  match key.ns with
  | some ns => ns ++ "/" ++ key.name
  | none => key.name

end ObjectKey

end SharedMount
