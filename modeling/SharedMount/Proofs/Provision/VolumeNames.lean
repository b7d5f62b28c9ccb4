import Mathlib.Logic.Function.Basic
import SharedMount.Proofs.Provision.Belonging

/-! # Owners whose volumes have one name

The name of a volume is made of the namespace and the name of its owner, with a dash between them. Both may have
dashes of their own, so another owner can have a volume of the same name: its namespace ends at another dash of the
same text. Nothing else makes volumes collide, and claims never do.
-/

namespace SharedMount

/-! ## Texts that are parted at a dash -/

/-- Of two ways to part a list at a mark, one front is the other one, or goes on with the mark from where that ends. -/
theorem append_mark_prefix_iff {α : Type} {front rest longFront shortRest : List α} {mark : α} :
    (∃ gap, longFront = front ++ gap ∧ mark :: rest = gap ++ mark :: shortRest) ↔
      front = longFront ∧ rest = shortRest ∨
        ∃ part, longFront = front ++ mark :: part ∧ rest = part ++ mark :: shortRest := by
  constructor
  · rintro ⟨gap, rfl, parted⟩
    -- the gap is empty, or it begins with the first mark
    rcases List.cons_eq_append_iff.mp parted with ⟨rfl, same⟩ | ⟨part, rfl, same⟩
    · exact .inl ⟨(List.append_nil front).symm, (List.cons.inj same).2.symm⟩
    · exact .inr ⟨part, rfl, same⟩
  · rintro (⟨rfl, rfl⟩ | ⟨part, rfl, rfl⟩)
    · exact ⟨[], (List.append_nil front).symm, rfl⟩
    · exact ⟨mark :: part, rfl, rfl⟩

theorem append_mark_eq_iff {α : Type} {front rest otherFront otherRest : List α} {mark : α} :
    front ++ mark :: rest = otherFront ++ mark :: otherRest ↔
      front = otherFront ∧ rest = otherRest ∨
        (∃ part, otherFront = front ++ mark :: part ∧ rest = part ++ mark :: otherRest) ∨
        ∃ part, front = otherFront ++ mark :: part ∧ otherRest = part ++ mark :: rest := by
  rw [List.append_eq_append_iff, append_mark_prefix_iff, append_mark_prefix_iff, eq_comm (a := otherFront),
    eq_comm (a := otherRest), or_or_distrib_left.symm]

/-- Two texts with a dash in them are the same if they are parted at the same dash, or at two dashes of one text. -/
theorem dashed_eq_iff {front rest otherFront otherRest : String} :
    front ++ "-" ++ rest = otherFront ++ "-" ++ otherRest ↔
      front = otherFront ∧ rest = otherRest ∨
        (∃ part, otherFront = front ++ "-" ++ part ∧ rest = part ++ "-" ++ otherRest) ∨
        ∃ part, front = otherFront ++ "-" ++ part ∧ otherRest = part ++ "-" ++ rest := by
  have dash : "-".toList = ['-'] := rfl
  have texts : Function.Surjective String.toList := fun characters => ⟨.ofList characters, String.toList_ofList⟩
  simp only [← String.toList_inj, String.toList_append, dash, List.append_assoc, List.singleton_append,
    append_mark_eq_iff, texts.exists]

/-! ## Collisions -/

namespace ObjectKey

/-- The namespace of one owner, a dash and some part are the namespace of the other one; and this part, a dash and the
name of the other one are the name of the first. -/
def PartsEarlier (key other : ObjectKey) : Prop :=
  ∃ ns part, key.ns = some ns ∧ other.ns = some (ns ++ "-" ++ part) ∧ key.name = part ++ "-" ++ other.name

variable {key other : ObjectKey} {ns otherNs : String}

theorem partsEarlier_iff (placed : key.ns = some ns) (otherPlaced : other.ns = some otherNs) :
    key.PartsEarlier other ↔ ∃ part, otherNs = ns ++ "-" ++ part ∧ key.name = part ++ "-" ++ other.name := by
  simp [PartsEarlier, placed, otherPlaced]

/-- The owner whose namespace ends later has the longer namespace by any measure, and a dash in it. -/
theorem PartsEarlier.lengthens (earlier : key.PartsEarlier other) (placed : key.ns = some ns)
    (otherPlaced : other.ns = some otherNs) :
    ns.length < otherNs.length ∧ ns.utf8ByteSize < otherNs.utf8ByteSize ∧ '-' ∈ otherNs.toList := by
  obtain ⟨part, rfl, -⟩ := (partsEarlier_iff placed otherPlaced).mp earlier
  have length : "-".length = 1 := rfl
  have size : "-".utf8ByteSize = 1 := rfl
  refine ⟨?_, ?_, ?_⟩
  · rw [String.length_append, String.length_append]
    omega
  · rw [String.utf8ByteSize_append, String.utf8ByteSize_append]
    omega
  · simp

/-- Owners have volumes of one name if they are the same, or if one is parted earlier than the other. -/
theorem volumeKey_eq_iff (placed : key.ns = some ns) (otherPlaced : other.ns = some otherNs) :
    volumeKey key = volumeKey other ↔ key = other ∨ key.PartsEarlier other ∨ other.PartsEarlier key := by
  have same : key = other ↔ ns = otherNs ∧ key.name = other.name := by
    cases key
    cases other
    simp_all
  have names : volumeKey key = volumeKey other ↔ ns ++ "-" ++ key.name = otherNs ++ "-" ++ other.name := by
    simp [volumeKey, cluster, volumeName, placed, otherPlaced, String.append_assoc, String.append_right_inj]
  rw [names, dashed_eq_iff, same, partsEarlier_iff placed otherPlaced, partsEarlier_iff otherPlaced placed]

/-- Claims tell owners in namespaces apart. Their volumes collide just when the namespaces differ and one owner is
parted earlier than the other; so they do not within a namespace, nor if the namespaces are of one length, in
characters or in bytes, nor if no namespace has a dash. -/
theorem volumes_collide_iff (placed : key.ns = some ns) (otherPlaced : other.ns = some otherNs) :
    (claimKey key = claimKey other → key = other) ∧
    (volumeKey key = volumeKey other ∧ key ≠ other ↔
      ns ≠ otherNs ∧ (key.PartsEarlier other ∨ other.PartsEarlier key)) ∧
    (key ≠ other → ns = otherNs ∨ ns.length = otherNs.length ∨ ns.utf8ByteSize = otherNs.utf8ByteSize ∨
      '-' ∉ ns.toList ∧ '-' ∉ otherNs.toList → volumeKey key ≠ volumeKey other) := by
  have apart (earlier : key.PartsEarlier other ∨ other.PartsEarlier key) :
      ns.length ≠ otherNs.length ∧ ns.utf8ByteSize ≠ otherNs.utf8ByteSize ∧
        ('-' ∈ ns.toList ∨ '-' ∈ otherNs.toList) := by
    rcases earlier with earlier | earlier
    · obtain ⟨length, size, dash⟩ := earlier.lengthens placed otherPlaced
      exact ⟨Nat.ne_of_lt length, Nat.ne_of_lt size, .inr dash⟩
    · obtain ⟨length, size, dash⟩ := earlier.lengthens otherPlaced placed
      exact ⟨Nat.ne_of_gt length, Nat.ne_of_gt size, .inl dash⟩
  refine ⟨claimKey_inj.mp, ?_, ?_⟩
  · rw [volumeKey_eq_iff placed otherPlaced]
    constructor
    · rintro ⟨same | earlier, differ⟩
      · exact absurd same differ
      · exact ⟨fun same => (apart earlier).1 (congrArg String.length same), earlier⟩
    · rintro ⟨differ, earlier⟩
      refine ⟨.inr earlier, fun same => differ (Option.some.inj ?_)⟩
      rw [← placed, same, otherPlaced]
  · intro differ alike collide
    have earlier := ((volumeKey_eq_iff placed otherPlaced).mp collide).resolve_left differ
    obtain ⟨length, size, dash⟩ := apart earlier
    rcases alike with same | same | same | ⟨dashless, otherDashless⟩
    · exact length (congrArg String.length same)
    · exact length same
    · exact size same
    · exact dash.elim dashless otherDashless

/-- The owners `x/a-b` and `x-a/b` share a volume name; `x/a-b` and `y/a-b` do not. -/
theorem volumes_collide_iff_sample :
    volumeKey (.namespaced "x" "a-b") = volumeKey (.namespaced "x-a" "b") ∧
      volumeKey (.namespaced "x" "a-b") ≠ volumeKey (.namespaced "y" "a-b") := by
  have placed : (namespaced "x" "a-b").ns = some "x" := rfl
  have longer : (namespaced "x-a" "b").ns = some "x-a" := rfl
  have dashless : (namespaced "y" "a-b").ns = some "y" := rfl
  constructor
  · exact ((volumes_collide_iff placed longer).2.1.mpr ⟨by decide, .inl ⟨"x", "a", rfl, rfl, rfl⟩⟩).1
  · exact (volumes_collide_iff placed dashless).2.2 (by decide) (.inr (.inl rfl))

end ObjectKey

end SharedMount
