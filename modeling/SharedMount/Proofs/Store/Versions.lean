import Mathlib.Logic.Relation
import SharedMount.Proofs.Store.Touched
import SharedMount.Upkeep.Comparison
import Std.Data.String.ToNat

/-! # Versions of stored objects

A store counts its versions up and gives none out twice. So as a store ages, what is found under a key is
as it was, or has a version that was given out since. An object that was seen once is therefore known by its
version from then on (`Knows`): whatever is stored under its key with this version is that very object, also
after removals and when objects are made anew under the key.
-/

namespace SharedMount

variable {K M : Type} [ObjectMeta M] [ObjectKind K M]

/-- The version of an object is the number of a write after a first count and up to a second one. -/
def Resource.Dated (since upTo : Nat) (object : K) : Prop :=
  ∃ number, since < number ∧ number ≤ upTo ∧ version? object = some (toString number)

namespace Resource.Dated

variable {since upTo : Nat} {object other : K}

theorem mono (dated : Dated since upTo object) {since' upTo' : Nat} (earlier : since' ≤ since)
    (later : upTo ≤ upTo') : Dated since' upTo' object := by
  obtain ⟨number, above, below, version⟩ := dated
  exact ⟨number, by omega, by omega, version⟩

/-- Versions given out before and after a count differ. -/
theorem version?_ne {middle : Nat} (former : Dated since middle object) (latter : Dated middle upTo other) :
    version? other ≠ version? object := by
  obtain ⟨number, -, below, version⟩ := former
  obtain ⟨number', above, -, version'⟩ := latter
  rw [version, version']
  intro same
  have : number' = number := Nat.repr_injective (Option.some.inj same)
  omega

/-- Such a version is never the empty text. -/
theorem sameVersion_self (dated : Dated since upTo object) : sameVersion object object = true := by
  obtain ⟨number, -, -, version⟩ := dated
  simp [sameVersion, version]

end Resource.Dated

theorem version?_eq_of_sameVersion {wanted stored : K} (same : sameVersion wanted stored = true) :
    Resource.version? stored = Resource.version? wanted := by
  unfold sameVersion at same
  split at same
  · rename_i version version' wantedHas storedHas
    rw [wantedHas, storedHas, (by simpa using same : version ≠ "" ∧ version = version').2]
  · cases same

namespace Store

variable {store before middle after : Store K} {key : ObjectKey} {object seen stored : K}

/-! ## What a single act does to a store -/

/-- What a single act may do to the objects of a store and to its count: nothing is stored differently, one
object is written with the next version, or one is taken away. -/
inductive Altered (before after : Store K) : Prop where
  | same (object? : ∀ key, after.object? key = before.object? key) (counted : before.version ≤ after.version)
  | written (key : ObjectKey) (object : K) (puts : before.Puts after key (before.stamp object))
      (counted : after.version = before.version + 1)
  | gone (key : ObjectKey) (drops : before.Drops after key) (counted : after.version = before.version)

namespace Altered

theorem refl (store : Store K) : store.Altered store :=
  .same (fun _ => rfl) (Nat.le_refl _)

theorem put (store : Store K) (key : ObjectKey) (object : K) (writes : WriteCounts) :
    store.Altered { store.put key (store.stamp object) with writes } :=
  .written key object (puts_put store key _ writes) rfl

theorem remove (store : Store K) (key : ObjectKey) (writes : WriteCounts) :
    store.Altered { store.remove key with writes } :=
  .gone key (drops_remove store key writes) rfl

/-- What takes an object out or writes it anew. -/
theorem remove_or_put (store : Store K) (gone : Prop) [Decidable gone] (key : ObjectKey) (object : K)
    (writes : WriteCounts) :
    store.Altered { (if gone then store.remove key else store.put key (store.stamp object)) with writes } := by
  split
  · exact remove store key writes
  · exact put store key object writes

/-- An edit may do anything to an object, but it gives the object a new version. -/
theorem mutate (store : Store K) (key : ObjectKey) (edit : K → K) :
    store.Altered (store.mutate key edit) := by
  rw [Store.mutate]
  split
  · rename_i present found
    exact put store key (edit present) store.writes
  · exact .same (fun _ => rfl) (Nat.le_succ _)

theorem perform [StatusCarrier K] (store : Store K) (call : StoreCall K) :
    store.Altered (store.perform call).2 := by
  rcases result : store.perform call with ⟨failure | value, after⟩
  · -- a call that fails leaves the store as it is
    have left := perform_of_error (congrArg Prod.fst result)
    rw [result] at left
    exact left ▸ refl store
  · cases call with
    | get key =>
      obtain rfl : store = after := congrArg Prod.snd result
      exact refl store
    | create object =>
      obtain ⟨-, -, -, -, rfl⟩ := create_eq_ok_iff.mp result
      exact put ..
    | replace object =>
      obtain ⟨-, present, -, -, rfl⟩ := replace_eq_ok_iff.mp result
      exact remove_or_put ..
    | delete key =>
      obtain ⟨-, present, -, rfl⟩ := delete_eq_ok_iff.mp result
      exact remove_or_put ..
    | replaceStatus object =>
      obtain ⟨-, present, -, -, rfl⟩ := replaceStatus_eq_ok_iff.mp result
      exact put ..

end Altered

/-! ## How a store ages -/

/-- A later form of a store: its count has not gone down, and what is stored was stored before, or has a
version given out since. -/
structure Ages (before after : Store K) : Prop where
  version_le : before.version ≤ after.version
  object? {key : ObjectKey} {object : K} (stored : after.object? key = some object) :
    before.object? key = some object ∨ Resource.Dated before.version after.version object

namespace Ages

theorem refl (store : Store K) : store.Ages store :=
  ⟨Nat.le_refl _, .inl⟩

theorem trans (first : before.Ages middle) (second : middle.Ages after) : before.Ages after where
  version_le := Nat.le_trans first.version_le second.version_le
  object? stored := by
    rcases second.object? stored with stored | dated
    · exact (first.object? stored).imp id fun dated => dated.mono (Nat.le_refl _) second.version_le
    · exact .inr (dated.mono first.version_le (Nat.le_refl _))

theorem of_altered (altered : before.Altered after) : before.Ages after := by
  cases altered with
  | same object? counted => exact ⟨counted, fun stored => .inl ((object? _).symm.trans stored)⟩
  | written key object puts counted =>
    refine ⟨by omega, fun stored => ?_⟩
    rcases puts.object?_eq_some stored with ⟨-, rfl⟩ | former
    · exact .inr ⟨after.version, by omega, Nat.le_refl _, by
        rw [counted]; exact Resource.version?_withVersion ..⟩
    · exact .inl former
  | gone key drops counted => exact ⟨by omega, fun stored => .inl (drops.object?_eq_some stored).2⟩

variable [StatusCarrier K]

theorem perform (store : Store K) (call : StoreCall K) : store.Ages (store.perform call).2 :=
  of_altered (.perform store call)

theorem of_touched (touched : before.Touched after) : before.Ages after := by
  cases touched with
  | call call => exact perform before call
  | insert object => exact of_altered (.put before _ object before.writes)
  | mutate key edit same => exact of_altered (.mutate before key edit)
  | remove key => exact of_altered (.remove before key before.writes)
  | faults failing => exact ⟨Nat.le_refl _, .inl⟩

end Ages

/-- Every object is stored under its own identity and with a version that was given out. -/
structure Regular (store : Store K) : Prop where
  filed : store.WellFiled
  dated {key : ObjectKey} {object : K} (stored : store.object? key = some object) :
    Resource.Dated 0 store.version object

theorem regular_empty : Regular ({} : Store K) where
  filed := wellFiled_empty
  dated stored := by
    rw [object?_empty] at stored
    cases stored

theorem Regular.touched [StatusCarrier K] (regular : before.Regular) (touched : before.Touched after) :
    after.Regular where
  filed := regular.filed.touched touched
  dated stored := by
    have ages := Ages.of_touched touched
    rcases ages.object? stored with former | dated
    · exact (regular.dated former).mono (Nat.le_refl _) ages.version_le
    · exact dated.mono (Nat.zero_le _) (Nat.le_refl _)

/-! ## Objects known by their version -/

/-- An object that was seen under a key: its version was given out, and nothing else is stored under the key
with this version. -/
structure Knows (store : Store K) (key : ObjectKey) (seen : K) : Prop where
  dated : Resource.Dated 0 store.version seen
  eq {stored : K} (found : store.object? key = some stored)
    (same : Resource.version? stored = Resource.version? seen) : stored = seen

theorem Regular.knows (regular : store.Regular) (found : store.object? key = some seen) :
    store.Knows key seen where
  dated := regular.dated found
  eq found' _ := Option.some.inj (found'.symm.trans found)

/-- Whatever becomes of the store, an object that was seen stays known. -/
theorem Knows.ages (knows : before.Knows key seen) (ages : before.Ages after) :
    after.Knows key seen where
  dated := knows.dated.mono (Nat.le_refl _) ages.version_le
  eq found same := by
    rcases ages.object? found with former | dated
    · exact knows.eq former same
    · exact absurd same (knows.dated.version?_ne dated)

/-- What was found first and what is found later with the same version are the same object. -/
theorem Regular.eq_of_version? (regular : before.Regular) (ages : before.Ages after)
    (seen : before.object? key = some object) (found : after.object? key = some stored)
    (same : Resource.version? object = Resource.version? stored) : stored = object :=
  ((regular.knows seen).ages ages).eq found same.symm

end Store

end SharedMount
