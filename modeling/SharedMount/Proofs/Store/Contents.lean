import SharedMount.Proofs.Store.Touched

/-! # What a store holds

Versions apart, a store that was filled with objects of different identities holds these objects and no others,
in whatever order they were inserted. What a store holds also tells its size.
-/

namespace SharedMount.Store

variable {K : Type}

/-- A store has as many objects as there are keys under which something is stored. -/
theorem size_eq_length {store : Store K} {keys : List ObjectKey} (distinct : keys.Nodup)
    (stored : ∀ key, (store.object? key).isSome ↔ key ∈ keys) : store.size = keys.length := by
  have listed : ∀ key, key ∈ store.objects.keys ↔ key ∈ keys := by
    intro key
    rw [← stored, object?, Std.ExtTreeMap.mem_keys, Std.ExtTreeMap.mem_iff_isSome_getElem?]
  rw [size, ← Std.ExtTreeMap.length_keys]
  exact ((List.perm_ext_iff_of_nodup Std.ExtTreeMap.nodup_keys distinct).mpr listed).length_eq

variable [Resource K] {store : Store K} {objects : List K} {object : K} {key : ObjectKey}

/-- An object is stored under its identity, in some version. -/
def Holds (store : Store K) (object : K) : Prop :=
  ∃ version, store.object? (Resource.key object) = some (Resource.withVersion version object)

theorem Holds.of_eq {after : Store K} (holds : store.Holds object)
    (same : after.object? (Resource.key object) = store.object? (Resource.key object)) : after.Holds object :=
  holds.imp fun _ found => same.trans found

/-- Versions apart, what is under the key of a held object is that object. -/
theorem Holds.unversioned (holds : store.Holds object) :
    (store.object? (Resource.key object)).map (Resource.withVersion none) =
      some (Resource.withVersion none object) := by
  obtain ⟨version, found⟩ := holds
  rw [found, Option.map_some, Resource.withVersion_withVersion]

/-- A store has objects of different identities and no others, versions apart. -/
structure Consists (store : Store K) (objects : List K) : Prop where
  distinct : (objects.map Resource.key).Nodup
  holds {object : K} (member : object ∈ objects) : store.Holds object
  only {key : ObjectKey} (other : key ∉ objects.map Resource.key) : store.object? key = none

theorem Consists.size_eq (consists : store.Consists objects) : store.size = objects.length := by
  rw [← List.length_map Resource.key]
  refine size_eq_length consists.distinct fun key => ?_
  by_cases listed : key ∈ objects.map Resource.key
  · obtain ⟨object, member, rfl⟩ := List.mem_map.mp listed
    obtain ⟨version, found⟩ := consists.holds member
    exact iff_of_true (by rw [found]; rfl) listed
  · exact iff_of_false (by rw [consists.only listed]; simp) listed

/-- Stores that have the same objects differ in versions only. -/
theorem Consists.unversioned {other : Store K} (first : store.Consists objects)
    (second : other.Consists objects) (key : ObjectKey) :
    (other.object? key).map (Resource.withVersion none) =
      (store.object? key).map (Resource.withVersion none) := by
  by_cases listed : key ∈ objects.map Resource.key
  · obtain ⟨object, member, rfl⟩ := List.mem_map.mp listed
    rw [(first.holds member).unversioned, (second.holds member).unversioned]
  · rw [first.only listed, second.only listed]

/-- A store with an object for each of some sources, each in a place of its own, and with nothing anywhere
else. -/
theorem consists_map {α : Type} {sources : List α} {form : α → K} {place : α → ObjectKey}
    (filed : ∀ source, Resource.key (form source) = place source) (distinct : (sources.map place).Nodup)
    (holds : ∀ source ∈ sources, store.Holds (form source))
    (only : ∀ key, (∀ source ∈ sources, place source ≠ key) → store.object? key = none) :
    store.Consists (sources.map form) := by
  have places : (sources.map form).map Resource.key = sources.map place := by
    rw [List.map_map]
    exact List.map_congr_left fun source _ => filed source
  refine ⟨places ▸ distinct, fun member => ?_, fun other => only _ fun source member same => ?_⟩
  · obtain ⟨source, listed, rfl⟩ := List.mem_map.mp member
    exact holds source listed
  · rw [places, ← same] at other
    exact other (List.mem_map_of_mem member)

/-! ## Filling a store -/

/-- The store after objects were inserted one after the other. -/
def insertAll (objects : List K) (store : Store K) : Store K :=
  objects.foldl (fun store object => (store.insert object).2) store

theorem object?_insertAll_of_not_mem (other : key ∉ objects.map Resource.key) :
    (store.insertAll objects).object? key = store.object? key := by
  induction objects generalizing store with
  | nil => rfl
  | cons object rest ih =>
    rw [List.map_cons, List.mem_cons, not_or] at other
    exact (ih other.2).trans ((puts_insert store object).object?_of_ne (Ne.symm other.1))

theorem holds_insertAll (distinct : (objects.map Resource.key).Nodup) (member : object ∈ objects) :
    (store.insertAll objects).Holds object := by
  induction objects generalizing store with
  | nil => cases member
  | cons first rest ih =>
    rw [List.map_cons, List.nodup_cons] at distinct
    rcases List.mem_cons.mp member with rfl | member
    · exact ⟨_, (object?_insertAll_of_not_mem distinct.1).trans (puts_insert store object).object?_self⟩
    · exact ih distinct.2 member

theorem failing_insertAll (objects : List K) (store : Store K) :
    (store.insertAll objects).failing = store.failing := by
  induction objects generalizing store with
  | nil => rfl
  | cons object rest ih => exact ih _

theorem WellFiled.insertAll (filed : store.WellFiled) (objects : List K) :
    (store.insertAll objects).WellFiled := by
  induction objects generalizing store with
  | nil => exact filed
  | cons object rest ih => exact ih (filed.puts (puts_insert store object) (key_stamp ..))

/-- An empty store that objects are inserted into has these objects then. -/
theorem consists_insertAll (distinct : (objects.map Resource.key).Nodup) :
    (({} : Store K).insertAll objects).Consists objects where
  distinct := distinct
  holds := holds_insertAll distinct
  only other := (object?_insertAll_of_not_mem other).trans (object?_empty _)

end SharedMount.Store
