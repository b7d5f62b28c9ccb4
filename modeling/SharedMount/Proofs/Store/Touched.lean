import SharedMount.Proofs.Store.Changes

/-! # What may become of a store

A store is changed by calls, whoever makes them, and behind the back of the interface; and operations are made
to fail or work again. `Touched` lists all of it. Objects keep their identities.
-/

namespace SharedMount

/-- What may become of a store by a call or behind the back of the interface. -/
inductive Store.Touched {K M : Type} [ObjectMeta M] [ObjectKind K M] (store : Store K) : Store K → Prop where
  | call (call : StoreCall K) : Touched store (store.perform call).2
  | insert (object : K) : Touched store (store.insert object).2
  | mutate (key : ObjectKey) (edit : K → K)
      (same : ∀ object, Resource.key (edit object) = Resource.key object) :
      Touched store (store.mutate key edit)
  | remove (key : ObjectKey) : Touched store (store.remove key)
  | faults (failing : Operation → Bool) : Touched store { store with failing }

namespace Store

variable {K M : Type} [ObjectMeta M] [ObjectKind K M] {store after : Store K}

theorem puts_insert (store : Store K) (object : K) :
    Puts store (store.insert object).2 (Resource.key object) (store.stamp object) := by
  refine ⟨fun other => ?_, rfl⟩
  rw [insert, object?_put, key_stamp]

/-- Editing an object puts the edited one, if there is one to be edited. -/
theorem mutate_cases (store : Store K) (key : ObjectKey) (edit : K → K) :
    store.object? key = none ∧ (∀ other, (store.mutate key edit).object? other = store.object? other) ∨
      ∃ present, store.object? key = some present ∧
        Puts store (store.mutate key edit) key (store.stamp (edit present)) := by
  cases found : store.object? key with
  | none =>
    refine .inl ⟨rfl, fun other => ?_⟩
    rw [mutate, found]
    rfl
  | some present =>
    refine .inr ⟨present, rfl, fun other => ?_, ?_⟩
    · rw [mutate, found, object?_put]
    · rw [mutate, found]
      rfl

/-- Whatever happens to a store, its objects stay filed under their identities. -/
theorem WellFiled.touched [StatusCarrier K] (filed : store.WellFiled) (touched : store.Touched after) :
    after.WellFiled := by
  cases touched with
  | call call => exact filed.perform call
  | insert object => exact filed.puts (puts_insert store object) (key_stamp ..)
  | mutate key edit same =>
    rcases mutate_cases store key edit with ⟨-, unchanged⟩ | ⟨present, found, puts⟩
    · intro other object stored
      rw [unchanged] at stored
      exact filed other object stored
    · exact filed.puts puts (by rw [key_stamp, same, filed _ _ found])
  | remove key => exact filed.drops (drops_remove store key store.writes)
  | faults failing => exact filed

end Store

end SharedMount
