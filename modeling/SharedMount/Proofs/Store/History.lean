import Mathlib.Data.Nat.Init
import SharedMount.Proofs.Store.Versions

/-! # Histories of a store

A history lists what has happened to a store that was empty at first: calls of the interface, acts behind its
back, and turns of its faults. `moment` is the store after the first so many of these events. Since no version is
given out twice, a version tells one object from all others at all moments, whatever the history is
(`version_tells_apart`).
-/

namespace SharedMount.Store

/-- What may happen to a store. An edit may do anything to an object, also to its identity. -/
inductive Event (K : Type) where
  | call (call : StoreCall K)
  | insert (object : K)
  | mutate (key : ObjectKey) (edit : K → K)
  | remove (key : ObjectKey)
  | faults (failing : Operation → Bool)

variable {K M : Type} [ObjectMeta M] [ObjectKind K M]

/-- The store after an event. -/
def Event.apply : Event K → Store K → Store K
  | .call request, store => (store.perform request).2
  | .insert object, store => (store.insert object).2
  | .mutate key edit, store => store.mutate key edit
  | .remove key, store => store.remove key
  | .faults failing, store => { store with failing }

/-- The store after the first events of a history, which has begun with an empty one. -/
def moment (history : List (Event K)) (n : Nat) : Store K :=
  (history.take n).foldl (fun store event => event.apply store) {}

variable {history : List (Event K)} {event : Event K} {before middle after : Store K} {key other : ObjectKey}
  {object twin : K}

theorem moment_succ {n : Nat} (happens : history[n]? = some event) :
    moment history (n + 1) = event.apply (moment history n) := by
  rw [moment, List.take_add_one, happens, Option.toList_some, List.foldl_append]
  rfl

/-- After its last event a history stands still. -/
theorem moment_succ_of_ended {n : Nat} (ended : history[n]? = none) :
    moment history (n + 1) = moment history n := by
  rw [moment, List.take_add_one, ended, Option.toList_none, List.append_nil]
  rfl

/-- What the events of a history keep holds at all of its moments. -/
theorem moment_keeps {holds : Store K → Prop} (initial : holds {})
    (kept : ∀ event ∈ history, ∀ store, holds store → holds (event.apply store)) (n : Nat) :
    holds (moment history n) := by
  induction n with
  | zero => exact initial
  | succ n ih =>
    cases happens : history[n]? with
    | none => rwa [moment_succ_of_ended happens]
    | some event =>
      rw [moment_succ happens]
      exact kept event (List.mem_of_getElem? happens) _ ih

theorem Altered.apply [StatusCarrier K] (event : Event K) (store : Store K) :
    store.Altered (event.apply store) := by
  cases event with
  | call call => exact .perform store call
  | insert object => exact .put store _ object store.writes
  | mutate key edit => exact .mutate store key edit
  | remove key => exact .remove store key store.writes
  | faults failing => exact .same (fun _ => rfl) (Nat.le_refl _)

/-- A store ages from each moment of a history to every later one. -/
theorem ages_moment [StatusCarrier K] (history : List (Event K)) {first last : Nat} (order : first ≤ last) :
    (moment history first).Ages (moment history last) := by
  induction last, order using Nat.le_induction with
  | base => exact .refl _
  | succ last order ih =>
    cases happens : history[last]? with
    | none => rwa [moment_succ_of_ended happens]
    | some event =>
      rw [moment_succ happens]
      exact ih.trans (.of_altered (.apply event _))

/-! ## Versions -/

/-- Every object has a version that was given out, and no two objects have the same one. -/
structure Versioned (store : Store K) : Prop where
  dated {key : ObjectKey} {object : K} (stored : store.object? key = some object) :
    Resource.Dated 0 store.version object
  unique {key other : ObjectKey} {object twin : K} (stored : store.object? key = some object)
    (found : store.object? other = some twin) (same : Resource.version? object = Resource.version? twin) :
    key = other

namespace Versioned

theorem initial : ({} : Store K).Versioned where
  dated stored := absurd (stored.symm.trans (object?_empty _)) (by simp)
  unique stored := absurd (stored.symm.trans (object?_empty _)) (by simp)

/-- An object that was there before has another version than one that is written now. -/
private theorem version?_ne_stamp (versioned : before.Versioned) (stored : before.object? key = some object)
    (written : K) : Resource.version? object ≠ Resource.version? (before.stamp written) := by
  have now : Resource.Dated before.version (before.version + 1) (before.stamp written) :=
    ⟨_, Nat.lt_succ_self _, Nat.le_refl _, Resource.version?_withVersion ..⟩
  exact ((versioned.dated stored).version?_ne now).symm

theorem altered (versioned : before.Versioned) (altered : before.Altered after) : after.Versioned where
  dated stored := by
    have ages := Ages.of_altered altered
    rcases ages.object? stored with former | dated
    · exact (versioned.dated former).mono (Nat.le_refl _) ages.version_le
    · exact dated.mono (Nat.zero_le _) (Nat.le_refl _)
  unique stored found same := by
    cases altered with
    | same object? counted =>
      rw [object?] at stored found
      exact versioned.unique stored found same
    | written key object puts counted =>
      rcases puts.object?_eq_some stored with ⟨rfl, rfl⟩ | former <;>
        rcases puts.object?_eq_some found with ⟨rfl, rfl⟩ | former'
      · rfl
      · exact absurd same.symm (versioned.version?_ne_stamp former' object)
      · exact absurd same (versioned.version?_ne_stamp former object)
      · exact versioned.unique former former' same
    | gone key drops counted =>
      exact versioned.unique (drops.object?_eq_some stored).2 (drops.object?_eq_some found).2 same

theorem moment [StatusCarrier K] (history : List (Event K)) (n : Nat) : (moment history n).Versioned :=
  moment_keeps initial (fun event _ store versioned => versioned.altered (.apply event store)) n

/-- What has the version of an object that was seen before is that object, under the same key, and it has been
there all the time. -/
theorem stored_between (versioned : before.Versioned) (first : before.Ages middle) (second : middle.Ages after)
    (seen : before.object? key = some object) (found : after.object? other = some twin)
    (same : Resource.version? object = Resource.version? twin) :
    key = other ∧ middle.object? key = some object := by
  have given := versioned.dated seen
  have there : middle.object? other = some twin := by
    rcases second.object? found with there | later
    · exact there
    · exact absurd same.symm ((given.mono (Nat.le_refl _) first.version_le).version?_ne later)
  have former : before.object? other = some twin := by
    rcases first.object? there with former | later
    · exact former
    · exact absurd same.symm (given.version?_ne later)
  obtain rfl := versioned.unique seen former same
  exact ⟨rfl, there.trans (former.symm.trans seen)⟩

end Versioned

variable [StatusCarrier K]

/-- Writing over an object or its status goes through only over a stored object of the version that is sent. -/
private theorem current_of_accepted {store : Store K} {sent : K}
    (accepted : (store.perform (.replace sent)).1.isOk = true ∨ (store.perform (.replaceStatus sent)).1.isOk = true) :
    ∃ present, store.object? (Resource.key sent) = some present ∧
      Resource.version? sent = Resource.version? present := by
  rcases accepted with accepted | accepted
  · rcases replace_cases store sent with ⟨failure, result⟩ | ⟨present, after, found, version, -⟩
    · rw [result] at accepted
      cases accepted
    · exact ⟨present, found, version⟩
  · rcases replaceStatus_cases store sent with ⟨failure, result⟩ | ⟨present, after, found, version, -⟩
    · rw [result] at accepted
      cases accepted
    · exact ⟨present, found, version⟩

/-- What has at a later moment the version of an object that was stored at an earlier one is that object, under the
same key, and it is stored at all moments between. -/
theorem object?_throughout {first last : Nat} (order : first ≤ last)
    (seen : (moment history first).object? key = some object)
    (found : (moment history last).object? other = some twin)
    (same : Resource.version? object = Resource.version? twin) :
    key = other ∧ ∀ n, first ≤ n → n ≤ last → (moment history n).object? key = some object := by
  have between : ∀ n, first ≤ n → n ≤ last →
      key = other ∧ (moment history n).object? key = some object := fun n after before =>
    (Versioned.moment history first).stored_between (ages_moment history after) (ages_moment history before)
      seen found same
  exact ⟨(between first (Nat.le_refl _) order).1, fun n after before => (between n after before).2⟩

/-- Whatever happens to a store, stored objects have versions that it has given out, as decimal numbers, and a
version tells an object from all others: what has it at two moments is one object, under one key, and is there at
all moments between them. So a write that is accepted with the version of an object that was read before goes over
that very object. -/
theorem version_tells_apart (history : List (Event K)) :
    (∀ n key object, (moment history n).object? key = some object →
      ∃ number, 1 ≤ number ∧ number ≤ (moment history n).version ∧
        Resource.version? object = some (toString number)) ∧
    (∀ first last key other object twin, first ≤ last →
      (moment history first).object? key = some object →
      (moment history last).object? other = some twin →
      Resource.version? object = Resource.version? twin →
        key = other ∧ ∀ n, first ≤ n → n ≤ last → (moment history n).object? key = some object) ∧
    ∀ first last key read sent, first ≤ last → (moment history first).object? key = some read →
      Resource.version? sent = Resource.version? read →
      ((moment history last).perform (.replace sent)).1.isOk = true ∨
        ((moment history last).perform (.replaceStatus sent)).1.isOk = true →
        Resource.key sent = key ∧
          ∀ n, first ≤ n → n ≤ last → (moment history n).object? key = some read := by
  refine ⟨fun n key object stored => ?_, fun _ _ _ _ _ _ => object?_throughout, ?_⟩
  · obtain ⟨number, above, below, version⟩ := (Versioned.moment history n).dated stored
    exact ⟨number, above, below, version⟩
  · intro first last key read sent order seen same accepted
    obtain ⟨present, found, current⟩ := current_of_accepted accepted
    obtain ⟨rfl, throughout⟩ := object?_throughout order seen found (same.symm.trans current)
    exact ⟨rfl, throughout⟩

/-! ## A sample -/

/-- A claim of a name. -/
def sampleClaim (name : String) : PersistentVolumeClaim :=
  { metadata := { name := some name, ns := some "x" } }

/-- A claim is made, taken away and made anew; then another one appears, and an edit misses its object. -/
def remadeHistory : List (Event PersistentVolumeClaim) :=
  [.insert (sampleClaim "a"), .remove (.namespaced "x" "a"), .call (.create (sampleClaim "a")),
    .insert (sampleClaim "b"), .mutate (.namespaced "x" "c") fun claim => { claim with spec := none }]

/-- With the version of the claim that was made anew, a write is accepted in the end, and that claim has been there
since; it is not the one that was made first. -/
theorem version_tells_apart_sample :
    ∃ first read, (moment remadeHistory 1).object? (.namespaced "x" "a") = some first ∧
      (moment remadeHistory 3).object? (.namespaced "x" "a") = some read ∧
      ((moment remadeHistory 5).perform (.replace { read with spec := some {} })).1.isOk = true ∧
      (moment remadeHistory 4).object? (.namespaced "x" "a") = some read ∧
      (moment remadeHistory 5).object? (.namespaced "x" "a") = some read ∧
      Resource.version? first ≠ Resource.version? read ∧
      ∃ number, 1 ≤ number ∧ number ≤ (moment remadeHistory 3).version ∧
        Resource.version? read = some (toString number) := by
  have facts : ((moment remadeHistory 1).object? (.namespaced "x" "a")).isSome ∧
      ((moment remadeHistory 2).object? (.namespaced "x" "a")).isNone ∧
      ((moment remadeHistory 3).object? (.namespaced "x" "a")).any (fun read =>
        ((moment remadeHistory 5).perform (.replace { read with spec := some {} })).1.isOk) = true := by
    decide +kernel
  obtain ⟨some_first, gone, some_read⟩ := facts
  obtain ⟨first, made⟩ := Option.isSome_iff_exists.mp some_first
  obtain ⟨read, seen, accepted⟩ := (Option.any_eq_true ..).mp some_read
  obtain ⟨dated, tells, writes⟩ := version_tells_apart remadeHistory
  obtain ⟨-, throughout⟩ := writes 3 5 _ read { read with spec := some {} } (by decide) seen rfl (.inl accepted)
  refine ⟨first, read, made, seen, accepted, throughout 4 (by decide) (by decide),
    throughout 5 (by decide) (by decide), fun same => ?_, dated 3 _ read seen⟩
  -- with the same version, the first claim would not have been away in between
  obtain ⟨-, always⟩ := tells 1 3 _ _ first read (by decide) made seen same
  exact absurd ((Option.isNone_iff_eq_none.mp gone).symm.trans (always 2 (by decide) (by decide))) (by simp)

end SharedMount.Store
