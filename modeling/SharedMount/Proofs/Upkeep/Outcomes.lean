import SharedMount.Proofs.Program.Meets
import SharedMount.Proofs.Provision.Belonging

/-! # What establishing and withdrawing come to

`Established` and `Withdrawn` list all the ways in which the work of an upkeep unit may end when nothing
interferes, each with the store that is left. Neither fails unless an operation is made to fail.
-/

namespace SharedMount

namespace Upkeep

variable {K : Type} [Resource K]

/-! ## The object wanted -/

private theorem getElem?_insertMany_toList (labels more : TextMap) (name : String) :
    (labels.insertMany more.toList)[name]? = more[name]?.or labels[name]? := by
  cases found : more[name]? with
  | none =>
    rw [Std.ExtTreeMap.getElem?_insertMany_list_of_contains_eq_false]
    · rfl
    · simpa using found
  | some value =>
    rw [Std.ExtTreeMap.getElem?_insertMany_list_of_mem (by simp)
      Std.ExtTreeMap.distinct_keys_toList (Std.ExtTreeMap.mem_toList_iff_getElem?_eq_some.mpr found)]
    rfl

/-- Of the object wanted, the labels of the definition are as defined. -/
theorem label?_wanted (unit : Upkeep K) (name : String) :
    (Resource.metadata unit.wanted).label? name =
      ((Resource.metadata unit.definition).label? name).or
        ((Resource.metadata (unit.latest.getD unit.definition)).label? name) := by
  rw [wanted, Resource.metadata_mapMetadata]
  exact getElem?_insertMany_toList _ _ name

theorem key_wanted (unit : Upkeep K) :
    Resource.key unit.wanted = Resource.key (unit.latest.getD unit.definition) := by
  rw [wanted, Resource.key, Resource.metadata_mapMetadata]
  rfl

/-- When the definition names an owner, so does the object wanted, whatever was last seen. -/
theorem owner?_wanted {unit : Upkeep K} {owner : ObjectKey} (defined : owner? unit.definition = some owner) :
    owner? unit.wanted = some owner := by
  obtain ⟨ns, name, labelled, given, named, filled, rfl⟩ := Metadata.owner?_eq_some_iff.mp defined
  exact Metadata.owner?_eq_some_iff.mpr ⟨ns, name, by rw [label?_wanted, labelled]; rfl, given,
    by rw [label?_wanted, named]; rfl, filled, rfl⟩

/-- When the definition belongs to an owner, so does the object wanted, whoever the object last seen
belongs to: the labels are those of the definition. -/
theorem belongsTo_wanted_of_defined {unit : Upkeep K} {owner key : ObjectKey}
    (defined : BelongsTo owner key unit.definition)
    (seen : ∀ latest, unit.latest = some latest → ∃ other, BelongsTo other key latest) :
    BelongsTo owner key unit.wanted := by
  obtain ⟨other, base⟩ : ∃ other, BelongsTo other key (unit.latest.getD unit.definition) := by
    cases present : unit.latest with
    | none => exact ⟨owner, defined⟩
    | some latest => exact seen latest present
  have marked : (Resource.metadata unit.definition).label? managedLabel = some managedValue := by
    simpa [isManaged, Metadata.isManaged] using defined.managed
  exact {
    identity := by rw [key_wanted, base.identity]
    labelled := owner?_wanted defined.labelled
    managed := by simp [isManaged, Metadata.isManaged, label?_wanted, marked]
    bare := by rw [wanted, Resource.metadata_mapMetadata]; exact base.bare
    unmarked := by rw [wanted, Resource.metadata_mapMetadata]; exact base.unmarked }

/-- When definition and object last seen belong to an owner, so does the object wanted. -/
theorem belongsTo_wanted {unit : Upkeep K} {owner key : ObjectKey}
    (defined : BelongsTo owner key unit.definition)
    (seen : ∀ latest, unit.latest = some latest → BelongsTo owner key latest) :
    BelongsTo owner key unit.wanted :=
  belongsTo_wanted_of_defined defined fun latest present => ⟨owner, seen latest present⟩

/-! ## Establishing -/

section Establish

variable [StatusKind K]

/-- The object wanted, to be written over a stored one. -/
def replacement (unit : Upkeep K) (stored : K) : K :=
  Resource.withVersion (Resource.version? stored) unit.wanted

/-- How making the stored object as wanted may end. -/
inductive Established (unit : Upkeep K) (store : Store K) : Except Failure (Upkeep K) → Store K → Prop where
  | failed (failure : Failure) (faulty : ∃ operation, store.failing operation = true) :
      Established unit store (.error failure) store
  | accepted {stored : K} (found : store.object? unit.key = some stored)
      (accepts : unit.accepts stored = true) :
      Established unit store (.ok { unit with latest := some stored }) store
  | created {after : Store K} (missing : store.object? unit.key = none)
      (puts : store.Puts after unit.key (store.stamp unit.wanted)) :
      Established unit store (.ok { unit with latest := some (store.stamp unit.wanted) }) after
  | replaced {stored : K} {after : Store K} (found : store.object? unit.key = some stored)
      (differs : unit.accepts stored = false) (stays : ¬Store.Finishes (unit.replacement stored) stored)
      (puts : store.Puts after unit.key (store.stamp (Store.merged (unit.replacement stored) stored))) :
      Established unit store
        (.ok { unit with latest := some (store.stamp (Store.merged (unit.replacement stored) stored)) }) after
  | finished {stored : K} {after : Store K} (found : store.object? unit.key = some stored)
      (differs : unit.accepts stored = false) (finishes : Store.Finishes (unit.replacement stored) stored)
      (drops : store.Drops after unit.key) :
      Established unit store
        (.ok { unit with latest := some (Store.merged (unit.replacement stored) stored) }) after

theorem meets_establish {unit : Upkeep K} {store : Store K} {allowed : Store K → StoreCall K → Prop}
    (own : Resource.key unit.wanted = unit.key) (reads : allowed store (.get unit.key))
    (creates : store.object? unit.key = none →
      allowed store (.create (Resource.withVersion none unit.wanted)))
    (replaces : ∀ stored, store.object? unit.key = some stored → unit.accepts stored = false →
      allowed store (.replace (unit.replacement stored))) :
    unit.establish.Meets allowed (Established unit store) store := by
  rw [establish, StoreProgram.meets_bind, StoreProgram.meets_get]
  refine ⟨reads, ?_⟩
  cases works : store.failing .get with
  | true =>
    rw [Store.get, Store.check_of_failing works]
    exact .failed _ ⟨_, works⟩
  | false =>
    rw [Store.get_eq_ok_iff.mpr ⟨works, rfl⟩]
    cases found : store.object? unit.key with
    | none =>
      simp only
      rw [StoreProgram.meets_bind, StoreProgram.meets_create]
      refine ⟨creates found, ?_⟩
      have stamped : store.stamp (Resource.withVersion none unit.wanted) = store.stamp unit.wanted :=
        Resource.withVersion_withVersion ..
      have sent : Resource.key (Resource.withVersion none unit.wanted) = unit.key := by
        rw [Resource.key_withVersion, own]
      cases works : store.failing .create with
      | true =>
        obtain ⟨failure, result⟩ := Store.create_of_failing works
          (Resource.withVersion none unit.wanted)
        rw [result]
        exact .failed _ ⟨_, works⟩
      | false =>
        obtain ⟨after, result, puts⟩ := Store.create_of_working works
          (Resource.version?_withVersion none unit.wanted) (by rw [sent, found])
        rw [result, stamped]
        rw [stamped, sent] at puts
        exact .created found puts
    | some stored =>
      simp only
      cases accepts : unit.accepts stored with
      | true => exact .accepted found accepts
      | false =>
        simp only [Bool.false_eq_true, ↓reduceIte]
        rw [StoreProgram.meets_bind]
        refine StoreProgram.meets_replace .. |>.mpr ⟨replaces stored found accepts, ?_⟩
        have sent : Resource.key (unit.replacement stored) = unit.key := by
          rw [replacement, Resource.key_withVersion, own]
        cases works : store.failing .replace with
        | true =>
          obtain ⟨failure, result⟩ := Store.replace_of_failing works (unit.replacement stored)
          rw [← replacement, result]
          exact .failed _ ⟨_, works⟩
        | false =>
          have version : Resource.version? (unit.replacement stored) = Resource.version? stored :=
            Resource.version?_withVersion ..
          obtain ⟨after, ⟨finishes, drops, result⟩ | ⟨stays, puts, result⟩⟩ :=
            Store.replace_of_working works (by rw [sent, found]) version <;> rw [← replacement, result]
          · exact .finished found accepts finishes (sent ▸ drops)
          · exact .replaced found accepts stays (sent ▸ puts)

/-- What a unit saw when it succeeded: it is stored, and either was before or carries the labels of the
object wanted; or what was there was being deleted, and may be gone. -/
theorem Established.seen {unit unit' : Upkeep K} {store after : Store K} (filed : store.WellFiled)
    (own : Resource.key unit.wanted = unit.key) (outcome : Established unit store (.ok unit') after) :
    ∃ latest, unit'.latest = some latest ∧ Resource.key latest = unit.key ∧
      (after.object? unit.key = some latest ∧
          (store.object? unit.key = some latest ∨ owner? latest = owner? unit.wanted) ∨
        store.Terminating unit.key) := by
  cases outcome with
  | @accepted stored found => exact ⟨stored, rfl, filed _ _ found, .inl ⟨found, .inl found⟩⟩
  | created missing puts =>
    exact ⟨_, rfl, by rw [Store.key_stamp, own], .inl ⟨puts.object?_self, .inr (owner?_stamp ..)⟩⟩
  | @replaced stored _ found differs stays puts =>
    refine ⟨_, rfl, ?_, .inl ⟨puts.object?_self, .inr ?_⟩⟩
    · rw [Store.key_stamp, Store.key_merged, replacement, Resource.key_withVersion, own]
    · rw [owner?_stamp, owner?_merged, replacement, owner?_withVersion]
  | @finished stored _ found differs finishes drops =>
    refine ⟨_, rfl, ?_, .inr ⟨stored, found, finishes.1⟩⟩
    rw [Store.key_merged, replacement, Resource.key_withVersion, own]

/-- An object that was being deleted is not to stay after it was established. -/
theorem Established.leaving {unit : Upkeep K} {store after : Store K} {result : Except Failure (Upkeep K)}
    (outcome : Established unit store result after) (terminating : store.Terminating unit.key) :
    after.Leaving unit.key := by
  have leaving := terminating.leaving
  cases outcome with
  | failed | accepted => exact leaving
  | created missing puts =>
    obtain ⟨object, stored, -⟩ := terminating
    exact absurd (missing.symm.trans stored) (by simp)
  | @replaced stored _ found differs stays puts =>
    refine .of_stored puts.object?_self ?_
    rw [Store.metadata_stamp, Store.metadata_merged]
    exact leaving stored found
  | finished found differs finishes drops => exact .of_missing drops.object?_self

end Establish

/-! ## Withdrawing -/

/-- How deleting the stored object may end. -/
inductive Withdrawn (unit : Upkeep K) (store : Store K) : Except Failure (Upkeep K) → Store K → Prop where
  | failed (failure : Failure) (faulty : ∃ operation, store.failing operation = true) :
      Withdrawn unit store (.error failure) store
  | missing (missing : store.object? unit.key = none) :
      Withdrawn unit store (.ok { unit with latest := none }) store
  | removed {stored : K} {after : Store K} (found : store.object? unit.key = some stored)
      (bare : (Resource.metadata stored).finalizerList = []) (drops : store.Drops after unit.key) :
      Withdrawn unit store (.ok { unit with latest := none }) after
  | marked {stored : K} {after : Store K} (found : store.object? unit.key = some stored)
      (held : (Resource.metadata stored).finalizerList ≠ [])
      (puts : store.Puts after unit.key (store.stamp (Store.marked stored))) :
      Withdrawn unit store (.ok { unit with latest := none }) after

theorem meets_withdraw {unit : Upkeep K} {store : Store K} {allowed : Store K → StoreCall K → Prop}
    (reads : allowed store (.get unit.key))
    (deletes : (store.object? unit.key).isSome → allowed store (.delete unit.key)) :
    unit.withdraw.Meets allowed (Withdrawn unit store) store := by
  rw [withdraw, StoreProgram.meets_bind, StoreProgram.meets_get]
  refine ⟨reads, ?_⟩
  cases works : store.failing .get with
  | true =>
    rw [Store.get, Store.check_of_failing works]
    exact .failed _ ⟨_, works⟩
  | false =>
    rw [Store.get_eq_ok_iff.mpr ⟨works, rfl⟩]
    cases found : store.object? unit.key with
    | none => exact .missing found
    | some stored =>
      simp only
      rw [StoreProgram.meets_bind, StoreProgram.meets_tryCatch, StoreProgram.meets_delete]
      refine ⟨deletes (by rw [found]; rfl), ?_⟩
      cases works : store.failing .delete with
      | true =>
        rw [Store.delete_of_failing works]
        exact .failed _ ⟨_, works⟩
      | false =>
        obtain ⟨after, result, ⟨bare, drops⟩ | ⟨held, puts⟩⟩ :=
          Store.delete_of_working works found <;> rw [result]
        · exact .removed found bare drops
        · exact .marked found held puts

/-- After a deletion that succeeded, nothing is to stay. -/
theorem Withdrawn.leaving {unit unit' : Upkeep K} {store after : Store K}
    (outcome : Withdrawn unit store (.ok unit') after) :
    unit'.latest = none ∧ after.Leaving unit.key := by
  cases outcome with
  | missing missing => exact ⟨rfl, .of_missing missing⟩
  | removed found bare drops =>
    exact ⟨rfl, .of_missing drops.object?_self⟩
  | marked found held puts =>
    refine ⟨rfl, .of_stored puts.object?_self ?_⟩
    rw [Store.metadata_stamp, Store.metadata_marked]
    rfl

end Upkeep

end SharedMount
