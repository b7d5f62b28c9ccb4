import SharedMount.Proofs.Program.Outcome
import SharedMount.Proofs.Upkeep.Charge

/-! # Work of a unit that is done again

Where nothing is being deleted, a unit that never saw its object leaves one that it will be content with
from then on: establishing again writes nothing. The same goes for withdrawing where no finalizers are about.
After a failure the unit is as before, and so it fails in the same way again.
-/

namespace SharedMount

/-- Nothing that is filed under a key has a finalizer. -/
def Store.Bare {K : Type} [Resource K] (store : Store K) (key : ObjectKey) : Prop :=
  ∀ object, store.object? key = some object → (Resource.metadata object).finalizerList = []

namespace Upkeep

variable {K : Type} [Resource K]

theorem isManaged_wanted {unit : Upkeep K} (defined : isManaged unit.definition = true) :
    isManaged unit.wanted = true := by
  have marked : (Resource.metadata unit.definition).label? managedLabel = some managedValue := by
    simpa [isManaged, Metadata.isManaged] using defined
  simp [isManaged, Metadata.isManaged, label?_wanted, marked]

theorem version?_wanted (unit : Upkeep K) :
    Resource.version? unit.wanted = Resource.version? (unit.latest.getD unit.definition) := by
  rw [wanted, Resource.version?, Resource.metadata_mapMetadata]
  rfl

/-- Work that starts with a read succeeds only if reading works. -/
private theorem readable_of_ok {α : Type} {key : ObjectKey} {next : Option K → StoreProgram K α}
    {store after : Store K} {value : α}
    (ends : (StoreProgram.get key >>= next).outcome store = (.ok value, after)) :
    store.failing .get = false := by
  cases fails : store.failing .get with
  | false => rfl
  | true =>
    rw [StoreProgram.outcome_eq_iff, StoreProgram.meets_bind, StoreProgram.meets_get, Store.get,
      Store.check_of_failing fails] at ends
    cases ends.2.1

/-- Establishing ends with a result and changes neither the store nor the unit. -/
def Rests (unit : Upkeep K) (store : Store K) (result : Except Failure Unit) : Prop :=
  unit.establish.outcome store = (result.map fun _ => unit, store)

theorem rests_of_accepts {unit : Upkeep K} {store : Store K} {stored : K}
    (readable : store.failing .get = false) (found : store.object? unit.key = some stored)
    (last : unit.latest = some stored) (accepts : unit.accepts stored = true) :
    unit.Rests store (.ok ()) := by
  refine StoreProgram.outcome_eq_iff.mpr ?_
  rw [establish, StoreProgram.meets_bind, StoreProgram.meets_get,
    Store.get_eq_ok_iff.mpr ⟨readable, found⟩]
  simp only [accepts, ↓reduceIte, ← last]
  exact ⟨trivial, rfl, rfl⟩

section Establish

variable [StatusKind K]

/-- An object as a unit writes it: as wanted, but for its version, its status and its deletion mark. -/
inductive Made (unit : Upkeep K) (store : Store K) : K → Prop where
  | created : Made unit store (store.stamp unit.wanted)
  | replaced (stored : K) :
      Made unit store (store.stamp (Store.merged (unit.replacement stored) stored))

theorem Made.isManaged {unit : Upkeep K} {store : Store K} {object : K} (made : unit.Made store object)
    (defined : isManaged unit.definition = true) : isManaged object = true := by
  cases made with
  | created => rw [isManaged_stamp, isManaged_wanted defined]
  | replaced stored =>
    rw [isManaged_stamp, isManaged_merged, replacement, isManaged_withVersion, isManaged_wanted defined]

theorem Made.owner? {unit : Upkeep K} {store : Store K} {object : K} (made : unit.Made store object) :
    owner? object = owner? unit.wanted := by
  cases made with
  | created => rw [owner?_stamp]
  | replaced stored => rw [owner?_stamp, owner?_merged, replacement, owner?_withVersion]

/-- An object was established where the unit looks for it: it carries the marker, and either it was there
and agreed with what the unit wants, or the unit made it. -/
structure Provides (unit : Upkeep K) (before after : Store K) (latest : K) : Prop where
  stored : after.object? unit.key = some latest
  readable : after.failing .get = false
  managed : isManaged latest = true
  origin : before.object? unit.key = some latest ∧ unit.comparison.agree unit.wanted latest = true ∨
    unit.Made before latest

/-- The unit for an object that was provided is content with it, if it agrees with itself. -/
theorem Provides.rests {unit : Upkeep K} {before after : Store K} {latest : K}
    (provides : unit.Provides before after latest)
    (agrees : unit.comparison.agree { unit with latest := some latest }.wanted latest = true) :
    { unit with latest := some latest }.Rests after (.ok ()) := by
  refine rests_of_accepts provides.readable provides.stored rfl ?_
  simp [accepts, provides.managed, agrees]

/-- How establishing ends where nothing is being deleted: the object is provided, or nothing was changed
because some operation was made to fail. -/
def Provided (unit : Upkeep K) (before after : Store K) : Except Failure Unit → Prop
  | .ok () => ∃ latest, unit.Provides before after latest
  | .error _ => after = before ∧ ∃ operation, before.failing operation = true

/-- For a unit that has not seen a version of its object, establishing either provides the object, or fails
in a way that it will fail again. -/
private theorem meets_establish_unversioned {unit : Upkeep K} {store : Store K}
    (own : Resource.key unit.wanted = unit.key) (defined : isManaged unit.definition = true)
    (unversioned : Resource.version? unit.wanted = none)
    (calm : ¬store.Terminating unit.key) :
    unit.establish.Meets (fun _ _ => True) (fun result after =>
      match result with
      | .ok unit' => ∃ latest, unit' = { unit with latest := some latest } ∧
          unit.Provides store after latest
      | .error failure => after = store ∧ unit.Rests store (.error failure) ∧
          ∃ operation, store.failing operation = true) store := by
  refine (meets_establish own trivial (fun _ => trivial) fun _ _ _ => trivial).outcome.imp ?_
  rintro result after ⟨outcome, ends⟩
  cases outcome with
  | failed failure faulty => exact ⟨rfl, ends, faulty⟩
  | @accepted stored found accepts =>
    have agrees : isManaged stored = true ∧ unit.comparison.agree unit.wanted stored = true := by
      simpa [Upkeep.accepts, sameVersion, unversioned] using accepts
    exact ⟨stored, rfl, found, readable_of_ok ends, agrees.1, .inl ⟨found, agrees.2⟩⟩
  | created missing puts =>
    exact ⟨_, rfl, puts.object?_self, puts.failing ▸ readable_of_ok ends, Made.created.isManaged defined,
      .inr .created⟩
  | @replaced stored _ found differs stays' puts =>
    exact ⟨_, rfl, puts.object?_self, puts.failing ▸ readable_of_ok ends,
      (Made.replaced stored).isManaged defined, .inr (.replaced stored)⟩
  | finished found differs finishes drops => exact absurd ⟨_, found, finishes.1⟩ calm

end Establish

/-! ## Withdrawing -/

/-- Withdrawing ends with a result and does not change the store. -/
def Spent (unit : Upkeep K) (store : Store K) (result : Except Failure Unit) : Prop :=
  ∃ ends : Except Failure (Upkeep K), unit.withdraw.outcome store = (ends, store) ∧
    ends.map (fun _ => ()) = result

/-- Where no finalizer holds the object, withdrawing takes it away or changes nothing, and the unit is then
spent. -/
theorem meets_withdraw_bare {unit : Upkeep K} {store : Store K}
    (bare : store.Bare unit.key) :
    unit.withdraw.Meets (fun _ _ => True) (fun result after =>
      unit.Spent after (result.map fun _ => ()) ∧ after.failing = store.failing ∧
        (after = store ∨ after.object? unit.key = none)) store := by
  refine (meets_withdraw trivial fun _ => trivial).outcome.imp ?_
  rintro result after ⟨outcome, ends⟩
  cases outcome with
  | failed | missing => exact ⟨⟨_, ends, rfl⟩, rfl, .inl rfl⟩
  | removed found bare' drops =>
    refine ⟨⟨_, ?_, rfl⟩, drops.failing, .inr drops.object?_self⟩
    have readable : after.failing .get = false := drops.failing ▸ readable_of_ok ends
    rw [StoreProgram.outcome_eq_iff, withdraw, StoreProgram.meets_bind, StoreProgram.meets_get,
      Store.get_eq_ok_iff.mpr ⟨readable, drops.object?_self⟩]
    exact ⟨trivial, rfl, rfl⟩
  | marked found held puts => exact absurd (bare _ found) held

end Upkeep

namespace Shelf

variable {K : Type} {shelf : Shelf K} {owner : ObjectKey}

theorem take_of_some {unit : Numbered K} (listed : shelf.unit? owner = some unit) (fresh : Upkeep K) :
    shelf.take owner fresh = (unit, shelf) := by
  rw [take, listed]

theorem upkeep_take_of_none (unlisted : shelf.unit? owner = none) (fresh : Upkeep K) :
    (shelf.take owner fresh).1.upkeep = fresh := by
  rw [take, unlisted]

theorem unit?_record_of_some {unit : Numbered K} (listed : shelf.unit? owner = some unit)
    (latest : Option K) : (shelf.record owner latest).unit? owner =
      some { unit with upkeep := { unit.upkeep with latest } } := by
  rw [unit?_record, if_pos rfl, listed, Option.map_some]

/-- Recording what a unit has seen already changes nothing. -/
theorem record_self {unit : Numbered K} (listed : shelf.unit? owner = some unit) :
    shelf.record owner unit.upkeep.latest = shelf := by
  have same : shelf.units.insert owner unit = shelf.units := by
    apply Std.ExtTreeMap.ext_getElem?
    intro other
    rw [Std.ExtTreeMap.getElem?_insert]
    split
    · rename_i owned
      rw [← Std.LawfulEqCmp.eq_of_compare owned]
      exact listed.symm
    · rfl
  rw [record, listed]
  exact congrArg (fun units => { shelf with units }) same

variable [Resource K]

/-- The unit of an owner is listed and rests. -/
def Rests (shelf : Shelf K) (owner : ObjectKey) (store : Store K) (result : Except Failure Unit) : Prop :=
  ∃ unit, shelf.unit? owner = some unit ∧ unit.upkeep.Rests store result

/-- What establishing comes to where nothing is being deleted, with a unit that is built for it: however it
ends, the unit then rests. -/
theorem meets_establish [StatusKind K] {fresh : Upkeep K} {store : Store K}
    (unlisted : shelf.unit? owner = none) (own : Resource.key fresh.wanted = fresh.key)
    (defined : isManaged fresh.definition = true) (unversioned : Resource.version? fresh.wanted = none)
    (calm : ¬store.Terminating fresh.key)
    (agrees : ∀ latest,
      fresh.comparison.agree { fresh with latest := some latest }.wanted latest = true) :
    (shelf.take owner fresh).1.upkeep.establish.Meets (fun _ _ => True) (fun result after =>
      match result with
      | .ok unit => ((shelf.take owner fresh).2.record owner unit.latest).Rests owner after (.ok ()) ∧
          fresh.Provided store after (.ok ())
      | .error failure => (shelf.take owner fresh).2.Rests owner after (.error failure) ∧
          fresh.Provided store after (.error failure)) store := by
  have listed := shelf.unit?_take_self owner fresh
  have built := upkeep_take_of_none unlisted fresh
  rw [built]
  refine (Upkeep.meets_establish_unversioned own defined unversioned calm).imp ?_
  rintro (failure | unit) after ends
  · obtain ⟨rfl, rests, faulty⟩ := ends
    exact ⟨⟨_, listed, by rwa [built]⟩, rfl, faulty⟩
  · obtain ⟨latest, rfl, provides⟩ := ends
    refine ⟨⟨_, unit?_record_of_some listed _, ?_⟩, latest, provides⟩
    rw [built]
    exact provides.rests (agrees latest)

end Shelf

end SharedMount
