import SharedMount.Provision.Definition
import SharedMount.Upkeep.Basic

/-! # The roster of upkeep units

The operator keeps one unit for the volume and one for the claim of each SharedVolume that it has
worked on. Units are listed by owner and not by the object that they keep, since different owners may
have volumes of one name. A unit is built when it is first asked for and then stays as it is until its
owner is dismissed. Each unit has a serial number of its own.
-/

namespace SharedMount

/-- A unit with the number of units that were built before it. -/
structure Numbered (K : Type) where
  serial : Nat
  upkeep : Upkeep K
deriving DecidableEq

/-- The units of one kind, by owner. -/
structure Shelf (K : Type) where
  units : Std.ExtTreeMap ObjectKey (Numbered K) := ∅
  built : Nat := 0

namespace Shelf

variable {K : Type}

/-- The unit of an owner, if there is one. -/
def unit? (shelf : Shelf K) (owner : ObjectKey) : Option (Numbered K) :=
  shelf.units[owner]?

/-- The unit of an owner; if there is none, the one given is listed under a new serial number. -/
def take (shelf : Shelf K) (owner : ObjectKey) (fresh : Upkeep K) : Numbered K × Shelf K :=
  match shelf.unit? owner with
  | some unit => (unit, shelf)
  | none =>
      let unit := { serial := shelf.built, upkeep := fresh }
      (unit, { units := shelf.units.insert owner unit, built := shelf.built + 1 })

/-- Record what the unit of an owner has last seen of its object. -/
def record (shelf : Shelf K) (owner : ObjectKey) (latest : Option K) : Shelf K :=
  match shelf.unit? owner with
  | some unit =>
      let unit := { unit with upkeep := { unit.upkeep with latest } }
      { shelf with units := shelf.units.insert owner unit }
  | none => shelf

/-- Drop the unit of an owner. -/
def dismiss (shelf : Shelf K) (owner : ObjectKey) : Shelf K :=
  { shelf with units := shelf.units.erase owner }

/-- The unit of an owner after it was taken is the one that was given, and other owners keep theirs. -/
theorem unit?_take (shelf : Shelf K) (owner other : ObjectKey) (fresh : Upkeep K) :
    (shelf.take owner fresh).2.unit? other =
      if owner = other then some (shelf.take owner fresh).1 else shelf.unit? other := by
  cases present : shelf.unit? owner with
  | some unit => by_cases same : owner = other <;> simp_all [take]
  | none =>
    simp only [take, present]
    simp [unit?, Std.ExtTreeMap.getElem?_insert]

/-- Recording changes what the unit of the owner has seen, and nothing else. -/
theorem unit?_record (shelf : Shelf K) (owner other : ObjectKey) (latest : Option K) :
    (shelf.record owner latest).unit? other =
      if owner = other then
        (shelf.unit? owner).map fun unit => { unit with upkeep := { unit.upkeep with latest } }
      else shelf.unit? other := by
  cases present : shelf.unit? owner with
  | some unit =>
    simp only [record, present]
    simp [unit?, Std.ExtTreeMap.getElem?_insert]
  | none => by_cases same : owner = other <;> simp_all [record]

/-- Dismissing an owner drops its unit and no other. -/
theorem unit?_dismiss (shelf : Shelf K) (owner other : ObjectKey) :
    (shelf.dismiss owner).unit? other = if owner = other then none else shelf.unit? other := by
  simp [dismiss, unit?, Std.ExtTreeMap.getElem?_erase]

@[simp] theorem unit?_dismiss_self (shelf : Shelf K) (owner : ObjectKey) :
    (shelf.dismiss owner).unit? owner = none := by
  rw [unit?_dismiss, if_pos rfl]

end Shelf

/-- The unit for the volume of a SharedVolume. A volume in use cannot be changed to any purpose, so
it is never written over for what it holds. -/
def volumeUpkeep (shared : SharedVolume) (settings : Settings) : Upkeep PersistentVolume where
  key := volumeKey shared.key
  definition := volumeDefinition shared settings
  comparison := .always

/-- The unit for the claim of a SharedVolume, whose spec is kept as defined. -/
def claimUpkeep (shared : SharedVolume) (settings : Settings) : Upkeep PersistentVolumeClaim where
  key := claimKey shared.key
  definition := claimDefinition shared settings
  comparison := .field "spec"

/-- The units for the volumes and the claims of all owners. -/
structure Roster where
  volumes : Shelf PersistentVolume := {}
  claims : Shelf PersistentVolumeClaim := {}

instance : Inhabited Roster := ⟨{}⟩

namespace Roster

/-- The unit for the volume of a SharedVolume, built on first use. -/
def volume (roster : Roster) (shared : SharedVolume) (settings : Settings) :
    Numbered PersistentVolume × Roster :=
  let (unit, volumes) := roster.volumes.take shared.key (volumeUpkeep shared settings)
  (unit, { roster with volumes })

/-- The unit for the claim of a SharedVolume, built on first use. -/
def claim (roster : Roster) (shared : SharedVolume) (settings : Settings) :
    Numbered PersistentVolumeClaim × Roster :=
  let (unit, claims) := roster.claims.take shared.key (claimUpkeep shared settings)
  (unit, { roster with claims })

/-- The unit handed out is the one that is listed. -/
theorem unit?_volume (roster : Roster) (shared : SharedVolume) (settings : Settings) :
    (roster.volume shared settings).2.volumes.unit? shared.key =
      some (roster.volume shared settings).1 := by
  simp only [volume, Shelf.unit?_take, ↓reduceIte]

theorem unit?_claim (roster : Roster) (shared : SharedVolume) (settings : Settings) :
    (roster.claim shared settings).2.claims.unit? shared.key =
      some (roster.claim shared settings).1 := by
  simp only [claim, Shelf.unit?_take, ↓reduceIte]

/-- Drop both units of an owner. -/
def dismiss (roster : Roster) (owner : ObjectKey) : Roster where
  volumes := roster.volumes.dismiss owner
  claims := roster.claims.dismiss owner

/-- The owners with at least one unit: those with a volume, and those with a claim alone. -/
def owners (roster : Roster) : List ObjectKey :=
  roster.volumes.units.keys ++
    roster.claims.units.keys.filter fun owner => !roster.volumes.units.contains owner

/-- The number of owners with at least one unit. -/
def size (roster : Roster) : Nat :=
  roster.owners.length

/-- Whether there is no unit at all. -/
def isEmpty (roster : Roster) : Bool :=
  roster.volumes.units.isEmpty && roster.claims.units.isEmpty

end Roster

end SharedMount
