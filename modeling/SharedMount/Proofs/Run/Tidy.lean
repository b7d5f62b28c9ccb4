import SharedMount.Proofs.Run.Reachable

/-! # Worlds that only users and the operator have touched

In a world without interference from others, everything that the operator made belongs to a SharedVolume
that is registered for cleanup, and whatever is reported ready is there. `Tidy` is the invariant behind
this. Each kind of change that a pass or a user can make keeps it.
-/

namespace SharedMount.World

/-- Something in the stores of volumes and claims or in the roster is there for an owner. -/
inductive HasDependents (world : World) (owner : ObjectKey) : Prop where
  | volume {key : ObjectKey} {volume : PersistentVolume}
      (stored : world.volumes.object? key = some volume) (labelled : owner? volume = some owner)
  | claim {key : ObjectKey} {claim : PersistentVolumeClaim}
      (stored : world.claims.object? key = some claim) (labelled : owner? claim = some owner)
  | volumeUnit {unit : Numbered PersistentVolume}
      (listed : world.roster.volumes.unit? owner = some unit)
  | claimUnit {unit : Numbered PersistentVolumeClaim}
      (listed : world.roster.claims.unit? owner = some unit)

theorem HasDependents.of_eq {world other : World} {owner : ObjectKey}
    (dependents : other.HasDependents owner) (volumes : other.volumes = world.volumes)
    (claims : other.claims = world.claims) (roster : other.roster = world.roster) :
    world.HasDependents owner := by
  cases dependents with
  | volume stored labelled => exact .volume (volumes ▸ stored) labelled
  | claim stored labelled => exact .claim (claims ▸ stored) labelled
  | volumeUnit listed => exact .volumeUnit (roster ▸ listed)
  | claimUnit listed => exact .claimUnit (roster ▸ listed)

/-- A volume as the operator makes it for an owner. -/
abbrev OwnVolume (owner : ObjectKey) (volume : PersistentVolume) : Prop :=
  BelongsTo owner (volumeKey owner) volume

/-- A claim as the operator makes it for an owner. -/
structure OwnClaim (settings : Settings) (owner : ObjectKey) (claim : PersistentVolumeClaim) : Prop
    extends BelongsTo owner (claimKey owner) claim where
  spec : claim.spec = some (claimSpec owner settings)

/-- What the operator made for a SharedVolume that is ready: the finalizer, the volume and the claim. -/
structure Provided (settings : Settings) (world : World) (key : ObjectKey) (shared : SharedVolume) :
    Prop where
  registered : shared.hasFinalizer = true
  volume : ∃ volume, world.volumes.object? (volumeKey key) = some volume ∧ OwnVolume key volume
  claim : ∃ claim, world.claims.object? (claimKey key) = some claim ∧ OwnClaim settings key claim

/-- What holds of every world that only users and the operator have touched. -/
structure Tidy (settings : Settings) (world : World) : Prop extends WellKept settings world where
  named {key : ObjectKey} {shared : SharedVolume}
    (stored : world.sharedVolumes.object? key = some shared) : key.Named
  volume {key : ObjectKey} {volume : PersistentVolume}
    (stored : world.volumes.object? key = some volume) :
    ∃ owner, key = volumeKey owner ∧ OwnVolume owner volume
  claim {key : ObjectKey} {claim : PersistentVolumeClaim}
    (stored : world.claims.object? key = some claim) :
    ∃ owner, key = claimKey owner ∧ OwnClaim settings owner claim
  volumeSeen {owner : ObjectKey} {unit : Numbered PersistentVolume} {latest : PersistentVolume}
    (listed : world.roster.volumes.unit? owner = some unit) (seen : unit.upkeep.latest = some latest) :
    OwnVolume owner latest
  claimSeen {owner : ObjectKey} {unit : Numbered PersistentVolumeClaim} {latest : PersistentVolumeClaim}
    (listed : world.roster.claims.unit? owner = some unit) (seen : unit.upkeep.latest = some latest) :
    OwnClaim settings owner latest
  registered {owner : ObjectKey} (dependents : world.HasDependents owner) : world.Registered owner
  ready {key : ObjectKey} {shared : SharedVolume}
    (stored : world.sharedVolumes.object? key = some shared) (ready : shared.phase? = some .ready)
    (stays : shared.isDeleting = false) : world.Provided settings key shared

namespace Tidy

variable {settings : Settings} {world : World} {key : ObjectKey}

theorem initial (settings : Settings) : Tidy settings {} where
  toWellKept := .initial settings
  named stored := by simp at stored
  volume stored := by simp at stored
  claim stored := by simp at stored
  volumeSeen listed := by simp [Shelf.unit?_empty] at listed
  claimSeen listed := by simp [Shelf.unit?_empty] at listed
  registered dependents := by
    cases dependents with
    | volume stored => simp at stored
    | claim stored => simp at stored
    | volumeUnit listed => simp [Shelf.unit?_empty] at listed
    | claimUnit listed => simp [Shelf.unit?_empty] at listed
  ready stored := by simp at stored

/-! ## What a tidy world holds -/

/-- A stored SharedVolume is registered for cleanup while something is there for it. -/
theorem hasFinalizer_of_dependents (tidy : world.Tidy settings) {shared : SharedVolume}
    (stored : world.sharedVolumes.object? key = some shared) (dependents : world.HasDependents key) :
    shared.hasFinalizer = true := by
  obtain ⟨other, found, finalizer⟩ := tidy.registered dependents
  obtain rfl := Option.some.inj (stored.symm.trans found)
  exact finalizer

/-- No volume waits for its deletion, as the operator makes them without finalizers. -/
theorem not_terminating_volume (tidy : world.Tidy settings) : ¬world.volumes.Terminating key := by
  rintro ⟨volume, stored, marked⟩
  obtain ⟨owner, -, belongs⟩ := tidy.volume stored
  rw [belongs.unmarked] at marked
  cases marked

/-- No claim waits for its deletion either. -/
theorem not_terminating_claim (tidy : world.Tidy settings) : ¬world.claims.Terminating key := by
  rintro ⟨claim, stored, marked⟩
  obtain ⟨owner, -, belongs⟩ := tidy.claim stored
  rw [belongs.unmarked] at marked
  cases marked

/-! ## Changes of SharedVolumes -/

/-- A SharedVolume may be written as long as it stays registered for what it has, and is reported ready
only with all provided. -/
theorem putShared (tidy : world.Tidy settings) {shared : SharedVolume} {after : Store SharedVolume}
    (kept : { world with sharedVolumes := after }.WellKept settings)
    (puts : world.sharedVolumes.Puts after key shared) (named : key.Named)
    (registered : world.HasDependents key → shared.hasFinalizer = true)
    (ready : shared.phase? = some .ready → shared.isDeleting = false →
      world.Provided settings key shared) : { world with sharedVolumes := after }.Tidy settings where
  toWellKept := kept
  named stored := by
    rcases puts.object?_eq_some stored with ⟨rfl, -⟩ | stored
    · exact named
    · exact tidy.named stored
  volume := tidy.volume
  claim := tidy.claim
  volumeSeen := tidy.volumeSeen
  claimSeen := tidy.claimSeen
  registered := by
    intro owner dependents
    have before : world.HasDependents owner := dependents.of_eq rfl rfl rfl
    by_cases same : key = owner
    · subst same
      exact ⟨shared, puts.object?_self, registered before⟩
    · obtain ⟨other, stored, finalizer⟩ := tidy.registered before
      exact ⟨other, (puts.object?_of_ne same).trans stored, finalizer⟩
  ready stored phase stays := by
    rcases puts.object?_eq_some stored with ⟨rfl, rfl⟩ | stored
    · exact ⟨(ready phase stays).registered, (ready phase stays).volume, (ready phase stays).claim⟩
    · have provided := tidy.ready stored phase stays
      exact ⟨provided.registered, provided.volume, provided.claim⟩

theorem sameShared (tidy : world.Tidy settings) {after : Store SharedVolume}
    (kept : { world with sharedVolumes := after }.WellKept settings)
    (same : ∀ other, after.object? other = world.sharedVolumes.object? other) :
    { world with sharedVolumes := after }.Tidy settings where
  toWellKept := kept
  named stored := tidy.named ((same _).symm.trans stored)
  volume := tidy.volume
  claim := tidy.claim
  volumeSeen := tidy.volumeSeen
  claimSeen := tidy.claimSeen
  registered := by
    intro owner dependents
    obtain ⟨other, stored, finalizer⟩ := tidy.registered (dependents.of_eq rfl rfl rfl)
    exact ⟨other, (same _).trans stored, finalizer⟩
  ready stored phase stays := by
    have provided := tidy.ready ((same _).symm.trans stored) phase stays
    exact ⟨provided.registered, provided.volume, provided.claim⟩

/-- A SharedVolume may go when nothing is left that was made for it. -/
theorem dropShared (tidy : world.Tidy settings) {after : Store SharedVolume}
    (kept : { world with sharedVolumes := after }.WellKept settings)
    (drops : world.sharedVolumes.Drops after key) (free : ¬world.HasDependents key) :
    { world with sharedVolumes := after }.Tidy settings where
  toWellKept := kept
  named stored := tidy.named (drops.object?_eq_some stored).2
  volume := tidy.volume
  claim := tidy.claim
  volumeSeen := tidy.volumeSeen
  claimSeen := tidy.claimSeen
  registered := by
    intro owner dependents
    have before : world.HasDependents owner := dependents.of_eq rfl rfl rfl
    have differ : key ≠ owner := by
      rintro rfl
      exact free before
    obtain ⟨other, stored, finalizer⟩ := tidy.registered before
    exact ⟨other, (drops.object?_of_ne differ).trans stored, finalizer⟩
  ready stored phase stays := by
    have provided := tidy.ready (drops.object?_eq_some stored).2 phase stays
    exact ⟨provided.registered, provided.volume, provided.claim⟩

/-! ## Changes of volumes and claims -/

/-- A volume may appear where none was, for an owner that is registered. -/
theorem putVolume (tidy : world.Tidy settings) {owner : ObjectKey} {volume : PersistentVolume}
    {after : Store PersistentVolume} (kept : { world with volumes := after }.WellKept settings)
    (puts : world.volumes.Puts after (volumeKey owner) volume) (own : OwnVolume owner volume)
    (registered : world.Registered owner) (missing : world.volumes.object? (volumeKey owner) = none) :
    { world with volumes := after }.Tidy settings where
  toWellKept := kept
  named := tidy.named
  volume stored := by
    rcases puts.object?_eq_some stored with ⟨rfl, rfl⟩ | stored
    · exact ⟨owner, rfl, own⟩
    · exact tidy.volume stored
  claim := tidy.claim
  volumeSeen := tidy.volumeSeen
  claimSeen := tidy.claimSeen
  registered dependents := by
    cases dependents with
    | volume stored labelled =>
      rcases puts.object?_eq_some stored with ⟨-, rfl⟩ | stored
      · rwa [own.freeFor _ labelled]
      · exact tidy.registered (.volume stored labelled)
    | claim stored labelled => exact tidy.registered (.claim stored labelled)
    | volumeUnit listed => exact tidy.registered (.volumeUnit listed)
    | claimUnit listed => exact tidy.registered (.claimUnit listed)
  ready stored phase stays := by
    obtain ⟨finalizer, ⟨present, found, belongs⟩, claim⟩ := tidy.ready stored phase stays
    refine ⟨finalizer, ⟨present, (puts.object?_of_ne ?_).trans found, belongs⟩, claim⟩
    intro same
    rw [← same, missing] at found
    cases found

/-- The volume of an owner may go when its SharedVolume is not reported ready for good. -/
theorem dropVolume (tidy : world.Tidy settings) {owner : ObjectKey} {after : Store PersistentVolume}
    (kept : { world with volumes := after }.WellKept settings)
    (drops : world.volumes.Drops after (volumeKey owner))
    (free : ∀ volume, world.volumes.object? (volumeKey owner) = some volume → FreeFor owner volume)
    (leaves : world.sharedVolumes.Leaving owner) : { world with volumes := after }.Tidy settings where
  toWellKept := kept
  named := tidy.named
  volume stored := tidy.volume (drops.object?_eq_some stored).2
  claim := tidy.claim
  volumeSeen := tidy.volumeSeen
  claimSeen := tidy.claimSeen
  registered dependents := by
    cases dependents with
    | volume stored labelled =>
      exact tidy.registered (.volume (drops.object?_eq_some stored).2 labelled)
    | claim stored labelled => exact tidy.registered (.claim stored labelled)
    | volumeUnit listed => exact tidy.registered (.volumeUnit listed)
    | claimUnit listed => exact tidy.registered (.claimUnit listed)
  ready {key shared} stored phase stays := by
    obtain ⟨finalizer, ⟨present, found, belongs⟩, claim⟩ := tidy.ready stored phase stays
    refine ⟨finalizer, ⟨present, (drops.object?_of_ne ?_).trans found, belongs⟩, claim⟩
    -- keys of volumes do not tell owners apart, but the volume that goes is labelled for the owner
    intro same
    rw [← same] at found
    obtain rfl := free present found key belongs.labelled
    exact leaves.not_stays stored stays

/-- A claim may appear where none was, for an owner that is registered. -/
theorem putClaim (tidy : world.Tidy settings) {owner : ObjectKey} {claim : PersistentVolumeClaim}
    {after : Store PersistentVolumeClaim} (kept : { world with claims := after }.WellKept settings)
    (puts : world.claims.Puts after (claimKey owner) claim) (own : OwnClaim settings owner claim)
    (registered : world.Registered owner) (missing : world.claims.object? (claimKey owner) = none) :
    { world with claims := after }.Tidy settings where
  toWellKept := kept
  named := tidy.named
  volume := tidy.volume
  claim stored := by
    rcases puts.object?_eq_some stored with ⟨rfl, rfl⟩ | stored
    · exact ⟨owner, rfl, own⟩
    · exact tidy.claim stored
  volumeSeen := tidy.volumeSeen
  claimSeen := tidy.claimSeen
  registered dependents := by
    cases dependents with
    | volume stored labelled => exact tidy.registered (.volume stored labelled)
    | claim stored labelled =>
      rcases puts.object?_eq_some stored with ⟨-, rfl⟩ | stored
      · rwa [own.freeFor _ labelled]
      · exact tidy.registered (.claim stored labelled)
    | volumeUnit listed => exact tidy.registered (.volumeUnit listed)
    | claimUnit listed => exact tidy.registered (.claimUnit listed)
  ready stored phase stays := by
    obtain ⟨finalizer, volume, present, found, belongs⟩ := tidy.ready stored phase stays
    refine ⟨finalizer, volume, present, (puts.object?_of_ne ?_).trans found, belongs⟩
    intro same
    rw [← same, missing] at found
    cases found

/-- The claim of an owner may go when its SharedVolume is not reported ready for good. -/
theorem dropClaim (tidy : world.Tidy settings) {owner : ObjectKey} {after : Store PersistentVolumeClaim}
    (kept : { world with claims := after }.WellKept settings)
    (drops : world.claims.Drops after (claimKey owner)) (leaves : world.sharedVolumes.Leaving owner) :
    { world with claims := after }.Tidy settings where
  toWellKept := kept
  named := tidy.named
  volume := tidy.volume
  claim stored := tidy.claim (drops.object?_eq_some stored).2
  volumeSeen := tidy.volumeSeen
  claimSeen := tidy.claimSeen
  registered dependents := by
    cases dependents with
    | volume stored labelled => exact tidy.registered (.volume stored labelled)
    | claim stored labelled =>
      exact tidy.registered (.claim (drops.object?_eq_some stored).2 labelled)
    | volumeUnit listed => exact tidy.registered (.volumeUnit listed)
    | claimUnit listed => exact tidy.registered (.claimUnit listed)
  ready {key shared} stored phase stays := by
    obtain ⟨finalizer, volume, present, found, belongs⟩ := tidy.ready stored phase stays
    refine ⟨finalizer, volume, present, (drops.object?_of_ne ?_).trans found, belongs⟩
    intro same
    obtain rfl := claimKey_inj.mp same
    exact leaves.not_stays stored stays

/-! ## Changes of the roster -/

/-- Units may change as long as they are there for registered owners and have seen their own objects. -/
theorem putRoster (tidy : world.Tidy settings) {roster : Roster}
    (kept : { world with roster }.WellKept settings)
    (volumeUnits : ∀ owner unit, roster.volumes.unit? owner = some unit → world.Registered owner ∧
      ∀ latest, unit.upkeep.latest = some latest → OwnVolume owner latest)
    (claimUnits : ∀ owner unit, roster.claims.unit? owner = some unit → world.Registered owner ∧
      ∀ latest, unit.upkeep.latest = some latest → OwnClaim settings owner latest) :
    { world with roster }.Tidy settings where
  toWellKept := kept
  named := tidy.named
  volume := tidy.volume
  claim := tidy.claim
  volumeSeen listed seen := (volumeUnits _ _ listed).2 _ seen
  claimSeen listed seen := (claimUnits _ _ listed).2 _ seen
  registered dependents := by
    cases dependents with
    | volume stored labelled => exact tidy.registered (.volume stored labelled)
    | claim stored labelled => exact tidy.registered (.claim stored labelled)
    | volumeUnit listed => exact (volumeUnits _ _ listed).1
    | claimUnit listed => exact (claimUnits _ _ listed).1
  ready stored phase stays := by
    have provided := tidy.ready stored phase stays
    exact ⟨provided.registered, provided.volume, provided.claim⟩

theorem volumeUnit (tidy : world.Tidy settings) {owner : ObjectKey} {unit : Numbered PersistentVolume}
    (listed : world.roster.volumes.unit? owner = some unit) : world.Registered owner ∧
      ∀ latest, unit.upkeep.latest = some latest → OwnVolume owner latest :=
  ⟨tidy.registered (.volumeUnit listed), fun _ seen => tidy.volumeSeen listed seen⟩

theorem claimUnit (tidy : world.Tidy settings) {owner : ObjectKey} {unit : Numbered PersistentVolumeClaim}
    (listed : world.roster.claims.unit? owner = some unit) : world.Registered owner ∧
      ∀ latest, unit.upkeep.latest = some latest → OwnClaim settings owner latest :=
  ⟨tidy.registered (.claimUnit listed), fun _ seen => tidy.claimSeen listed seen⟩

end Tidy

end SharedMount.World
