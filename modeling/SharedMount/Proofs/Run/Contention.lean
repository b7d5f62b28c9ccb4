import SharedMount.Proofs.Run.Interleaving
import SharedMount.Proofs.Upkeep.Charge

/-! # Contention for a volume

Two SharedVolumes whose volumes have the same name contend for it. While only passes are at work, deletion
marks of SharedVolumes stay as they are, so each owner either makes volumes or removes them. `Shift` says what
that comes to for the volume, and `contention` which calls of passes it rests on.
-/

namespace SharedMount

/-- Writing over objects changes no deletion mark. -/
theorem Store.isDeleting_perform {K : Type} [Resource K] [StatusKind K] {store : Store K}
    {call : StoreCall K} (noCreate : call.operation ≠ .create) (noDelete : call.operation ≠ .delete)
    {key : ObjectKey} {after : K} (stored : (store.perform call).2.object? key = some after) :
    ∃ before, store.object? key = some before ∧
      (Resource.metadata after).isDeleting = (Resource.metadata before).isDeleting := by
  cases call with
  | get target => exact ⟨after, stored, rfl⟩
  | create object => exact absurd rfl noCreate
  | delete target => exact absurd rfl noDelete
  | replace object =>
    rcases store.perform_replace object with same | ⟨present, found, ⟨-, drops⟩ | ⟨-, puts⟩⟩
    · exact ⟨after, same ▸ stored, rfl⟩
    · exact ⟨after, (drops.object?_eq_some stored).2, rfl⟩
    · rcases puts.object?_eq_some stored with ⟨rfl, rfl⟩ | former
      · refine ⟨present, found, ?_⟩
        rw [metadata_stamp, metadata_merged]
        rfl
      · exact ⟨after, former, rfl⟩
  | replaceStatus object =>
    rcases store.perform_replaceStatus object with same | ⟨present, found, puts⟩
    · exact ⟨after, same ▸ stored, rfl⟩
    · rcases puts.object?_eq_some stored with ⟨rfl, rfl⟩ | former
      · refine ⟨present, found, ?_⟩
        rw [metadata_stamp, StatusKind.metadata_takeStatus]
        rfl
      · exact ⟨after, former, rfl⟩

/-- A call that reports that a SharedVolume is ready. -/
def OperatorCall.ReportsReady : OperatorCall → Prop
  | .sharedVolumes (.replaceStatus shared) => shared.phase? = some .ready
  | _ => False

instance (call : OperatorCall) : Decidable call.ReportsReady :=
  match call with
  | .sharedVolumes (.replaceStatus shared) => inferInstanceAs (Decidable (shared.phase? = some .ready))
  | .sharedVolumes (.get _) | .sharedVolumes (.create _) | .sharedVolumes (.replace _)
  | .sharedVolumes (.delete _) | .volumes _ | .claims _ | .roster _ => inferInstanceAs (Decidable False)

section Calls

variable (settings : Settings) (leaves : ObjectKey → Bool) (key : ObjectKey)

/-- The calls of passes for a key, as far as they matter to others: volumes are made for an owner that is to
stay, and removed for one that is being deleted. -/
inductive OperatorCall.Orderly : OperatorCall → Prop where
  | sharedVolumes {call : StoreCall SharedVolume} (noCreate : call.operation ≠ .create)
      (noDelete : call.operation ≠ .delete) : Orderly (.sharedVolumes call)
  | readVolume (target : ObjectKey) : Orderly (.volumes (.get target))
  | createVolume {volume : PersistentVolume} (stays : leaves key = false)
      (belongs : BelongsTo key (volumeKey key) volume) : Orderly (.volumes (.create volume))
  | deleteVolume (leaving : leaves key = true) (target : ObjectKey) : Orderly (.volumes (.delete target))
  | claims (call : StoreCall PersistentVolumeClaim) : Orderly (.claims call)
  | takeVolume (shared : SharedVolume) : Orderly (.roster (.volume shared settings))
  | recordVolume {owner : ObjectKey} {latest : Option PersistentVolume}
      (seen : ∀ volume, latest = some volume → ∃ other, BelongsTo other (volumeKey owner) volume) :
      Orderly (.roster (.recordVolume owner latest))
  | takeClaim (shared : SharedVolume) : Orderly (.roster (.claim shared settings))
  | recordClaim (owner : ObjectKey) (latest : Option PersistentVolumeClaim) :
      Orderly (.roster (.recordClaim owner latest))
  | dismiss (owner : ObjectKey) : Orderly (.roster (.dismiss owner))

/-- What passes for an owner may have made of the volume under its key. -/
inductive Shift : Option PersistentVolume → Option PersistentVolume → Prop where
  | same (found : Option PersistentVolume) : Shift found found
  | created {volume : PersistentVolume} (stays : leaves key = false) (labelled : owner? volume = some key) :
      Shift none (some volume)
  | deleted (leaving : leaves key = true) (found : Option PersistentVolume) : Shift found none

end Calls

theorem Shift.trans {leaves : ObjectKey → Bool} {key : ObjectKey}
    {before middle after : Option PersistentVolume} (first : Shift leaves key before middle)
    (second : Shift leaves key middle after) : Shift leaves key before after := by
  cases first with
  | same => exact second
  | created stays labelled =>
    cases second with
    | same => exact .created stays labelled
    | deleted leaving => exact .deleted leaving _
  | deleted leaving =>
    cases second with
    | same => exact .deleted leaving _
    | created stays => exact absurd (stays.symm.trans leaving) (by simp)
    | deleted => exact .deleted leaving _

namespace World

/-- A world in which nobody but the operator has made volumes, and the deletion marks are as given. -/
structure Contested (settings : Settings) (leaves : ObjectKey → Bool) (world : World) : Prop where
  sharedVolumes : world.sharedVolumes.WellFiled
  marks {key : ObjectKey} {shared : SharedVolume}
    (stored : world.sharedVolumes.object? key = some shared) : shared.isDeleting = leaves key
  volume {key : ObjectKey} {volume : PersistentVolume}
    (stored : world.volumes.object? key = some volume) : ∃ owner, BelongsTo owner key volume
  units : world.roster.volumes.Charged (volumeUpkeep · settings)
  latest {owner : ObjectKey} {unit : Numbered PersistentVolume} {latest : PersistentVolume}
    (listed : world.roster.volumes.unit? owner = some unit) (seen : unit.upkeep.latest = some latest) :
    ∃ other, BelongsTo other (volumeKey owner) latest

namespace Contested

variable {settings : Settings} {leaves : ObjectKey → Bool} {key : ObjectKey} {world : World}

/-- The volume that the unit of an owner wants belongs to it, even if the unit last saw another one's. -/
theorem belongsTo_wanted (contested : world.Contested settings leaves) (named : key.Named)
    {unit : Numbered PersistentVolume} (listed : world.roster.volumes.unit? key = some unit) :
    BelongsTo key (volumeKey key) unit.upkeep.wanted := by
  obtain ⟨shared, rfl, charged⟩ := contested.units key unit listed
  refine Upkeep.belongsTo_wanted_of_defined ?_ fun latest => contested.latest listed
  rw [charged.definition_eq]
  exact belongsTo_volumeDefinition named settings

/-- No stored volume is ever written over. -/
theorem accepts (contested : world.Contested settings leaves) {unit : Upkeep PersistentVolume}
    {shared : SharedVolume} (charged : unit.ChargedAs (volumeUpkeep shared settings)) {target : ObjectKey}
    {stored : PersistentVolume} (found : world.volumes.object? target = some stored) :
    unit.accepts stored = true := by
  obtain ⟨owner, belongs⟩ := contested.volume found
  have comparison : unit.comparison = .always := charged.comparison_eq
  simp [Upkeep.accepts, comparison, Comparison.agree, belongs.managed]

private theorem createVolume (contested : world.Contested settings leaves) {volume : PersistentVolume}
    (stays : leaves key = false) (belongs : BelongsTo key (volumeKey key) volume) :
    { world with volumes := (world.volumes.perform (.create volume)).2 }.Contested settings leaves ∧
      Shift leaves key (world.volumes.object? (volumeKey key))
        ((world.volumes.perform (.create volume)).2.object? (volumeKey key)) := by
  rcases world.volumes.perform_create volume with same | ⟨missing, puts⟩
  · rw [same]
    exact ⟨contested, .same _⟩
  · rw [belongs.identity] at missing puts
    rw [missing, puts.object?_self]
    refine ⟨{ contested with volume := fun stored => ?_ }, .created stays ?_⟩
    · rcases puts.object?_eq_some stored with ⟨rfl, rfl⟩ | former
      · exact ⟨key, belongs.stamp _⟩
      · exact contested.volume former
    · rw [owner?_stamp]
      exact belongs.labelled

private theorem deleteVolume (contested : world.Contested settings leaves) (leaving : leaves key = true)
    (target : ObjectKey) :
    { world with volumes := (world.volumes.perform (.delete target)).2 }.Contested settings leaves ∧
      Shift leaves key (world.volumes.object? (volumeKey key))
        ((world.volumes.perform (.delete target)).2.object? (volumeKey key)) := by
  rcases world.volumes.perform_delete target with same | ⟨present, found, ⟨-, drops⟩ | ⟨held, -⟩⟩
  · rw [same]
    exact ⟨contested, .same _⟩
  · refine ⟨{ contested with
      volume := fun stored => contested.volume (drops.object?_eq_some stored).2 }, ?_⟩
    rw [drops.object?]
    split
    · exact .deleted leaving _
    · exact .same _
  · obtain ⟨owner, belongs⟩ := contested.volume found
    exact absurd belongs.bare held

private theorem takeVolume (contested : world.Contested settings leaves) (shared : SharedVolume) :
    { world with roster := (world.roster.volume shared settings).2 }.Contested settings leaves := by
  refine { contested with units := contested.units.take rfl, latest := fun listed seen => ?_ }
  rcases Shelf.unit?_take_eq_some listed with former | ⟨-, fresh⟩
  · exact contested.latest former seen
  · rw [fresh] at seen
    cases seen

private theorem recordVolume (contested : world.Contested settings leaves) {owner : ObjectKey}
    {latest : Option PersistentVolume}
    (seen : ∀ volume, latest = some volume → ∃ other, BelongsTo other (volumeKey owner) volume) :
    { world with roster :=
      { world.roster with volumes := world.roster.volumes.record owner latest } }.Contested settings
        leaves := by
  refine { contested with units := contested.units.record ?_, latest := fun listed recorded => ?_ }
  · rintro volume shared found rfl
    obtain ⟨other, belongs⟩ := seen volume found
    exact belongs.identity
  · rcases Shelf.unit?_record_eq_some listed with former | ⟨former, rfl, present, same⟩
    · exact contested.latest former recorded
    · rw [same] at recorded
      exact seen _ recorded

/-- Orderly calls keep the world as it has to be, and the volume shifts as it may. -/
theorem perform (contested : world.Contested settings leaves) {call : OperatorCall}
    (orderly : call.Orderly settings leaves key) :
    ((World.perform call).run world).2.Contested settings leaves ∧
      Shift leaves key (world.volumes.object? (volumeKey key))
        (((World.perform call).run world).2.volumes.object? (volumeKey key)) := by
  cases orderly with
  | @sharedVolumes call noCreate noDelete =>
    refine ⟨{ contested with
      sharedVolumes := contested.sharedVolumes.perform call, marks := fun stored => ?_ }, .same _⟩
    obtain ⟨before, found, same⟩ := Store.isDeleting_perform noCreate noDelete stored
    exact same.trans (contested.marks found)
  | readVolume => exact ⟨contested, .same _⟩
  | createVolume stays belongs => exact contested.createVolume stays belongs
  | deleteVolume leaving target => exact contested.deleteVolume leaving target
  | claims | takeClaim | recordClaim => exact ⟨{ contested with }, .same _⟩
  | takeVolume shared => exact ⟨contested.takeVolume shared, .same _⟩
  | recordVolume seen => exact ⟨contested.recordVolume seen, .same _⟩
  | dismiss owner =>
    refine ⟨{ contested with units := contested.units.dismiss, latest := fun listed => ?_ }, .same _⟩
    exact contested.latest (Shelf.unit?_dismiss_eq_some listed).2

end Contested

end World

/-! ## The discipline of passes -/

/-- A volume is stored under the volume key of one owner and labelled for another. -/
def World.Usurped (world : World) (key other : ObjectKey) : Prop :=
  ∃ volume, world.volumes.object? (volumeKey key) = some volume ∧ owner? volume = some other

/-- A pass found no volume when it looked for drift, and one when it came to establishing it. -/
def Overtaken (seen : List (Option PersistentVolume)) : Prop :=
  ∃ volume, seen = [none, some volume]

/-- Passes make orderly calls, and report that all is ready beside the volume of another owner exactly when
they were overtaken. -/
def contention (settings : Settings) (leaves : ObjectKey → Bool) : Discipline where
  holds world := world.Contested settings leaves
  does key before after := Shift leaves key (before.volumes.object? (volumeKey key))
    (after.volumes.object? (volumeKey key))
  allowed key other scene call := call.Orderly settings leaves key ∧
    (call.ReportsReady → (scene.world.Usurped key other ↔ Overtaken scene.seen))
  refl _ _ := .same _
  trans := Shift.trans
  perform _ contested may := contested.perform may.1

end SharedMount
