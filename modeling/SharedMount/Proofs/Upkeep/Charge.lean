import SharedMount.Proofs.Upkeep.Outcomes

/-! # The charge of a unit

A unit is built once and afterwards only records what it has seen. `ChargedAs` says what stays true of it
meanwhile, and `Shelf.Charged` that all units of a shelf were built for the owners that they are listed
under.
-/

namespace SharedMount

variable {K : Type}

section Charge

variable [Resource K]

/-- A unit as it was built, but for what it has seen of its object since. -/
structure Upkeep.ChargedAs (unit built : Upkeep K) : Prop where
  built : { unit with latest := none } = built
  seen (latest : K) (present : unit.latest = some latest) : Resource.key latest = unit.key

namespace Upkeep.ChargedAs

variable {unit built : Upkeep K}

theorem key_eq (charged : unit.ChargedAs built) : unit.key = built.key := by
  rw [← charged.built]

theorem definition_eq (charged : unit.ChargedAs built) : unit.definition = built.definition := by
  rw [← charged.built]

theorem comparison_eq (charged : unit.ChargedAs built) : unit.comparison = built.comparison := by
  rw [← charged.built]

theorem fresh (unseen : built.latest = none) : built.ChargedAs built where
  built := by cases built; cases unseen; rfl
  seen latest present := by rw [unseen] at present; cases present

theorem record (charged : unit.ChargedAs built) {latest : Option K}
    (seen : ∀ object, latest = some object → Resource.key object = unit.key) :
    { unit with latest }.ChargedAs built :=
  ⟨charged.built, seen⟩

/-- A unit that takes over the record of another one with the same charge is that other one. -/
theorem record_eq {other : Upkeep K} (charged : unit.ChargedAs built) (charged' : other.ChargedAs built) :
    { unit with latest := other.latest } = other := by
  cases unit
  cases other
  obtain rfl := charged.built
  cases charged'.built
  rfl

/-- The object wanted is filed where the unit looks for it, if the definition is. -/
theorem key_wanted (charged : unit.ChargedAs built)
    (defined : Resource.key built.definition = built.key) : Resource.key unit.wanted = unit.key := by
  rw [Upkeep.key_wanted]
  cases present : unit.latest with
  | none => rw [Option.getD_none, charged.definition_eq, charged.key_eq, defined]
  | some latest => exact charged.seen latest present

end Upkeep.ChargedAs

end Charge

/-- Whatever the unit for the volume of an owner has seen, the volume that it wants is for that owner. -/
theorem Upkeep.ChargedAs.freeFor_wanted {unit : Upkeep PersistentVolume} {shared : SharedVolume}
    {settings : Settings} (charged : unit.ChargedAs (volumeUpkeep shared settings)) :
    FreeFor shared.key unit.wanted := by
  intro owner named
  obtain ⟨ns, name, labelled, given, titled, -, rfl⟩ := Metadata.owner?_eq_some_iff.mp named
  have ownNs : (Resource.metadata unit.definition).label? ownerNamespaceLabel =
      some (shared.key.ns.getD "") := by
    rw [charged.definition_eq]
    exact Metadata.label?_markManaged_linkOwner _ shared.key _
  have ownName : (Resource.metadata unit.definition).label? ownerNameLabel = some shared.key.name := by
    rw [charged.definition_eq]
    exact Metadata.label?_markManaged_linkOwner _ shared.key _
  rw [label?_wanted, ownNs] at labelled
  rw [label?_wanted, ownName] at titled
  obtain rfl : shared.key.ns.getD "" = ns := Option.some.inj labelled
  obtain rfl : shared.key.name = name := Option.some.inj titled
  cases present : shared.key.ns with
  | none => rw [present] at given; exact absurd rfl given
  | some ns => rw [Option.getD_some, ObjectKey.namespaced, ← present]

namespace Shelf

variable {shelf : Shelf K} {owner other : ObjectKey} {build : SharedVolume → Upkeep K}

theorem unit?_empty (owner : ObjectKey) : ({} : Shelf K).unit? owner = none := by
  simp [unit?]

theorem unit?_take_self (shelf : Shelf K) (owner : ObjectKey) (fresh : Upkeep K) :
    (shelf.take owner fresh).2.unit? owner = some (shelf.take owner fresh).1 := by
  rw [unit?_take, if_pos rfl]

/-- A unit that is listed after one was taken was listed before, or was built for the taking. -/
theorem unit?_take_eq_some {fresh : Upkeep K} {unit : Numbered K}
    (listed : (shelf.take owner fresh).2.unit? other = some unit) :
    shelf.unit? other = some unit ∨ other = owner ∧ unit.upkeep = fresh := by
  rw [unit?_take] at listed
  split at listed
  · rename_i same
    subst same
    cases present : shelf.unit? owner with
    | some unit =>
      rw [take, present] at listed
      exact .inl listed
    | none =>
      rw [take, present] at listed
      obtain rfl := Option.some.inj listed
      exact .inr ⟨rfl, rfl⟩
  · exact .inl listed

/-- A unit that is listed after a record was listed before, if with another record. -/
theorem unit?_record_eq_some {latest : Option K} {unit : Numbered K}
    (listed : (shelf.record owner latest).unit? other = some unit) :
    shelf.unit? other = some unit ∨
      ∃ former, other = owner ∧ shelf.unit? owner = some former ∧
        unit.upkeep = { former.upkeep with latest } := by
  rw [unit?_record] at listed
  split at listed
  · rename_i same
    obtain ⟨former, present, rfl⟩ := Option.map_eq_some_iff.mp listed
    exact .inr ⟨former, same.symm, present, rfl⟩
  · exact .inl listed

theorem unit?_dismiss_eq_some {unit : Numbered K} (listed : (shelf.dismiss owner).unit? other = some unit) :
    owner ≠ other ∧ shelf.unit? other = some unit := by
  rw [unit?_dismiss] at listed
  split at listed
  · cases listed
  · rename_i differ
    exact ⟨differ, listed⟩

variable [Resource K]

/-- Every unit was built for the owner that it is listed under. -/
def Charged (shelf : Shelf K) (build : SharedVolume → Upkeep K) : Prop :=
  ∀ owner unit, shelf.unit? owner = some unit →
    ∃ shared : SharedVolume, shared.key = owner ∧ unit.upkeep.ChargedAs (build shared)

theorem charged_empty (build : SharedVolume → Upkeep K) : ({} : Shelf K).Charged build := by
  intro owner unit listed
  rw [unit?_empty] at listed
  cases listed

theorem Charged.take (charged : shelf.Charged build) {shared : SharedVolume}
    (unseen : (build shared).latest = none) : (shelf.take shared.key (build shared)).2.Charged build := by
  intro owner unit listed
  rcases unit?_take_eq_some listed with former | ⟨rfl, fresh⟩
  · exact charged owner unit former
  · rw [fresh]
    exact ⟨shared, rfl, .fresh unseen⟩

theorem Charged.record (charged : shelf.Charged build) {latest : Option K}
    (seen : ∀ object shared, latest = some object → shared.key = owner →
      Resource.key object = (build shared).key) : (shelf.record owner latest).Charged build := by
  intro other unit listed
  rcases unit?_record_eq_some listed with former | ⟨former, rfl, present, same⟩
  · exact charged other unit former
  · obtain ⟨shared, own, chargedAs⟩ := charged other former present
    refine ⟨shared, own, same ▸ chargedAs.record ?_⟩
    intro object recorded
    rw [chargedAs.key_eq]
    exact seen object shared recorded own

theorem Charged.dismiss (charged : shelf.Charged build) : (shelf.dismiss owner).Charged build :=
  fun other unit listed => charged other unit (unit?_dismiss_eq_some listed).2

end Shelf

end SharedMount
