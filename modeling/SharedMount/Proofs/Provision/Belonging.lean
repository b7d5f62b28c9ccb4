import SharedMount.Proofs.Store.Changes
import SharedMount.Reconcile.Drift

/-! # Objects that belong to an owner

`BelongsTo` collects what is true of a volume or claim as the operator makes it: where it is filed, whose
labels it carries, and that nothing keeps it from being deleted. Definitions have it, and so has anything
that a store makes of such an object. The identities of claims tell owners apart, those of volumes do not,
so for volumes only the labels do.
-/

namespace SharedMount

/-- A key that labels can name: both of its parts are there and not empty. -/
def ObjectKey.Named (key : ObjectKey) : Prop :=
  ∃ ns name, ns ≠ "" ∧ name ≠ "" ∧ key = .namespaced ns name

theorem claimKey_inj {owner other : ObjectKey} : claimKey owner = claimKey other ↔ owner = other := by
  constructor
  · intro same
    cases owner
    cases other
    simp only [claimKey, ObjectKey.mk.injEq, String.append_right_inj] at same
    rw [same.1, same.2]
  · exact congrArg claimKey

namespace Metadata

theorem owner?_eq_some_iff {metadata : Metadata} {owner : ObjectKey} :
    metadata.owner? = some owner ↔ ∃ ns name, metadata.label? ownerNamespaceLabel = some ns ∧ ns ≠ "" ∧
      metadata.label? ownerNameLabel = some name ∧ name ≠ "" ∧ owner = .namespaced ns name := by
  simp only [owner?, Option.bind_eq_bind, Option.bind_eq_some_iff, Option.filter_eq_some_iff, ne_eq,
    decide_not, Bool.not_eq_eq_eq_not, Bool.not_true, decide_eq_false_iff_not, Option.pure_def,
    Option.some.injEq]
  constructor
  · rintro ⟨ns, ⟨labelled, given⟩, name, ⟨named, filled⟩, rfl⟩
    exact ⟨ns, name, labelled, given, named, filled, rfl⟩
  · rintro ⟨ns, name, labelled, given, named, filled, rfl⟩
    exact ⟨ns, ⟨labelled, given⟩, name, ⟨named, filled⟩, rfl⟩

/-- The labels that link to an owner and mark an object read back as that owner, or as none when labels
cannot name it. -/
theorem label?_markManaged_linkOwner (metadata : Metadata) (owner : ObjectKey) (name : String) :
    (metadata.linkOwner owner).markManaged.label? name =
      if name = managedLabel then some managedValue
      else if name = ownerNameLabel then some owner.name
      else if name = ownerNamespaceLabel then some (owner.ns.getD "")
      else metadata.label? name := by
  simp only [markManaged, linkOwner, label?_setLabel, eq_comm]

end Metadata

section Objects

variable {K : Type} [Resource K] {owner key : ObjectKey} {object : K}

theorem owner?_markManaged_linkOwner (named : owner.Named) (object : K) :
    owner? (markManaged (linkOwner object owner)) = some owner := by
  obtain ⟨ns, name, given, filled, rfl⟩ := named
  simp only [owner?, markManaged, linkOwner, Resource.metadata_mapMetadata,
    Metadata.owner?_eq_some_iff, Metadata.label?_markManaged_linkOwner]
  exact ⟨ns, name, rfl, given, rfl, filled, rfl⟩

theorem isManaged_markManaged_linkOwner (owner : ObjectKey) (object : K) :
    isManaged (markManaged (linkOwner object owner)) = true := by
  simp [isManaged, markManaged, linkOwner, Metadata.isManaged, Metadata.label?_markManaged_linkOwner]

@[simp] theorem owner?_stamp (store : Store K) (object : K) : owner? (store.stamp object) = owner? object := by
  rw [owner?, Store.metadata_stamp]
  rfl

@[simp] theorem owner?_withVersion (version : Option String) (object : K) :
    owner? (Resource.withVersion version object) = owner? object := by
  rw [owner?, Resource.withVersion, Resource.metadata_mapMetadata]
  rfl

@[simp] theorem owner?_merged [StatusKind K] (object present : K) :
    owner? (Store.merged object present) = owner? object := by
  rw [owner?, Store.metadata_merged]
  rfl

@[simp] theorem isManaged_stamp (store : Store K) (object : K) :
    isManaged (store.stamp object) = isManaged object := by
  rw [isManaged, Store.metadata_stamp]
  rfl

@[simp] theorem isManaged_withVersion (version : Option String) (object : K) :
    isManaged (Resource.withVersion version object) = isManaged object := by
  rw [isManaged, Resource.withVersion, Resource.metadata_mapMetadata]
  rfl

@[simp] theorem isManaged_merged [StatusKind K] (object present : K) :
    isManaged (Store.merged object present) = isManaged object := by
  rw [isManaged, Store.metadata_merged]
  rfl

/-- The labels of an object name no owner but this one. -/
def FreeFor (key : ObjectKey) (object : K) : Prop :=
  ∀ owner, owner? object = some owner → owner = key

/-- An object as the operator makes it for an owner, with nothing that would keep it when deleted. -/
structure BelongsTo (owner key : ObjectKey) (object : K) : Prop where
  identity : Resource.key object = key
  labelled : owner? object = some owner
  managed : isManaged object = true
  bare : (Resource.metadata object).finalizerList = []
  unmarked : (Resource.metadata object).isDeleting = false

namespace BelongsTo

theorem freeFor (belongs : BelongsTo owner key object) : FreeFor owner object := by
  intro other named
  rw [belongs.labelled] at named
  exact (Option.some.inj named).symm

/-- Belonging is a matter of the metadata without the version. -/
theorem of_metadata {K' : Type} [Resource K'] {other : K'} (version : Option String)
    (belongs : BelongsTo owner key object)
    (same : Resource.metadata other = { Resource.metadata object with resourceVersion := version }) :
    BelongsTo owner key other where
  identity := by rw [← belongs.identity, Resource.key, same]; rfl
  labelled := by rw [← belongs.labelled, owner?, same]; rfl
  managed := by rw [← belongs.managed, isManaged, same]; rfl
  bare := by rw [same]; exact belongs.bare
  unmarked := by rw [same]; exact belongs.unmarked

theorem withVersion (belongs : BelongsTo owner key object) (version : Option String) :
    BelongsTo owner key (Resource.withVersion version object) :=
  belongs.of_metadata version (Resource.metadata_mapMetadata ..)

theorem stamp (belongs : BelongsTo owner key object) (store : Store K) :
    BelongsTo owner key (store.stamp object) :=
  belongs.withVersion _

end BelongsTo

end Objects

/-- The volume of a SharedVolume that labels can name belongs to it. -/
theorem belongsTo_volumeDefinition {shared : SharedVolume} (named : shared.key.Named)
    (settings : Settings) :
    BelongsTo shared.key (volumeKey shared.key) (volumeDefinition shared settings) where
  identity := rfl
  labelled := owner?_markManaged_linkOwner named _
  managed := isManaged_markManaged_linkOwner _ _
  bare := rfl
  unmarked := rfl

/-- The claim of a SharedVolume that labels can name belongs to it. -/
theorem belongsTo_claimDefinition {shared : SharedVolume} (named : shared.key.Named)
    (settings : Settings) :
    BelongsTo shared.key (claimKey shared.key) (claimDefinition shared settings) where
  identity := rfl
  labelled := owner?_markManaged_linkOwner named _
  managed := isManaged_markManaged_linkOwner _ _
  bare := rfl
  unmarked := rfl

theorem otherOwner?_eq_none_iff {volume : PersistentVolume} {shared : SharedVolume} :
    otherOwner? volume shared = none ↔ FreeFor shared.key volume := by
  simp [otherOwner?, FreeFor, Option.filter_eq_none_iff]

end SharedMount
