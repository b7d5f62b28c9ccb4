import Mathlib.Data.List.Induction
import SharedMount.Proofs.Provision.Belonging

/-! # Linking objects to their owners

Linking an object writes two labels and marking it a third; all else about it stays. What is read of the labels then
depends on the last link alone: in whatever order an object was linked, marked and relabelled under other names, it
is as if the other labels had been changed first and the object then linked once and marked once.
-/

namespace SharedMount

/-- The labels that the operator writes. -/
def operatorLabels : List String := [ownerNamespaceLabel, ownerNameLabel, managedLabel]

/-- A change of one label that is not the operator's: it is set to a value, or removed. -/
structure LabelEdit where
  name : String
  value : Option String
  unrelated : name ∉ operatorLabels

namespace Metadata

/-- A label is set, or removed. -/
def edit (metadata : Metadata) (edit : LabelEdit) : Metadata :=
  match edit.value with
  | some value => metadata.setLabel edit.name value
  | none => metadata.removeLabel edit.name

theorem label?_edit (metadata : Metadata) (edit : LabelEdit) (name : String) :
    (metadata.edit edit).label? name = if edit.name = name then edit.value else metadata.label? name := by
  cases given : edit.value with
  | none => simp only [Metadata.edit, given, label?_removeLabel]
  | some value => simp only [Metadata.edit, given, label?_setLabel]

theorem label?_linkOwner (metadata : Metadata) (owner : ObjectKey) (name : String) :
    (metadata.linkOwner owner).label? name =
      if ownerNameLabel = name then some owner.name
      else if ownerNamespaceLabel = name then some (owner.ns.getD "") else metadata.label? name := by
  simp only [linkOwner, label?_setLabel]

theorem label?_markManaged (metadata : Metadata) (name : String) :
    metadata.markManaged.label? name = if managedLabel = name then some managedValue else metadata.label? name := by
  rw [markManaged, label?_setLabel]

/-- Metadata with labels are the same if the same is read of all labels, and the rest is the same. -/
theorem eq_of_label? {metadata other : Metadata}
    (rest : { metadata with labels := none } = { other with labels := none })
    (labelled : metadata.labels.isSome) (otherLabelled : other.labels.isSome)
    (reads : ∀ name, metadata.label? name = other.label? name) : metadata = other := by
  obtain ⟨labels, given⟩ := Option.isSome_iff_exists.mp labelled
  obtain ⟨otherLabels, otherGiven⟩ := Option.isSome_iff_exists.mp otherLabelled
  have same : labels = otherLabels :=
    Std.ExtTreeMap.ext_getElem? fun name => by simpa [label?, labelMap, given, otherGiven] using reads name
  cases metadata
  cases other
  simp_all

/-- Linking writes over whatever an earlier link wrote. -/
theorem linkOwner_linkOwner (metadata : Metadata) (former owner : ObjectKey) :
    (metadata.linkOwner former).linkOwner owner = metadata.linkOwner owner := by
  refine eq_of_label? rfl rfl rfl fun name => ?_
  simp only [label?_linkOwner]
  split_ifs <;> rfl

theorem markManaged_markManaged (metadata : Metadata) : metadata.markManaged.markManaged = metadata.markManaged := by
  refine eq_of_label? rfl rfl rfl fun name => ?_
  simp only [label?_markManaged]
  split_ifs <;> rfl

theorem linkOwner_markManaged (metadata : Metadata) (owner : ObjectKey) :
    metadata.markManaged.linkOwner owner = (metadata.linkOwner owner).markManaged := by
  have distinct : ownerNameLabel ≠ managedLabel ∧ ownerNamespaceLabel ≠ managedLabel := by decide
  refine eq_of_label? rfl rfl rfl fun name => ?_
  simp only [label?_linkOwner, label?_markManaged]
  grind

/-- Another label is none that the operator writes, so it makes no difference which is written first. -/
theorem edit_setLabel (metadata : Metadata) (edit : LabelEdit) {name : String} (own : name ∈ operatorLabels)
    (value : String) : (metadata.setLabel name value).edit edit = (metadata.edit edit).setLabel name value := by
  have differ : edit.name ≠ name := fun same => edit.unrelated (same ▸ own)
  refine eq_of_label? ?_ ?_ rfl fun read => ?_
  · rw [Metadata.edit, Metadata.edit]
    split <;> rfl
  · rw [Metadata.edit]
    split <;> rfl
  · simp only [label?_edit, label?_setLabel]
    grind

theorem edit_linkOwner (metadata : Metadata) (owner : ObjectKey) (edit : LabelEdit) :
    (metadata.linkOwner owner).edit edit = (metadata.edit edit).linkOwner owner := by
  rw [linkOwner, edit_setLabel _ _ (by simp [operatorLabels]), edit_setLabel _ _ (by simp [operatorLabels]), linkOwner]

theorem edit_markManaged (metadata : Metadata) (edit : LabelEdit) :
    metadata.markManaged.edit edit = (metadata.edit edit).markManaged :=
  edit_setLabel _ _ (by simp [operatorLabels]) _

end Metadata

/-- A step in the life of the labels of an object. -/
inductive Labelling where
  | link (owner : ObjectKey)
  | mark
  | relabel (edit : LabelEdit)

section Objects

variable {K : Type} [Resource K]

/-- A label of an object is set, or removed. -/
def editLabel (object : K) (edit : LabelEdit) : K :=
  Resource.mapMetadata (·.edit edit) object

theorem linkOwner_linkOwner (object : K) (former owner : ObjectKey) :
    linkOwner (linkOwner object former) owner = linkOwner object owner := by
  simp only [linkOwner, Resource.mapMetadata_mapMetadata, Metadata.linkOwner_linkOwner]

theorem markManaged_markManaged (object : K) : markManaged (markManaged object) = markManaged object := by
  simp only [markManaged, Resource.mapMetadata_mapMetadata, Metadata.markManaged_markManaged]

theorem linkOwner_markManaged (object : K) (owner : ObjectKey) :
    linkOwner (markManaged object) owner = markManaged (linkOwner object owner) := by
  simp only [linkOwner, markManaged, Resource.mapMetadata_mapMetadata, Metadata.linkOwner_markManaged]

theorem editLabel_linkOwner (object : K) (owner : ObjectKey) (edit : LabelEdit) :
    editLabel (linkOwner object owner) edit = linkOwner (editLabel object edit) owner := by
  simp only [linkOwner, editLabel, Resource.mapMetadata_mapMetadata, Metadata.edit_linkOwner]

theorem editLabel_markManaged (object : K) (edit : LabelEdit) :
    editLabel (markManaged object) edit = markManaged (editLabel object edit) := by
  simp only [markManaged, editLabel, Resource.mapMetadata_mapMetadata, Metadata.edit_markManaged]

/-! ## Histories -/

namespace Labelling

/-- The step taken on an object. -/
def apply (object : K) : Labelling → K
  | link owner => linkOwner object owner
  | mark => markManaged object
  | relabel edit => editLabel object edit

/-- The owner that a step links to. -/
def owner? : Labelling → Option ObjectKey
  | link owner => some owner
  | _ => none

/-- Whether a step marks the object. -/
def isMark : Labelling → Bool
  | mark => true
  | _ => false

/-- The change of another label that a step makes. -/
def edit? : Labelling → Option LabelEdit
  | relabel edit => some edit
  | _ => none

/-- An object after a history of steps. -/
def labelled (object : K) (history : List Labelling) : K :=
  history.foldl apply object

/-- The owner that a history links to last. -/
def lastOwner? (history : List Labelling) : Option ObjectKey :=
  (history.filterMap owner?).getLast?

/-- An object after the changes of other labels in a history. -/
def edited (object : K) (history : List Labelling) : K :=
  (history.filterMap edit?).foldl editLabel object

/-- An object that is linked to an owner, if there is one, and marked or not. -/
def stamped (object : K) (owner : Option ObjectKey) (marked : Bool) : K :=
  let linked := owner.elim object (linkOwner object)
  if marked then markManaged linked else linked

theorem linkOwner_stamped (object : K) (former : Option ObjectKey) (marked : Bool) (owner : ObjectKey) :
    linkOwner (stamped object former marked) owner = stamped object (some owner) marked := by
  cases former <;> cases marked <;>
    simp [stamped, linkOwner_linkOwner, linkOwner_markManaged]

theorem markManaged_stamped (object : K) (owner : Option ObjectKey) (marked : Bool) :
    markManaged (stamped object owner marked) = stamped object owner true := by
  cases marked <;> simp [stamped, markManaged_markManaged]

theorem editLabel_stamped (object : K) (owner : Option ObjectKey) (marked : Bool) (edit : LabelEdit) :
    editLabel (stamped object owner marked) edit = stamped (editLabel object edit) owner marked := by
  cases owner <;> cases marked <;> simp [stamped, editLabel_linkOwner, editLabel_markManaged]

theorem labelled_concat (object : K) (history : List Labelling) (step : Labelling) :
    labelled object (history ++ [step]) = step.apply (labelled object history) := by
  simp [labelled]

/-- A history comes to its changes of other labels, then a link to the last owner, then a mark if there was one. -/
theorem labelled_eq_stamped (object : K) (history : List Labelling) :
    labelled object history = stamped (edited object history) (lastOwner? history) (history.any isMark) := by
  induction history using List.reverseRecOn with
  | nil => rfl
  | append_singleton history step ih =>
    rw [labelled_concat, ih]
    cases step with
    | link owner =>
      rw [apply, linkOwner_stamped]
      simp [edited, lastOwner?, List.filterMap_cons, owner?, edit?, isMark]
    | mark =>
      rw [apply, markManaged_stamped]
      simp [edited, lastOwner?, List.filterMap_cons, owner?, edit?, isMark]
    | relabel edit =>
      rw [apply, editLabel_stamped]
      simp [edited, lastOwner?, List.filterMap_cons, owner?, edit?, isMark]

end Labelling

/-! ## What is read back -/

/-- What a linked and marked object has of the object that it was made of, and of its owner. -/
structure LinkedTo (owner : ObjectKey) (object linked : K) : Prop where
  /-- Nothing but the labels is another. -/
  labels : ∃ labels, linked = Resource.mapMetadata (fun metadata => { metadata with labels := some labels }) object
  /-- The labels that are not the operator's are as they were. -/
  others {name : String} (other : name ∉ operatorLabels) :
    (Resource.metadata linked).label? name = (Resource.metadata object).label? name
  managed : isManaged linked = true
  /-- The owner is read back if labels can name it, and none is if they cannot. -/
  owned (found : ObjectKey) : owner? linked = some found ↔ found = owner ∧ owner.Named
  /-- Events lead to an owner just if one is read back. -/
  routed (found : ObjectKey) : route? linked = some found ↔ found = owner ∧ owner.Named

theorem owner?_markManaged_linkOwner_iff (object : K) (owner found : ObjectKey) :
    owner? (markManaged (linkOwner object owner)) = some found ↔ found = owner ∧ owner.Named := by
  constructor
  · intro read
    simp only [owner?, markManaged, linkOwner, Resource.metadata_mapMetadata,
      Metadata.owner?_eq_some_iff, Metadata.label?_markManaged_linkOwner] at read
    obtain ⟨ns, name, nsRead, given, nameRead, filled, rfl⟩ := read
    have nsRead : owner.ns.getD "" = ns := Option.some.inj nsRead
    have nameRead : owner.name = name := Option.some.inj nameRead
    have same : owner = .namespaced ns name := by
      obtain ⟨_ | _, _⟩ := owner
      · exact absurd nsRead.symm given
      · exact congrArg₂ ObjectKey.namespaced nsRead nameRead
    exact ⟨same.symm, ns, name, given, filled, same⟩
  · rintro ⟨rfl, named⟩
    exact owner?_markManaged_linkOwner named object

/-- A link to an owner without a namespace is not read back. -/
example : owner? (markManaged (linkOwner ({} : ConfigMap) { name := "a", ns := none })) = none := by
  decide +kernel

theorem linkedTo_markManaged_linkOwner (object : K) (owner : ObjectKey) :
    LinkedTo owner object (markManaged (linkOwner object owner)) where
  labels := by
    refine ⟨((Resource.metadata object).linkOwner owner).markManaged.labelMap, ?_⟩
    rw [markManaged, linkOwner, Resource.mapMetadata_mapMetadata]
    rfl
  others other := by
    rw [markManaged, linkOwner, Resource.metadata_mapMetadata, Resource.metadata_mapMetadata,
      Metadata.label?_markManaged_linkOwner]
    simp only [operatorLabels, List.mem_cons, List.not_mem_nil, or_false, not_or] at other
    rw [if_neg other.2.2, if_neg other.2.1, if_neg other.1]
  managed := isManaged_markManaged_linkOwner owner object
  owned := owner?_markManaged_linkOwner_iff object owner
  routed := owner?_markManaged_linkOwner_iff object owner

end Objects

/-- How links, marks and changes of other labels add up on the objects of a kind. -/
structure LinksOwners (K : Type) [Resource K] : Prop where
  reads (object : K) (owner : ObjectKey) : LinkedTo owner object (markManaged (linkOwner object owner))
  eitherOrder (object : K) (owner : ObjectKey) :
    linkOwner (markManaged object) owner = markManaged (linkOwner object owner)
  /-- A later link leaves no trace of a former one; if it is to the same owner, it changes nothing. -/
  relinks (object : K) (former owner : ObjectKey) :
    linkOwner (linkOwner object former) owner = linkOwner object owner
  remarks (object : K) : markManaged (markManaged object) = markManaged object
  linksAside (object : K) (owner : ObjectKey) (edit : LabelEdit) :
    editLabel (linkOwner object owner) edit = linkOwner (editLabel object edit) owner
  marksAside (object : K) (edit : LabelEdit) :
    editLabel (markManaged object) edit = markManaged (editLabel object edit)
  /-- After any history with a link and a mark, it is as if the last link and one mark had come at its end. -/
  settles (object : K) {history : List Labelling} {owner : ObjectKey} (last : Labelling.lastOwner? history = some owner)
    (marked : .mark ∈ history) :
    Labelling.labelled object history = markManaged (linkOwner (Labelling.edited object history) owner)

theorem linksOwners (K : Type) [Resource K] : LinksOwners K where
  reads := linkedTo_markManaged_linkOwner
  eitherOrder := linkOwner_markManaged
  relinks := linkOwner_linkOwner
  remarks := markManaged_markManaged
  linksAside := editLabel_linkOwner
  marksAside := editLabel_markManaged
  settles object history owner last marked := by
    have marked : history.any Labelling.isMark = true := List.any_eq_true.mpr ⟨.mark, marked, rfl⟩
    rw [Labelling.labelled_eq_stamped, last, marked]
    rfl

/-- Links to owners are read back on the objects of all kinds, whatever labels they had; so events about the volume
and the claim of a SharedVolume, which have the identities that follow from its own, lead back to it if both parts of
its key are there and not empty. -/
theorem owners_read_back :
    (∀ (K : Type) [Resource K], LinksOwners K) ∧
    ∀ (shared : SharedVolume) (settings : Settings),
      Resource.key (volumeDefinition shared settings) = volumeKey shared.key ∧
      Resource.key (claimDefinition shared settings) = claimKey shared.key ∧
      (shared.key.Named →
        route? (volumeDefinition shared settings) = some shared.key ∧
        route? (claimDefinition shared settings) = some shared.key) := by
  refine ⟨fun K _ => linksOwners K, fun shared settings => ⟨rfl, rfl, fun named => ⟨?_, ?_⟩⟩⟩
  · exact (belongsTo_volumeDefinition named settings).labelled
  · exact (belongsTo_claimDefinition named settings).labelled

/-- Events about the volume of `x/a` lead back to it; and so do those about an object that was first linked to `y/b`. -/
theorem owners_read_back_sample :
    route? (volumeDefinition { metadata := { name := some "a", ns := some "x" } } {}) =
        some (.namespaced "x" "a") ∧
      route? (Labelling.labelled ({} : ConfigMap)
        [.link (.namespaced "y" "b"), .mark, .link (.namespaced "x" "a")]) = some (.namespaced "x" "a") := by
  have named : (ObjectKey.namespaced "x" "a").Named := ⟨"x", "a", by decide, by decide, rfl⟩
  have ⟨links, definitions⟩ := owners_read_back
  refine ⟨((definitions { metadata := { name := some "a", ns := some "x" } } {}).2.2 named).1, ?_⟩
  rw [(links ConfigMap).settles _ rfl (by simp)]
  exact (((links ConfigMap).reads _ _).routed _).mpr ⟨rfl, named⟩

end SharedMount
