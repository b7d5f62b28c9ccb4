import SharedMount.Proofs.Store.History

/-! # Deletion waits for finalizers

Clients that come to a store through its interface take an object out in two ways only: they delete it while it
has no finalizers, or they take the last finalizer off while it is being deleted. `Served` lists all that a call
of such clients may do to the objects, `Gated` says what this means for deletion, and
`deletion_waits_for_finalizers` what it comes to in every history.
-/

namespace SharedMount

variable {K : Type} [Resource K]

/-- If an object is being deleted, it has a finalizer. -/
def Resource.HeldBack (object : K) : Prop :=
  (metadata object).isDeleting = true → (metadata object).finalizerList ≠ []

namespace Store

/-- An event that clients bring about through the interface, who create nothing that is being deleted already, or
a turn of the faults. -/
def Event.Orderly : Event K → Prop
  | .call (.create object) => (Resource.metadata object).deletionTimestamp = none
  | .call _ | .faults _ => True
  | .insert _ | .mutate .. | .remove _ => False

/-- What an event may do with the deletion of objects. -/
structure Gated (event : Event K) (before after : Store K) : Prop where
  /-- A mark of deletion was there before, or it is set by deleting the object. -/
  marks {key : ObjectKey} {object : K} {time : Timestamp} (stored : after.object? key = some object)
    (marked : (Resource.metadata object).deletionTimestamp = some time) :
    (∃ former, before.object? key = some former ∧
        (Resource.metadata former).deletionTimestamp = some time) ∨ event = .call (.delete key)
  /-- An object that is being deleted is gone or is still being deleted. -/
  lasts {key : ObjectKey} (terminating : before.Terminating key) : after.Leaving key
  /-- An object goes away by being deleted without finalizers, or by losing the last one while it is being
  deleted. -/
  leaves {key : ObjectKey} {object : K} (stored : before.object? key = some object)
    (gone : after.object? key = none) :
    event = .call (.delete key) ∧ (Resource.metadata object).finalizerList = [] ∨
      ∃ sent, event = .call (.replace sent) ∧ Resource.key sent = key ∧
        (Resource.metadata object).isDeleting = true ∧ (Resource.metadata sent).finalizerList = []
  /-- Deleting an object with finalizers changes its mark of deletion and its version, and nothing else. -/
  holds {key : ObjectKey} {object : K} (deletes : event = .call (.delete key))
    (stored : before.object? key = some object) (held : (Resource.metadata object).finalizerList ≠ []) :
    ∃ time version, after.object? key = some (Resource.mapMetadata (fun metadata =>
      { metadata with deletionTimestamp := time, resourceVersion := version }) object)

/-- Every stored object that is being deleted has a finalizer. -/
def HeldBack (store : Store K) : Prop :=
  ∀ key object, store.object? key = some object → Resource.HeldBack object

theorem heldBack_empty : HeldBack ({} : Store K) :=
  fun key _ stored => absurd ((object?_empty key).symm.trans stored) (by simp)

variable [StatusKind K] {event : Event K} {before after : Store K} {key : ObjectKey} {object : K}
  {history : List (Event K)}

/-- All that an orderly event may do to the objects of a store. -/
inductive Served (before : Store K) : Event K → Store K → Prop where
  | same {event : Event K} {after : Store K} (object? : ∀ key, after.object? key = before.object? key) :
      Served before event after
  | created {object : K} {after : Store K} (stays : (Resource.metadata object).deletionTimestamp = none)
      (missing : before.object? (Resource.key object) = none)
      (puts : before.Puts after (Resource.key object) (before.stamp object)) :
      Served before (.call (.create object)) after
  | replaced {sent present : K} {after : Store K} (found : before.object? (Resource.key sent) = some present)
      (stays : ¬Finishes sent present)
      (puts : before.Puts after (Resource.key sent) (before.stamp (merged sent present))) :
      Served before (.call (.replace sent)) after
  | finished {sent present : K} {after : Store K} (found : before.object? (Resource.key sent) = some present)
      (finishes : Finishes sent present) (drops : before.Drops after (Resource.key sent)) :
      Served before (.call (.replace sent)) after
  | removed {key : ObjectKey} {present : K} {after : Store K} (found : before.object? key = some present)
      (bare : (Resource.metadata present).finalizerList = []) (drops : before.Drops after key) :
      Served before (.call (.delete key)) after
  | marked {key : ObjectKey} {present : K} {after : Store K} (found : before.object? key = some present)
      (held : (Resource.metadata present).finalizerList ≠ [])
      (puts : before.Puts after key (before.stamp (marked present))) : Served before (.call (.delete key)) after
  | reported {sent present : K} {after : Store K} (found : before.object? (Resource.key sent) = some present)
      (puts : before.Puts after (Resource.key sent) (before.stamp (StatusCarrier.takeStatus present sent))) :
      Served before (.call (.replaceStatus sent)) after

theorem Event.Orderly.served (orderly : event.Orderly) (store : Store K) :
    store.Served event (event.apply store) := by
  cases event with
  | insert | mutate | remove => exact orderly.elim
  | faults failing => exact .same fun _ => rfl
  | call call =>
    have unchanged (same : (store.perform call).2 = store) : store.Served (.call call) (store.perform call).2 :=
      .same fun _ => by rw [same]
    cases call with
    | get key => exact unchanged rfl
    | create object =>
      rcases perform_create store object with same | ⟨missing, puts⟩
      · exact unchanged same
      · exact .created orderly missing puts
    | replace sent =>
      rcases perform_replace store sent with same | ⟨present, found, ⟨finishes, drops⟩ | ⟨stays, puts⟩⟩
      · exact unchanged same
      · exact .finished found finishes drops
      · exact .replaced found stays puts
    | delete key =>
      rcases perform_delete store key with same | ⟨present, found, ⟨bare, drops⟩ | ⟨held, puts⟩⟩
      · exact unchanged same
      · exact .removed found bare drops
      · exact .marked found held puts
    | replaceStatus sent =>
      rcases perform_replaceStatus store sent with same | ⟨present, found, puts⟩
      · exact unchanged same
      · exact .reported found puts

namespace Served

/-- What is stored after an orderly event was stored before, or it is new and to stay, or it was written over an
object: then it has the mark of deletion of that object, unless this very event has set it, and is held back if that
object was. -/
theorem stored_cases (served : before.Served event after) (stored : after.object? key = some object) :
    before.object? key = some object ∨
      before.object? key = none ∧ (Resource.metadata object).deletionTimestamp = none ∨
      ∃ former, before.object? key = some former ∧ (Resource.HeldBack former → Resource.HeldBack object) ∧
        ((Resource.metadata object).deletionTimestamp = (Resource.metadata former).deletionTimestamp ∨
          event = .call (.delete key) ∧ (Resource.metadata object).isDeleting = true) := by
  unfold Resource.HeldBack
  cases served with
  | same object? => exact .inl ((object? key).symm.trans stored)
  | created stays missing puts =>
    rcases puts.object?_eq_some stored with ⟨rfl, rfl⟩ | former
    · exact .inr (.inl ⟨missing, by rw [metadata_stamp]; exact stays⟩)
    · exact .inl former
  | replaced found stays puts =>
    rcases puts.object?_eq_some stored with ⟨rfl, rfl⟩ | former
    · rw [metadata_stamp, metadata_merged]
      exact .inr (.inr ⟨_, found, fun _ deleting bare => stays ⟨deleting, bare⟩, .inl rfl⟩)
    · exact .inl former
  | finished found finishes drops => exact .inl (drops.object?_eq_some stored).2
  | removed found bare drops => exact .inl (drops.object?_eq_some stored).2
  | marked found held puts =>
    rcases puts.object?_eq_some stored with ⟨rfl, rfl⟩ | former
    · rw [metadata_stamp, metadata_marked]
      exact .inr (.inr ⟨_, found, fun _ _ => held, .inr ⟨rfl, rfl⟩⟩)
    · exact .inl former
  | reported found puts =>
    rcases puts.object?_eq_some stored with ⟨rfl, rfl⟩ | former
    · rw [metadata_stamp, StatusKind.metadata_takeStatus]
      exact .inr (.inr ⟨_, found, id, .inl rfl⟩)
    · exact .inl former

/-- An orderly event leaves nothing under a key in two ways only. -/
theorem gone_cases (served : before.Served event after) (stored : before.object? key = some object)
    (gone : after.object? key = none) :
    event = .call (.delete key) ∧ (Resource.metadata object).finalizerList = [] ∨
      ∃ sent, event = .call (.replace sent) ∧ Resource.key sent = key ∧ Finishes sent object := by
  cases served with
  | same object? => cases stored.symm.trans ((object? key).symm.trans gone)
  | created stays missing puts => exact absurd gone (puts.not_gone stored)
  | replaced found stays puts => exact absurd gone (puts.not_gone stored)
  | marked found held puts => exact absurd gone (puts.not_gone stored)
  | reported found puts => exact absurd gone (puts.not_gone stored)
  | finished found finishes drops =>
    obtain rfl := drops.eq_of_gone stored gone
    obtain rfl := Option.some.inj (found.symm.trans stored)
    exact .inr ⟨_, rfl, rfl, finishes⟩
  | removed found bare drops =>
    obtain rfl := drops.eq_of_gone stored gone
    obtain rfl := Option.some.inj (found.symm.trans stored)
    exact .inl ⟨rfl, bare⟩

/-- Deleting an object with finalizers marks it, unless deletion fails. -/
theorem holds (served : before.Served (.call (.delete key)) after) (stored : before.object? key = some object)
    (held : (Resource.metadata object).finalizerList ≠ []) :
    ∃ time version, after.object? key = some (Resource.mapMetadata (fun metadata =>
      { metadata with deletionTimestamp := time, resourceVersion := version }) object) := by
  cases served with
  | same object? =>
    refine ⟨(Resource.metadata object).deletionTimestamp, Resource.version? object, ?_⟩
    rw [object?, stored]
    exact congrArg some (Resource.withMetadata_metadata object).symm
  | removed found bare drops =>
    obtain rfl := Option.some.inj (found.symm.trans stored)
    exact absurd bare held
  | marked found held puts =>
    obtain rfl := Option.some.inj (found.symm.trans stored)
    refine ⟨some markedTime, some (toString (before.version + 1)), puts.object?_self.trans (congrArg some ?_)⟩
    exact Resource.mapMetadata_mapMetadata ..

theorem heldBack (served : before.Served event after) (heldBack : before.HeldBack) : after.HeldBack := by
  intro key object stored
  rcases served.stored_cases stored with former | ⟨-, stays⟩ | ⟨former, found, kept, -⟩
  · exact heldBack key object former
  · exact fun deleting => absurd deleting (by simp [Metadata.isDeleting, stays])
  · exact kept (heldBack key former found)

theorem gated (served : before.Served event after) : Gated event before after where
  marks stored marked := by
    rcases served.stored_cases stored with former | ⟨-, stays⟩ | ⟨former, found, -, same | ⟨deletes, -⟩⟩
    · exact .inl ⟨_, former, marked⟩
    · cases marked.symm.trans stays
    · exact .inl ⟨former, found, same.symm.trans marked⟩
    · exact .inr deletes
  lasts terminating := by
    intro object stored
    obtain ⟨former, found, deleting⟩ := terminating
    rcases served.stored_cases stored with same | ⟨missing, -⟩ | ⟨former', found', -, same | ⟨-, marked⟩⟩
    · obtain rfl := Option.some.inj (same.symm.trans found)
      exact deleting
    · cases missing.symm.trans found
    · obtain rfl := Option.some.inj (found'.symm.trans found)
      rwa [Metadata.isDeleting, same]
    · exact marked
  leaves stored gone := served.gone_cases stored gone
  holds deletes stored held := by
    subst deletes
    exact served.holds stored held

end Served

/-! ## Histories -/

/-- What is being deleted at a moment of a history is being deleted as long as it is stored from then on. -/
theorem terminating_throughout (orderly : ∀ event ∈ history, event.Orderly) {first last : Nat}
    (order : first ≤ last) (terminating : (moment history first).Terminating key)
    (present : ∀ n, first ≤ n → n ≤ last → ((moment history n).object? key).isSome) :
    (moment history last).Terminating key := by
  induction last, order using Nat.le_induction with
  | base => exact terminating
  | succ last order ih =>
    have before := ih fun n after early => present n after (Nat.le_succ_of_le early)
    cases happens : history[last]? with
    | none => rwa [moment_succ_of_ended happens]
    | some event =>
      have served := (orderly event (List.mem_of_getElem? happens)).served (moment history last)
      obtain ⟨object, stored⟩ := Option.isSome_iff_exists.mp
        (present (last + 1) (Nat.le_succ_of_le order) (Nat.le_refl _))
      rw [moment_succ happens] at stored ⊢
      exact ⟨object, stored, served.gated.lasts before object stored⟩

/-- In a store that clients use through its interface, creating nothing that is being deleted already, every object
that is being deleted has a finalizer at all moments; once it is being deleted it is so as long as it is stored; and
every event is `Gated`. -/
theorem deletion_waits_for_finalizers (history : List (Event K)) (orderly : ∀ event ∈ history, event.Orderly) :
    (∀ n, (moment history n).HeldBack) ∧
    (∀ first last key, first ≤ last → (moment history first).Terminating key →
      (∀ n, first ≤ n → n ≤ last → ((moment history n).object? key).isSome) →
        (moment history last).Terminating key) ∧
    ∀ n event, history[n]? = some event → Gated event (moment history n) (moment history (n + 1)) := by
  refine ⟨?_, fun _ _ _ => terminating_throughout orderly, fun n event happens => ?_⟩
  · exact moment_keeps heldBack_empty fun event mem store held => ((orderly event mem).served store).heldBack held
  · rw [moment_succ happens]
    exact ((orderly event (List.mem_of_getElem? happens)).served _).gated

/-- A claim of a name with a finalizer. -/
def heldClaim (version : Option String) (finalizers : List String) : PersistentVolumeClaim :=
  { metadata :=
    { name := some "a", ns := some "x", resourceVersion := version, finalizers := some finalizers } }

/-- A claim with a finalizer is made and deleted. Once replacing works again, its finalizer is taken off. -/
def releasedHistory : List (Event PersistentVolumeClaim) :=
  [.call (.create (heldClaim none ["f"])), .faults (· = .replace), .call (.delete (.namespaced "x" "a")),
    .call (.replace (heldClaim (some "2") [])), .faults fun _ => false,
    .call (.replace (heldClaim (some "2") []))]

/-- The claim stays after its deletion and goes away with its finalizer. -/
theorem deletion_waits_for_finalizers_sample :
    ∃ object, (moment releasedHistory 5).object? (.namespaced "x" "a") = some object ∧
      (Resource.metadata object).isDeleting = true ∧ (Resource.metadata object).finalizerList ≠ [] ∧
      (moment releasedHistory 6).object? (.namespaced "x" "a") = none ∧
      ∃ sent, releasedHistory[5]? = some (.call (.replace sent)) ∧
        (Resource.metadata sent).finalizerList = [] := by
  have orderly : ∀ event ∈ releasedHistory, event.Orderly := by
    simp [releasedHistory, Event.Orderly, heldClaim, Resource.metadata]
  have facts : ((moment releasedHistory 3).object? (.namespaced "x" "a")).any
        (fun object => (Resource.metadata object).isDeleting) ∧
      (∀ n < 6, 3 ≤ n → ((moment releasedHistory n).object? (.namespaced "x" "a")).isSome) ∧
      ((moment releasedHistory 6).object? (.namespaced "x" "a")).isNone := by
    decide +kernel
  obtain ⟨marked, present, gone⟩ := facts
  obtain ⟨first, found, deleting⟩ := (Option.any_eq_true ..).mp marked
  obtain ⟨held, lasts, gated⟩ := deletion_waits_for_finalizers releasedHistory orderly
  obtain ⟨object, stored, terminating⟩ := lasts 3 5 (.namespaced "x" "a") (by decide) ⟨first, found, deleting⟩
    fun n after before => present n (by omega) after
  have missing := Option.isNone_iff_eq_none.mp gone
  refine ⟨object, stored, terminating, held 5 _ object stored terminating, missing, ?_⟩
  rcases (gated 5 _ rfl).leaves stored missing with ⟨deletes, -⟩ | ⟨sent, replaces, -, -, bare⟩
  · cases deletes
  · exact ⟨sent, congrArg some replaces, bare⟩

end Store

end SharedMount
