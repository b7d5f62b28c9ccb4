import SharedMount.Proofs.Codec.Parts
import SharedMount.Proofs.Program.Strict
import SharedMount.Proofs.Store.Versions
import SharedMount.Proofs.Upkeep.Rest

/-! # A unit at its post

A `Post` is one unit with the store that it works on, which others write to as well: between the tasks of the
unit, and also within one, after its read. `EstablishedAmid` lists how establishing ends then. A write goes
through only if what is stored is still what was read, and so what a unit has seen of its object stays true to
the definition (`Sound`), whatever others do.
-/

namespace SharedMount

/-- Whether a program makes no call. -/
def Program.isDone {I : Interface} {α : Type} : Program I α → Bool
  | .done _ => true
  | .call .. => false

/-- The outcome of work on a store when others act after its first call and before the next one, if there is a
next one: the rest is then done on the store that they leave. -/
def StoreProgram.interrupted {K α : Type} [Resource K] (program : StoreProgram K α)
    (store later : Store K) : Except Failure α × Store K :=
  match program.run with
  | .done value => (value, store)
  | .call request next =>
      let rest := next (store.perform request).1
      StoreProgram.outcome rest (if rest.isDone then (store.perform request).2 else later)

/-- Others act on a store and always leave it in a certain state. -/
def Store.Meanwhile {K : Type} [Resource K] (during : Store K → Prop) : Store K → Store K → Prop :=
  Relation.ReflTransGen fun store after => store.Touched after ∧ during after

/-- A unit and the store that it works on. -/
structure Post (K : Type) where
  unit : Upkeep K
  store : Store K

namespace Post

variable {K : Type}

/-- What a task of the unit comes to: if it failed, the unit has seen nothing new. -/
def conclude (post : Post K) : Except Failure (Upkeep K) × Store K → Except Failure Unit × Post K
  | (.ok unit, store) => (.ok (), ⟨unit, store⟩)
  | (.error failure, store) => (.error failure, ⟨post.unit, store⟩)

theorem store_conclude (post : Post K) (ends : Except Failure (Upkeep K) × Store K) :
    (post.conclude ends).2.store = ends.2 := by
  obtain ⟨failure | unit, store⟩ := ends <;> rfl

variable [Resource K]

/-- Establish the object; others leave the store to be written to after the read. -/
def establish (post : Post K) (later : Store K) : Except Failure Unit × Post K :=
  post.conclude (post.unit.establish.interrupted post.store later)

/-- Withdraw the object; others leave the store to be written to after the read. -/
def withdraw (post : Post K) (later : Store K) : Except Failure Unit × Post K :=
  post.conclude (post.unit.withdraw.interrupted post.store later)

/-- What a unit and its store may come to from an empty store on, while the store is always left in a certain
state. -/
inductive Reachable (fresh : Upkeep K) (during : Store K → Prop) : Post K → Prop where
  | start (calm : during {}) : Reachable fresh during ⟨fresh, {}⟩
  | others {post : Post K} {later : Store K} (reachable : Reachable fresh during post)
      (meanwhile : post.store.Meanwhile during later) : Reachable fresh during ⟨post.unit, later⟩
  | establish {post : Post K} {later : Store K} (reachable : Reachable fresh during post)
      (meanwhile : post.store.Meanwhile during later) (calm : during (post.establish later).2.store) :
      Reachable fresh during (post.establish later).2
  | withdraw {post : Post K} {later : Store K} (reachable : Reachable fresh during post)
      (meanwhile : post.store.Meanwhile during later) (calm : during (post.withdraw later).2.store) :
      Reachable fresh during (post.withdraw later).2

end Post

/-! ## Work that others interrupt -/

namespace Store

variable {K : Type} [Resource K] {during : Store K → Prop} {store later : Store K}

/-- What touching a store keeps is kept meanwhile. -/
theorem Meanwhile.keeps {holds : Store K → Prop} (meanwhile : store.Meanwhile during later)
    (kept : ∀ store after, holds store → store.Touched after → holds after) (initial : holds store) :
    holds later := by
  induction meanwhile with
  | refl => exact initial
  | tail _ step ih => exact kept _ _ ih step.1

theorem Meanwhile.within (meanwhile : store.Meanwhile during later) (initial : during store) :
    during later := by
  cases meanwhile with
  | refl => exact initial
  | tail _ step => exact step.2

variable [StatusKind K]

theorem Meanwhile.ages (meanwhile : store.Meanwhile during later) : store.Ages later :=
  meanwhile.keeps (fun _ _ ages touched => ages.trans (.of_touched touched)) (.refl store)

theorem Regular.meanwhile (regular : store.Regular) (meanwhile : store.Meanwhile during later) :
    later.Regular :=
  meanwhile.keeps (fun _ _ regular touched => regular.touched touched) regular

end Store

namespace StoreProgram

variable {K α : Type} [Resource K] {program : StoreProgram K α} {store later : Store K}

/-- Work that starts with a read goes on with what was read: on the store that others leave, if it makes another
call. -/
theorem interrupted_get (key : ObjectKey) (next : Option K → StoreProgram K α) (store later : Store K) :
    (get key >>= next).interrupted store later =
      match store.get key with
      | .ok found => (next found).outcome (if (next found).run.isDone then store else later)
      | .error failure => (.error failure, store) := by
  have begun : (get key >>= next).interrupted store later =
      let rest := ExceptT.bindCont (m := Program (storeInterface K)) next (store.get key)
      StoreProgram.outcome (ExceptT.mk rest) (if rest.isDone then store else later) := rfl
  rw [begun]
  cases store.get key <;> rfl

/-- Work that starts with a read is not interrupted by others who leave the store as it was read. -/
theorem interrupted_self (key : ObjectKey) (next : Option K → StoreProgram K α) (store : Store K) :
    (get key >>= next).interrupted store store = (get key >>= next).outcome store := by
  have begun : (get key >>= next).outcome store =
      let rest := ExceptT.bindCont (m := Program (storeInterface K)) next (store.get key)
      StoreProgram.outcome (ExceptT.mk rest) store := rfl
  rw [interrupted_get, begun]
  simp only [ite_self]
  cases store.get key <;> rfl

/-- What a call keeps is kept by work on a store. -/
theorem outcome_keeps {holds : Store K → Prop}
    (kept : ∀ store (call : StoreCall K), holds store → holds (store.perform call).2)
    (program : StoreProgram K α) (initial : holds store) : holds (program.outcome store).2 :=
  (Program.meets_trivial (I := storeInterface K) program.run store).invariant
    (fun store call holding _ => kept store call holding) initial

theorem interrupted_keeps {holds : Store K → Prop}
    (kept : ∀ store (call : StoreCall K), holds store → holds (store.perform call).2)
    (program : StoreProgram K α) (initial : holds store) (meanwhile : holds later) :
    holds (program.interrupted store later).2 := by
  unfold interrupted
  split
  · exact initial
  · refine outcome_keeps kept _ ?_
    split
    · exact kept _ _ initial
    · exact meanwhile

/-- Interrupted work ends as it does whatever is answered to its calls. -/
theorem ends_interrupted {kind : StoreCall K → Prop} {ends : Except Failure α → Prop}
    (makes : Program.Makes (I := storeInterface K) kind ends program.run) (store later : Store K) :
    ends (program.interrupted store later).1 := by
  unfold interrupted
  split
  · rename_i value begun
    rw [begun] at makes
    exact makes
  · rename_i request next begun
    rw [begun] at makes
    exact (makes.2 _).ends_run _

end StoreProgram

namespace Post

variable {K : Type} [Resource K] {post : Post K} {later : Store K}

/-- What calls and others keep is kept by establishing. -/
theorem establish_keeps {holds : Store K → Prop}
    (kept : ∀ store (call : StoreCall K), holds store → holds (store.perform call).2)
    (initial : holds post.store) (meanwhile : holds later) : holds (post.establish later).2.store := by
  rw [establish, store_conclude]
  exact StoreProgram.interrupted_keeps kept _ initial meanwhile

theorem Reachable.within {fresh : Upkeep K} {during : Store K → Prop}
    (reachable : Reachable fresh during post) : during post.store := by
  induction reachable with
  | start calm => exact calm
  | others reachable meanwhile ih => exact meanwhile.within ih
  | establish reachable meanwhile calm ih => exact calm
  | withdraw reachable meanwhile calm ih => exact calm

end Post

/-! ## Objects that a unit may have seen -/

namespace Upkeep

variable {K : Type} [Resource K] {unit : Upkeep K} {object : K}

/-- A unit as it is put to its post: it has seen nothing, and its definition is filed under its key and has no
version. -/
structure Fresh (fresh : Upkeep K) : Prop where
  unseen : fresh.latest = none
  filed : Resource.key fresh.definition = fresh.key
  unversioned : Resource.version? fresh.definition = none

/-- An object is as the unit keeps it: marked if the definition is, and with the field as defined that the unit
compares. Metadata and status are not up to the unit. -/
structure Faithful (unit : Upkeep K) (object : K) : Prop where
  managed (defined : isManaged unit.definition = true) : isManaged object = true
  field {name : String} (compared : unit.comparison = .field name) (metadata : "metadata" ≠ name)
    (status : "status" ≠ name) :
    (Resource.encode object).get? name = (Resource.encode unit.definition).get? name

namespace Faithful

/-- What a unit is content with is faithful, if what it wants is. -/
theorem of_agree (faithful : unit.Faithful unit.wanted) (managed : isManaged object = true)
    (agrees : unit.comparison.agree unit.wanted object = true) : unit.Faithful object where
  managed _ := managed
  field compared metadata status := by
    rw [compared] at agrees
    rw [← faithful.field compared metadata status]
    exact (of_decide_eq_true agrees).symm

variable [StatusKind K] [DocumentKind K]

/-- What a unit wants is faithful, if what it has seen is. -/
theorem wanted (seen : ∀ latest, unit.latest = some latest → unit.Faithful latest) :
    unit.Faithful unit.wanted where
  managed := isManaged_wanted
  field compared metadata status := by
    rw [Upkeep.wanted, Resource.get?_encode_mapMetadata metadata]
    cases present : unit.latest with
    | none => rfl
    | some latest => exact (seen latest present).field compared metadata status

theorem withVersion (faithful : unit.Faithful object) (version : Option String) :
    unit.Faithful (Resource.withVersion version object) where
  managed defined := by rw [isManaged_withVersion, faithful.managed defined]
  field compared metadata status := by
    rw [Resource.withVersion, Resource.get?_encode_mapMetadata metadata,
      faithful.field compared metadata status]

theorem stamp (faithful : unit.Faithful object) (store : Store K) : unit.Faithful (store.stamp object) :=
  faithful.withVersion _

theorem merged (faithful : unit.Faithful object) (present : K) :
    unit.Faithful (Store.merged object present) where
  managed defined := by rw [isManaged_merged, faithful.managed defined]
  field compared metadata status := by
    rw [Resource.get?_encode_merged metadata status, faithful.field compared metadata status]

end Faithful

end Upkeep

/-! ## What stays true of a unit and its store -/

namespace Post

variable {K : Type} [Resource K] {post : Post K} {later : Store K}

/-- What stays true of a unit and its store, whatever the unit and others do: what the unit has seen of its
object is known by its version, and faithful to the definition. -/
structure Sound (fresh : Upkeep K) (post : Post K) : Prop where
  charged : post.unit.ChargedAs fresh
  regular : post.store.Regular
  knows {latest : K} (seen : post.unit.latest = some latest) : post.store.Knows post.unit.key latest
  faithful {latest : K} (seen : post.unit.latest = some latest) : post.unit.Faithful latest

namespace Sound

variable {fresh : Upkeep K}

/-- A unit that has seen nothing is sound at any post. -/
theorem of_fresh (new : fresh.Fresh) {store : Store K} (regular : store.Regular) :
    Sound fresh ⟨fresh, store⟩ where
  charged := .fresh new.unseen
  regular := regular
  knows seen := absurd (new.unseen.symm.trans seen) (by simp)
  faithful seen := absurd (new.unseen.symm.trans seen) (by simp)

/-- The unit stays as it is while the store goes on. -/
theorem ages (sound : Sound fresh post) {after : Store K} (regular : after.Regular)
    (ages : post.store.Ages after) : Sound fresh ⟨post.unit, after⟩ where
  charged := sound.charged
  regular := regular
  knows seen := (sound.knows seen).ages ages
  faithful := sound.faithful

theorem meanwhile [StatusKind K] (sound : Sound fresh post) {during : Store K → Prop}
    (meanwhile : post.store.Meanwhile during later) : Sound fresh ⟨post.unit, later⟩ :=
  sound.ages (sound.regular.meanwhile meanwhile) meanwhile.ages

/-- The unit records an object that it has seen. -/
theorem record (sound : Sound fresh post) {after : Store K} {seen : K} (regular : after.Regular)
    (key : Resource.key seen = post.unit.key) (knows : after.Knows post.unit.key seen)
    (faithful : post.unit.Faithful seen) : Sound fresh ⟨{ post.unit with latest := some seen }, after⟩ where
  charged := sound.charged.record fun _ same => Option.some.inj same ▸ key
  regular := regular
  knows same := Option.some.inj same ▸ knows
  faithful same := ⟨Option.some.inj same ▸ faithful.managed, Option.some.inj same ▸ faithful.field⟩

/-- A stored object with the version that the unit wants is the one that the unit has seen last. -/
theorem latest_of_sameVersion (sound : Sound fresh post) (new : fresh.Fresh) {live : K}
    (found : post.store.object? post.unit.key = some live)
    (same : sameVersion post.unit.wanted live = true) : post.unit.latest = some live := by
  have versions := version?_eq_of_sameVersion same
  rw [Upkeep.version?_wanted] at versions
  cases seen : post.unit.latest with
  | none =>
    have unversioned := new.unversioned
    obtain ⟨number, -, -, dated⟩ := sound.regular.dated found
    rw [seen, Option.getD_none, sound.charged.definition_eq, unversioned, dated] at versions
    cases versions
  | some latest =>
    rw [seen, Option.getD_some] at versions
    rw [(sound.knows seen).eq found versions]

variable [StatusKind K] [DocumentKind K]

theorem faithful_wanted (sound : Sound fresh post) : post.unit.Faithful post.unit.wanted :=
  .wanted fun _ seen => sound.faithful seen

theorem faithful_of_accepts (sound : Sound fresh post) (new : fresh.Fresh) {stored : K}
    (found : post.store.object? post.unit.key = some stored) (accepts : post.unit.accepts stored = true) :
    post.unit.Faithful stored := by
  rw [Upkeep.accepts, Bool.or_eq_true, Bool.and_eq_true] at accepts
  rcases accepts with same | ⟨managed, agrees⟩
  · exact sound.faithful (sound.latest_of_sameVersion new found same)
  · exact .of_agree sound.faithful_wanted managed agrees

end Sound

end Post

end SharedMount
