import Mathlib.Data.List.Induction
import Mathlib.Data.Finset.Card
import SharedMount.Proofs.Run.Footprint
import SharedMount.Proofs.Upkeep.Rest

/-! # Units stay from their first use until they are dismissed

A history lists the calls to a roster that starts without units. Whatever it was asked in between, a roster answers two
requests for the volume of one owner with the same unit, which is the one built for the first of them, unless the owner
was dismissed in between; then, and for other owners, the unit is another. So it is with claims. Serial numbers tell
units apart, since each shelf counts the units that it has built and never starts again.
-/

namespace SharedMount

/-! ## Steps of one shelf -/

/-- One unit seen at two times: only what it has last seen of its object may differ. -/
structure Numbered.Same {K : Type} (unit later : Numbered K) : Prop where
  serial : later.serial = unit.serial
  upkeep : later.upkeep = { unit.upkeep with latest := later.upkeep.latest }

namespace Numbered.Same

variable {K : Type} {unit later last : Numbered K}

theorem refl (unit : Numbered K) : unit.Same unit := ⟨rfl, rfl⟩

theorem trans (first : unit.Same later) (second : later.Same last) : unit.Same last where
  serial := second.serial.trans first.serial
  upkeep := by rw [second.upkeep, first.upkeep]

end Numbered.Same

namespace Shelf

variable {K : Type} {shelf after : Shelf K} {owner : ObjectKey} {unit : Numbered K}
  {asks : SharedVolume → Settings → RosterCall} {make : SharedVolume → Settings → Upkeep K} {call : RosterCall}

theorem take_of_none (missing : shelf.unit? owner = none) (fresh : Upkeep K) :
    (shelf.take owner fresh).1 = ⟨shelf.built, fresh⟩ ∧ (shelf.take owner fresh).2.built = shelf.built + 1 := by
  rw [take, missing]
  exact ⟨rfl, rfl⟩

/-- What a call to the roster may do to a shelf: the shelf is asked for a unit, a unit records something, an owner is
dismissed, or nothing happens. -/
inductive Step (asks : SharedVolume → Settings → RosterCall) (make : SharedVolume → Settings → Upkeep K)
    (shelf : Shelf K) : RosterCall → Shelf K → Prop where
  | take {shared : SharedVolume} {settings : Settings} (keeps : ∀ owner, asks shared settings ≠ .dismiss owner) :
      Step asks make shelf (asks shared settings) (shelf.take shared.key (make shared settings)).2
  | record {call : RosterCall} (keeps : ∀ owner, call ≠ .dismiss owner) (owner : ObjectKey) (latest : Option K) :
      Step asks make shelf call (shelf.record owner latest)
  | dismiss (owner : ObjectKey) : Step asks make shelf (.dismiss owner) (shelf.dismiss owner)
  | aside {call : RosterCall} (keeps : ∀ owner, call ≠ .dismiss owner) : Step asks make shelf call shelf

theorem built_record (shelf : Shelf K) (owner : ObjectKey) (latest : Option K) :
    (shelf.record owner latest).built = shelf.built := by
  rw [record]
  split <;> rfl

theorem built_le_take (shelf : Shelf K) (owner : ObjectKey) (fresh : Upkeep K) :
    shelf.built ≤ (shelf.take owner fresh).2.built := by
  cases listed : shelf.unit? owner with
  | some unit => rw [take_of_some listed]
  | none =>
    rw [(take_of_none listed fresh).2]
    exact Nat.le_succ _

theorem Step.built_le (step : Step asks make shelf call after) : shelf.built ≤ after.built := by
  cases step with
  | take => exact built_le_take ..
  | record => exact (built_record ..).ge
  | dismiss | aside => exact Nat.le_refl _

/-- A unit stays while its owner is not dismissed. -/
theorem Step.kept (step : Step asks make shelf call after) (listed : shelf.unit? owner = some unit)
    (stays : call ≠ .dismiss owner) : ∃ later, after.unit? owner = some later ∧ unit.Same later := by
  cases step with
  | @take shared settings =>
    refine ⟨unit, ?_, .refl unit⟩
    rw [unit?_take, listed]
    split
    next same => rw [take_of_some (same ▸ listed)]
    next => rfl
  | record _ other latest =>
    rw [unit?_record]
    split
    next same =>
      rw [same, listed]
      exact ⟨_, rfl, rfl, rfl⟩
    next => exact ⟨unit, listed, .refl unit⟩
  | dismiss other =>
    refine ⟨unit, ?_, .refl unit⟩
    rw [unit?_dismiss_of_ne shelf fun same => stays (congrArg _ same), listed]
  | aside => exact ⟨unit, listed, .refl unit⟩

/-- A listed unit was listed before, or it was built at the request of its owner, who had none. -/
theorem Step.former (step : Step asks make shelf call after) (listed : after.unit? owner = some unit) :
    (call ≠ .dismiss owner ∧ ∃ former, shelf.unit? owner = some former ∧ former.Same unit) ∨
      ∃ shared settings, call = asks shared settings ∧ shared.key = owner ∧ shelf.unit? owner = none ∧
        unit = ⟨shelf.built, make shared settings⟩ ∧ after = (shelf.take owner (make shared settings)).2 := by
  cases step with
  | @take shared settings keeps =>
    rw [unit?_take] at listed
    split at listed
    next same =>
      subst same
      obtain rfl := Option.some.inj listed
      cases present : shelf.unit? shared.key with
      | some former =>
        rw [take_of_some present]
        exact .inl ⟨keeps _, former, rfl, .refl former⟩
      | none => exact .inr ⟨shared, settings, rfl, rfl, rfl, (take_of_none present _).1, rfl⟩
    next => exact .inl ⟨keeps _, unit, listed, .refl unit⟩
  | record keeps other latest =>
    refine .inl ⟨keeps owner, ?_⟩
    rw [unit?_record] at listed
    split at listed
    next same =>
      obtain ⟨former, present, rfl⟩ := Option.map_eq_some_iff.mp listed
      exact ⟨former, same ▸ present, rfl, rfl⟩
    next => exact ⟨unit, listed, .refl unit⟩
  | dismiss other =>
    rw [unit?_dismiss] at listed
    split at listed
    next => cases listed
    next differs => exact .inl ⟨fun same => differs (RosterCall.dismiss.inj same), unit, listed, .refl unit⟩
  | aside keeps => exact .inl ⟨keeps owner, unit, listed, .refl unit⟩

/-- Serial numbers were given out, each to one owner. -/
structure WellNumbered (shelf : Shelf K) : Prop where
  below {owner : ObjectKey} {unit : Numbered K} (listed : shelf.unit? owner = some unit) : unit.serial < shelf.built
  apart {owner other : ObjectKey} {unit otherUnit : Numbered K} (listed : shelf.unit? owner = some unit)
    (otherListed : shelf.unit? other = some otherUnit) (same : otherUnit.serial = unit.serial) : other = owner

theorem WellNumbered.blank : WellNumbered ({} : Shelf K) where
  below listed := by simp [unit?] at listed
  apart listed := by simp [unit?] at listed

theorem Step.wellNumbered (step : Step asks make shelf call after) (numbered : shelf.WellNumbered) :
    after.WellNumbered where
  below {owner unit} listed := by
    rcases step.former listed with ⟨-, former, present, was⟩ | ⟨shared, settings, -, -, missing, rfl, rfl⟩
    · rw [was.serial]
      exact (numbered.below present).trans_le step.built_le
    · rw [(take_of_none missing _).2]
      exact Nat.lt_succ_self _
  apart {owner other unit otherUnit} listed otherListed same := by
    rcases step.former listed with ⟨-, former, present, was⟩ | ⟨shared, settings, -, -, missing, rfl, rfl⟩
    · rcases step.former otherListed with ⟨-, otherFormer, otherPresent, otherWas⟩ | ⟨_, _, -, -, -, rfl, -⟩
      · exact numbered.apart present otherPresent (by rw [← was.serial, ← otherWas.serial, same])
      · -- the new number was not given out before
        exact absurd (same.trans was.serial).symm (numbered.below present).ne
    · by_contra differs
      rw [unit?_take_of_ne _ _ (Ne.symm differs)] at otherListed
      exact (numbered.below otherListed).ne same

end Shelf

/-! ## Histories -/

/-- A roster after a history of calls. -/
def Roster.after (roster : Roster) (history : List RosterCall) : Roster :=
  history.foldl (fun roster call => (roster.perform call).2) roster

theorem Roster.after_append (roster : Roster) (history later : List RosterCall) :
    roster.after (history ++ later) = (roster.after history).after later :=
  List.foldl_append ..

theorem Roster.after_concat (roster : Roster) (history : List RosterCall) (call : RosterCall) :
    roster.after (history ++ [call]) = ((roster.after history).perform call).2 :=
  roster.after_append history [call]

/-- What an owner was asked for is still due to it: there was a request for its unit, and it was not dismissed since. -/
def RosterCall.Served (asks : SharedVolume → Settings → RosterCall) (owner : ObjectKey) (history : List RosterCall) :
    Prop :=
  ∃ before shared settings between, history = before ++ asks shared settings :: between ∧ shared.key = owner ∧
    .dismiss owner ∉ between

/-- One of the shelves of a roster, and how it is asked for units. -/
structure Roster.Side (K : Type) where
  shelf : Roster → Shelf K
  asks : SharedVolume → Settings → RosterCall
  make : SharedVolume → Settings → Upkeep K
  steps (roster : Roster) (call : RosterCall) :
    Shelf.Step asks make (shelf roster) call (shelf (roster.perform call).2)
  takes (roster : Roster) (shared : SharedVolume) (settings : Settings) :
    shelf (roster.perform (asks shared settings)).2 = ((shelf roster).take shared.key (make shared settings)).2
  blank : shelf {} = {}

namespace Roster

/-- The shelf of the units for volumes. -/
def volumeSide : Side PersistentVolume where
  shelf := volumes
  asks := .volume
  make := volumeUpkeep
  steps roster call := by
    cases call with
    | volume shared settings => exact .take fun _ => RosterCall.noConfusion
    | recordVolume owner latest => exact .record (fun _ => RosterCall.noConfusion) owner latest
    | dismiss owner => exact .dismiss owner
    | claim | recordClaim => exact .aside fun _ => RosterCall.noConfusion
  takes _ _ _ := rfl
  blank := rfl

/-- The shelf of the units for claims. -/
def claimSide : Side PersistentVolumeClaim where
  shelf := claims
  asks := .claim
  make := claimUpkeep
  steps roster call := by
    cases call with
    | claim shared settings => exact .take fun _ => RosterCall.noConfusion
    | recordClaim owner latest => exact .record (fun _ => RosterCall.noConfusion) owner latest
    | dismiss owner => exact .dismiss owner
    | volume | recordVolume => exact .aside fun _ => RosterCall.noConfusion
  takes _ _ _ := rfl
  blank := rfl

namespace Side

variable {K : Type} (side : Side K) {roster : Roster} {history : List RosterCall} {owner : ObjectKey}
  {shared : SharedVolume} {unit : Numbered K}

theorem wellNumbered_after (numbered : (side.shelf roster).WellNumbered) (history : List RosterCall) :
    (side.shelf (roster.after history)).WellNumbered := by
  induction history using List.reverseRecOn with
  | nil => exact numbered
  | append_singleton history call ih =>
    rw [after_concat]
    exact (side.steps _ call).wellNumbered ih

theorem built_le_after (roster : Roster) (history : List RosterCall) :
    (side.shelf roster).built ≤ (side.shelf (roster.after history)).built := by
  induction history using List.reverseRecOn with
  | nil => exact Nat.le_refl _
  | append_singleton history call ih =>
    rw [after_concat]
    exact ih.trans (side.steps _ call).built_le

/-- A unit stays through a history in which its owner is not dismissed. -/
theorem kept_after (listed : (side.shelf roster).unit? owner = some unit) (stays : .dismiss owner ∉ history) :
    ∃ later, (side.shelf (roster.after history)).unit? owner = some later ∧ unit.Same later := by
  induction history using List.reverseRecOn with
  | nil => exact ⟨unit, listed, .refl unit⟩
  | append_singleton history call ih =>
    simp only [List.mem_append, List.mem_singleton, not_or] at stays
    obtain ⟨later, listed, same⟩ := ih stays.1
    rw [after_concat]
    obtain ⟨last, listed, stayed⟩ := (side.steps _ call).kept listed (Ne.symm stays.2)
    exact ⟨last, listed, same.trans stayed⟩

/-- A unit with an old number was there from the start, and its owner was never dismissed. -/
theorem listed_before (listed : (side.shelf (roster.after history)).unit? owner = some unit)
    (old : unit.serial < (side.shelf roster).built) :
    .dismiss owner ∉ history ∧ ∃ former, (side.shelf roster).unit? owner = some former ∧ former.Same unit := by
  induction history using List.reverseRecOn generalizing unit with
  | nil => exact ⟨List.not_mem_nil, unit, listed, .refl unit⟩
  | append_singleton history call ih =>
    rw [after_concat] at listed
    rcases (side.steps _ call).former listed with ⟨stays, former, present, same⟩ | ⟨_, _, -, -, -, rfl, -⟩
    · obtain ⟨kept, first, held, was⟩ := ih present (same.serial ▸ old)
      refine ⟨?_, first, held, was.trans same⟩
      simp only [List.mem_append, List.mem_singleton, not_or]
      exact ⟨kept, Ne.symm stays⟩
    · -- a unit that was built on the way has a number that was not given out at the start
      exact absurd old (Nat.not_lt.mpr (side.built_le_after roster history))

/-- A listed unit goes back to a request of its owner, who had no unit then and was not dismissed since. -/
theorem origin (listed : (side.shelf (Roster.after {} history)).unit? owner = some unit) :
    ∃ before shared settings between, history = before ++ side.asks shared settings :: between ∧
      shared.key = owner ∧ .dismiss owner ∉ between ∧ (side.shelf (Roster.after {} before)).unit? owner = none ∧
      Numbered.Same ⟨(side.shelf (Roster.after {} before)).built, side.make shared settings⟩ unit := by
  induction history using List.reverseRecOn generalizing unit with
  | nil =>
    change (side.shelf {}).unit? owner = some unit at listed
    rw [side.blank] at listed
    simp [Shelf.unit?] at listed
  | append_singleton history call ih =>
    rw [after_concat] at listed
    rcases (side.steps _ call).former listed with
      ⟨stays, former, present, same⟩ | ⟨shared, settings, rfl, own, missing, rfl, -⟩
    · obtain ⟨before, shared, settings, between, rfl, own, kept, missing, was⟩ := ih present
      refine ⟨before, shared, settings, between ++ [call], by simp, own, ?_, missing, was.trans same⟩
      simp only [List.mem_append, List.mem_singleton, not_or]
      exact ⟨kept, Ne.symm stays⟩
    · exact ⟨history, shared, settings, [], rfl, own, List.not_mem_nil, missing, .refl _⟩

/-- The unit that a request is answered with after a history. -/
def answer (history : List RosterCall) (shared : SharedVolume) (settings : Settings) : Numbered K :=
  ((side.shelf (Roster.after {} history)).take shared.key (side.make shared settings)).1

theorem answer_of_listed (listed : (side.shelf (Roster.after {} history)).unit? shared.key = some unit)
    (settings : Settings) : side.answer history shared settings = unit := by
  rw [answer, Shelf.take_of_some listed]

theorem answer_of_missing (missing : (side.shelf (Roster.after {} history)).unit? shared.key = none)
    (settings : Settings) : side.answer history shared settings =
      ⟨(side.shelf (Roster.after {} history)).built, side.make shared settings⟩ :=
  (Shelf.take_of_none missing _).1

/-- The unit that a request is answered with is listed while its owner is not dismissed. -/
theorem listed_after_answer (before : List RosterCall) (shared : SharedVolume) (settings : Settings)
    {between : List RosterCall} (stays : .dismiss shared.key ∉ between) :
    ∃ later, (side.shelf (Roster.after {} (before ++ side.asks shared settings :: between))).unit? shared.key =
      some later ∧ (side.answer before shared settings).Same later := by
  rw [← List.singleton_append, ← List.append_assoc, after_append, after_concat]
  refine side.kept_after ?_ stays
  rw [side.takes, Shelf.unit?_take, if_pos rfl]
  rfl

theorem served_iff : RosterCall.Served side.asks owner history ↔
    ((side.shelf (Roster.after {} history)).unit? owner).isSome := by
  constructor
  · rintro ⟨before, shared, settings, between, rfl, rfl, stays⟩
    obtain ⟨later, listed, -⟩ := side.listed_after_answer before shared settings stays
    exact Option.isSome_of_mem listed
  · intro present
    obtain ⟨unit, listed⟩ := Option.isSome_iff_exists.mp present
    obtain ⟨before, shared, settings, between, split, own, stays, -⟩ := side.origin listed
    exact ⟨before, shared, settings, between, split, own, stays⟩

/-- Until an owner is dismissed, requests for its unit are answered with the same one. -/
theorem answer_same (before : List RosterCall) {later : SharedVolume} (settings laterSettings : Settings)
    {between : List RosterCall} (own : later.key = shared.key) (stays : .dismiss shared.key ∉ between) :
    (side.answer before shared settings).Same
      (side.answer (before ++ side.asks shared settings :: between) later laterSettings) := by
  obtain ⟨unit, listed, same⟩ := side.listed_after_answer before shared settings stays
  rw [← own] at listed
  rw [side.answer_of_listed listed]
  exact same

/-- Requests are answered with the same unit just if they are for one owner who was not dismissed between them. -/
theorem serial_answer_iff (before : List RosterCall) (shared : SharedVolume) (settings : Settings)
    (between : List RosterCall) (later : SharedVolume) (laterSettings : Settings) :
    (side.answer (before ++ side.asks shared settings :: between) later laterSettings).serial =
        (side.answer before shared settings).serial ↔
      later.key = shared.key ∧ .dismiss shared.key ∉ between := by
  refine ⟨fun same => ?_, fun ⟨own, stays⟩ => (side.answer_same before settings laterSettings own stays).serial⟩
  -- the shelf right after the first request has the unit listed, and all numbers of later units lie ahead
  let roster := Roster.after {} (before ++ [side.asks shared settings])
  have numbered : (side.shelf roster).WellNumbered := by
    refine side.wellNumbered_after ?_ _
    rw [side.blank]
    exact .blank
  have first : (side.shelf roster).unit? shared.key = some (side.answer before shared settings) := by
    simp only [roster]
    rw [after_concat, side.takes, Shelf.unit?_take, if_pos rfl]
    rfl
  have history : Roster.after {} (before ++ side.asks shared settings :: between) = roster.after between := by
    rw [← List.singleton_append, ← List.append_assoc, after_append]
  cases listed : (side.shelf (roster.after between)).unit? later.key with
  | none =>
    rw [side.answer_of_missing (history ▸ listed), history] at same
    exact absurd same ((numbered.below first).trans_le (side.built_le_after roster between)).ne'
  | some unit =>
    rw [side.answer_of_listed (history ▸ listed)] at same
    obtain ⟨stays, former, present, was⟩ := side.listed_before listed (same ▸ numbered.below first)
    have own := numbered.apart first present (was.serial.symm.trans same)
    exact ⟨own, own ▸ stays⟩

end Side

/-! ## Owners with units -/

section Owners

variable {roster : Roster} {owner : ObjectKey}

theorem mem_owners_iff :
    owner ∈ roster.owners ↔ (roster.volumes.unit? owner).isSome ∨ (roster.claims.unit? owner).isSome := by
  simp only [owners, List.mem_append, List.mem_filter, Std.ExtTreeMap.mem_keys, ← Std.ExtTreeMap.contains_iff_mem,
    Std.ExtTreeMap.contains_eq_isSome_getElem?, Shelf.unit?]
  cases roster.volumes.units[owner]?.isSome <;> simp

/-- Each owner is listed once. -/
theorem nodup_owners (roster : Roster) : roster.owners.Nodup := by
  refine List.Nodup.append Std.ExtTreeMap.nodup_keys (Std.ExtTreeMap.nodup_keys.filter _) fun owner first second => ?_
  have absent := (List.mem_filter.mp second).2
  have present := Std.ExtTreeMap.contains_iff_mem.mpr (Std.ExtTreeMap.mem_keys.mp first)
  rw [present] at absent
  cases absent

theorem isEmpty_iff : roster.isEmpty = true ↔ roster.size = 0 := by
  rw [size, List.length_eq_zero_iff, isEmpty, Bool.and_eq_true, ← Std.ExtTreeMap.isEmpty_keys,
    ← Std.ExtTreeMap.isEmpty_keys, List.isEmpty_iff, List.isEmpty_iff]
  constructor
  · rintro ⟨volumes, claims⟩
    rw [owners, volumes, claims]
    rfl
  · intro none
    have nobody (owner : ObjectKey) : owner ∉ roster.owners := none ▸ List.not_mem_nil
    simp only [mem_owners_iff, Shelf.unit?, ← Std.ExtTreeMap.mem_iff_isSome_getElem?, not_or] at nobody
    exact ⟨List.eq_nil_iff_forall_not_mem.mpr fun owner listed => (nobody owner).1 (Std.ExtTreeMap.mem_keys.mp listed),
      List.eq_nil_iff_forall_not_mem.mpr fun owner listed => (nobody owner).2 (Std.ExtTreeMap.mem_keys.mp listed)⟩

/-- Calls about other owners leave the units of an owner alone. -/
theorem unit?_after_of_ne (roster : Roster) {history : List RosterCall}
    (others : ∀ call ∈ history, call.owner ≠ owner) :
    (roster.after history).volumes.unit? owner = roster.volumes.unit? owner ∧
      (roster.after history).claims.unit? owner = roster.claims.unit? owner := by
  induction history using List.reverseRecOn with
  | nil => exact ⟨rfl, rfl⟩
  | append_singleton history call ih =>
    obtain ⟨volumes, claims⟩ := ih fun call listed => others call (List.mem_append_left _ listed)
    have differ := others call (List.mem_append_right _ (List.mem_singleton_self call))
    have concerns : (OperatorCall.roster call).Concerns call.owner := rfl
    have apart := World.SameApartFrom.perform { (default : World) with roster := roster.after history } concerns
    rw [after_concat, ← volumes, ← claims]
    exact ⟨apart.volumeUnits differ.symm, apart.claimUnits differ.symm⟩

end Owners

/-! ## First use -/

/-- How the units of one kind are handed out over the history of a roster. -/
structure FirstUse {K : Type} (asks : SharedVolume → Settings → RosterCall)
    (answer : List RosterCall → SharedVolume → Settings → Numbered K) (place : ObjectKey → ObjectKey)
    (define : SharedVolume → Settings → K) : Prop where
  /-- Two requests get the same unit just if they are for one owner who was not dismissed between them. -/
  identity (before : List RosterCall) (shared : SharedVolume) (settings : Settings) (between : List RosterCall)
    (later : SharedVolume) (laterSettings : Settings) :
    (answer (before ++ asks shared settings :: between) later laterSettings).serial =
        (answer before shared settings).serial ↔
      later.key = shared.key ∧ .dismiss shared.key ∉ between
  /-- The same unit is the same in all but what it has last seen. -/
  constant {before between : List RosterCall} {shared later : SharedVolume} (settings laterSettings : Settings)
    (own : later.key = shared.key) (stays : .dismiss shared.key ∉ between) :
    (answer before shared settings).Same (answer (before ++ asks shared settings :: between) later laterSettings)
  /-- An owner who was never served, or not since it was dismissed, gets a unit that nobody was given before. -/
  fresh {history before between : List RosterCall} {shared former : SharedVolume} {formerSettings : Settings}
    (unserved : ¬RosterCall.Served asks shared.key history)
    (earlier : history = before ++ asks former formerSettings :: between) (settings : Settings) :
    (answer history shared settings).serial ≠ (answer before former formerSettings).serial
  /-- Every unit was built at a request by which an unserved owner got it, and has the key of this owner and the
  definition by this request. -/
  built (history : List RosterCall) (shared : SharedVolume) (settings : Settings) :
    ∃ before first firstSettings between,
      history ++ [asks shared settings] = before ++ asks first firstSettings :: between ∧
      first.key = shared.key ∧ ¬RosterCall.Served asks shared.key before ∧
      (answer before first firstSettings).Same (answer history shared settings) ∧
      (answer history shared settings).upkeep.key = place shared.key ∧
      (answer history shared settings).upkeep.definition = define first firstSettings

theorem Side.firstUse {K : Type} (side : Side K) {place : ObjectKey → ObjectKey} {define : SharedVolume → Settings → K}
    (placed : ∀ shared settings, (side.make shared settings).key = place shared.key)
    (defined : ∀ shared settings, (side.make shared settings).definition = define shared settings) :
    FirstUse side.asks side.answer place define where
  identity := side.serial_answer_iff
  constant settings laterSettings own stays := side.answer_same _ settings laterSettings own stays
  fresh := by
    rintro history before between shared former formerSettings unserved rfl settings same
    obtain ⟨own, stays⟩ := (side.serial_answer_iff ..).mp same
    rw [own] at unserved
    exact unserved ⟨before, former, formerSettings, between, rfl, rfl, stays⟩
  built := by
    intro history shared settings
    cases listed : (side.shelf (Roster.after {} history)).unit? shared.key with
    | none =>
      have answered := side.answer_of_missing listed settings
      refine ⟨history, shared, settings, [], rfl, rfl, ?_, .refl _, ?_, ?_⟩
      · rw [side.served_iff, listed]
        exact Bool.false_ne_true
      · rw [answered, placed]
      · rw [answered, defined]
    | some unit =>
      obtain ⟨before, first, firstSettings, between, rfl, own, -, missing, same⟩ := side.origin listed
      have answered := side.answer_of_missing (own ▸ missing) firstSettings
      refine ⟨before, first, firstSettings, between ++ [side.asks shared settings], by simp, own, ?_, ?_, ?_, ?_⟩
      · rw [side.served_iff, missing]
        exact Bool.false_ne_true
      · rw [answered, side.answer_of_listed listed]
        exact same
      · rw [side.answer_of_listed listed, same.upkeep, ← own]
        exact placed ..
      · rw [side.answer_of_listed listed, same.upkeep]
        exact defined ..

/-- A roster keeps two maps from owners to the units that they first got. Units of volumes and of claims stay from their
first use until their owner is dismissed, whatever is asked of the roster in between; what concerns one owner leaves
the units of all others alone; and the size of the roster is the number of the owners who have a unit. -/
theorem units_last_from_first_use :
    FirstUse .volume (fun history shared settings => ((Roster.after {} history).volume shared settings).1) volumeKey
      volumeDefinition ∧
    FirstUse .claim (fun history shared settings => ((Roster.after {} history).claim shared settings).1) claimKey
      claimDefinition ∧
    (∀ (roster : Roster) (others : List RosterCall) (owner : ObjectKey), (∀ call ∈ others, call.owner ≠ owner) →
      (roster.after others).volumes.unit? owner = roster.volumes.unit? owner ∧
      (roster.after others).claims.unit? owner = roster.claims.unit? owner) ∧
    ∀ history : List RosterCall,
      (∃ owners : Finset ObjectKey,
        (∀ owner, owner ∈ owners ↔
          RosterCall.Served .volume owner history ∨ RosterCall.Served .claim owner history) ∧
        (Roster.after {} history).size = owners.card) ∧
      ((Roster.after {} history).isEmpty = true ↔ (Roster.after {} history).size = 0) := by
  refine ⟨volumeSide.firstUse (fun _ _ => rfl) fun _ _ => rfl, claimSide.firstUse (fun _ _ => rfl) fun _ _ => rfl,
    fun roster others owner => roster.unit?_after_of_ne, fun history => ⟨?_, isEmpty_iff⟩⟩
  refine ⟨(Roster.after {} history).owners.toFinset, fun owner => ?_, ?_⟩
  · rw [List.mem_toFinset, mem_owners_iff]
    exact or_congr volumeSide.served_iff.symm claimSide.served_iff.symm
  · rw [List.toFinset_card_of_nodup (nodup_owners _)]
    rfl

/-- The unit for the claim of `x/a` outlives calls about `y/a`, and later settings do not give it another. -/
theorem units_last_from_first_use_sample :
    let shared : SharedVolume := { metadata := { name := some "a", ns := some "x" } }
    let others : List RosterCall := [.dismiss (.namespaced "y" "a")]
    ((Roster.after {} [.claim shared {}]).after others).claims.unit? shared.key =
        (Roster.after {} [.claim shared {}]).claims.unit? shared.key ∧
      ((Roster.after {} (.claim shared {} :: others)).claim shared { csiDriver := "other" }).1.serial =
        (Roster.claim {} shared {}).1.serial := by
  intro shared others
  obtain ⟨-, claims, apart, -⟩ := units_last_from_first_use
  have elsewhere : ∀ call ∈ others, call.owner ≠ shared.key := by decide
  have differ : shared.key ≠ .namespaced "y" "a" := by decide
  have stays : .dismiss shared.key ∉ others := fun listed =>
    differ (RosterCall.dismiss.inj (List.mem_singleton.mp listed))
  exact ⟨(apart _ others shared.key elsewhere).2,
    (claims.identity [] shared {} others shared { csiDriver := "other" }).mpr ⟨rfl, stays⟩⟩

/-- Two owners have units of their own though their volumes have one name. -/
example : (Roster.after {}
    [.volume { metadata := { name := some "a-b", ns := some "x" } } {},
      .volume { metadata := { name := some "b", ns := some "x-a" } } {},
      .claim { metadata := { name := some "a-b", ns := some "x" } } {}]).size = 2 := by
  decide +kernel

end Roster

end SharedMount
