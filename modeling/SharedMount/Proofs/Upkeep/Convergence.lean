import SharedMount.Proofs.Upkeep.Amid

/-! # Convergence of a unit

A unit that has succeeded has seen the object that is stored, and does no more about it. That it knows the object
by its version is a shortcut only: an object with the version that the unit wants is the one that it has seen
last, and it would be found as wanted anyway.
-/

namespace SharedMount

/-- What is under a key has no finalizer and is not being deleted. -/
def Store.Calm {K : Type} [Resource K] (store : Store K) (key : ObjectKey) : Prop :=
  ∀ object ∈ store.object? key,
    (Resource.metadata object).finalizerList = [] ∧ (Resource.metadata object).isDeleting = false

instance {K : Type} [Resource K] (store : Store K) (key : ObjectKey) : Decidable (store.Calm key) :=
  inferInstanceAs (Decidable (∀ object ∈ store.object? key, _))

namespace Upkeep

variable {K : Type} [Resource K] {unit : Upkeep K} {store : Store K} {stored : K}

/-- Establishing does no more than read: the store stays as it is, and so does the unit, which succeeds if reading
works. -/
def Idle (unit : Upkeep K) (store : Store K) : Prop :=
  unit.establish.Meets (fun _ call => call = .get unit.key)
    (fun result after => after = store ∧ (store.failing .get = false → result = .ok unit)) store

theorem idle_of_accepts (found : store.object? unit.key = some stored) (last : unit.latest = some stored)
    (accepts : unit.accepts stored = true) : unit.Idle store := by
  rw [Idle, establish, StoreProgram.meets_bind, StoreProgram.meets_get]
  refine ⟨rfl, ?_⟩
  cases works : store.failing .get with
  | true =>
    rw [Store.get, Store.check_of_failing works]
    exact ⟨rfl, by simp⟩
  | false =>
    rw [Store.get_eq_ok_iff.mpr ⟨works, found⟩]
    simp only [accepts, ↓reduceIte, ← last]
    exact ⟨rfl, fun _ => rfl⟩

/-- An object that was seen last is known by its version, if it has one. -/
theorem accepts_of_dated {since upTo : Nat} (last : unit.latest = some stored)
    (dated : Resource.Dated since upTo stored) : unit.accepts stored = true := by
  have same : sameVersion unit.wanted stored = sameVersion stored stored := by
    rw [sameVersion, sameVersion, version?_wanted, last, Option.getD_some]
  rw [accepts, same, dated.sameVersion_self, Bool.true_or]

/-- What the unit wants differs from an object that it has seen last in the metadata at most. -/
theorem agree_wanted_of_latest [StatusKind K] [DocumentKind K] (last : unit.latest = some stored)
    (compares : unit.comparison ≠ .field "metadata") : unit.comparison.agree unit.wanted stored = true := by
  rw [wanted, last, Option.getD_some]
  exact Comparison.agree_mapMetadata compares _ stored

/-! ## The shortcut by versions -/

/-- Whether a stored object may stay as it is, judged without a look at its version. -/
def acceptsAtLength (unit : Upkeep K) (stored : K) : Bool :=
  isManaged stored && unit.comparison.agree unit.wanted stored

/-- Establishing with a way to judge what is stored. -/
def establishBy (accepts : Upkeep K → K → Bool) (unit : Upkeep K) : StoreProgram K (Upkeep K) := do
  match ← StoreProgram.get unit.key with
  | none =>
      let created ← StoreProgram.create (Resource.withVersion none unit.wanted)
      return { unit with latest := some created }
  | some stored =>
      if accepts unit stored then return { unit with latest := some stored }
      else
        let updated ← StoreProgram.replace (Resource.withVersion (Resource.version? stored) unit.wanted)
        return { unit with latest := some updated }

theorem establishBy_accepts (unit : Upkeep K) : establishBy accepts unit = unit.establish := rfl

/-- Ways to judge that agree on what is stored make no difference. -/
theorem interrupted_establishBy {accepts other : Upkeep K → K → Bool}
    (agree : ∀ stored, store.object? unit.key = some stored → accepts unit stored = other unit stored)
    (later : Store K) :
    (establishBy accepts unit).interrupted store later = (establishBy other unit).interrupted store later := by
  rw [establishBy, establishBy, StoreProgram.interrupted_get, StoreProgram.interrupted_get]
  cases read : store.get unit.key with
  | error failure => rfl
  | ok found =>
    obtain ⟨-, there⟩ := Store.get_eq_ok_iff.mp read
    cases found with
    | none => rfl
    | some stored => simp only [agree stored there]

end Upkeep

namespace Post

variable {K : Type} [Resource K] [StatusKind K] [DocumentKind K] {fresh : Upkeep K} {post left : Post K}
  {later : Store K}

/-- In every run of a unit, an object with the version that the unit wants is the very object that the unit has
seen last; it is marked, and as wanted in the part that the unit compares. So a unit that does not look at
versions does the same. -/
theorem version_tells_object (new : fresh.Fresh) (managed : isManaged fresh.definition = true)
    (compares : fresh.comparison ≠ .field "metadata") (reachable : Reachable fresh (fun _ => True) post) :
    (∀ live, post.store.object? post.unit.key = some live → sameVersion post.unit.wanted live = true →
      post.unit.latest = some live ∧ isManaged live = true ∧
        post.unit.comparison.agree post.unit.wanted live = true) ∧
      ∀ later, post.unit.establish.interrupted post.store later =
        (Upkeep.establishBy Upkeep.acceptsAtLength post.unit).interrupted post.store later := by
  have sound := reachable.sound new
  have tells : ∀ live, post.store.object? post.unit.key = some live →
      sameVersion post.unit.wanted live = true → post.unit.latest = some live ∧ isManaged live = true ∧
        post.unit.comparison.agree post.unit.wanted live = true := by
    intro live found same
    have last := sound.latest_of_sameVersion new found same
    refine ⟨last, (sound.faithful last).managed ?_, Upkeep.agree_wanted_of_latest last ?_⟩
    · rw [sound.charged.definition_eq, managed]
    · rw [sound.charged.comparison_eq]
      exact compares
  refine ⟨tells, fun later => ?_⟩
  rw [← Upkeep.establishBy_accepts]
  refine Upkeep.interrupted_establishBy (fun live found => ?_) later
  rw [Upkeep.accepts, Upkeep.acceptsAtLength]
  cases same : sameVersion post.unit.wanted live with
  | false => rfl
  | true =>
    obtain ⟨-, marked, agrees⟩ := tells live found same
    rw [marked, agrees]
    rfl

/-- The sample unit, once it has put right what somebody else had changed, knows its claim by the version. -/
theorem version_tells_object_sample :
    ∃ live, (driftedPost.establish driftedPost.store).2.store.object? sampleUnit.key = some live ∧
      sameVersion (driftedPost.establish driftedPost.store).2.unit.wanted live = true ∧
      (driftedPost.establish driftedPost.store).2.unit.latest = some live ∧ isManaged live = true := by
  have reached : Reachable sampleUnit (fun _ => True) (driftedPost.establish driftedPost.store).2 :=
    .establish (driftedPost_reachable trivial trivial trivial) .refl trivial
  have known : ((driftedPost.establish driftedPost.store).2.store.object? sampleUnit.key).map
      (sameVersion (driftedPost.establish driftedPost.store).2.unit.wanted) = some true := by
    decide +kernel
  obtain ⟨live, found, same⟩ := Option.map_eq_some_iff.mp known
  obtain ⟨tells, -⟩ := version_tells_object fresh_sampleUnit managed_sampleUnit (by decide) reached
  obtain ⟨last, marked, -⟩ := tells live found same
  exact ⟨live, found, same, last, marked⟩

/-! ## Convergence -/

/-- The object is there, it is what the unit has seen last, it is marked, and its spec is as defined if the unit
compares the spec. -/
def Converged (fresh : Upkeep K) (post : Post K) : Prop :=
  ∃ stored, post.store.object? fresh.key = some stored ∧ post.unit.latest = some stored ∧
    isManaged stored = true ∧ (fresh.comparison = .field "spec" →
      (Resource.encode stored).get? "spec" = (Resource.encode fresh.definition).get? "spec")

omit [DocumentKind K] in
/-- A unit that has succeeded with an object that is not being deleted has seen what is stored. -/
theorem EstablishedAmid.stored (ends : EstablishedAmid post later (.ok ()) left)
    (calm : post.store.Calm post.unit.key) : ∃ stored, left.unit.latest = some stored ∧
      left.store.object? left.unit.key = some stored := by
  cases ends with
  | accepted found accepts => exact ⟨_, rfl, found⟩
  | created missing vacant puts => exact ⟨_, rfl, puts.object?_self⟩
  | replaced found differs unchanged stays puts => exact ⟨_, rfl, puts.object?_self⟩
  | finished found differs unchanged finishes drops => exact absurd (calm _ found).2 finishes.not_stays

/-- In a run in which the object is never held or being deleted, a unit that has succeeded has converged, and
does nothing when it is to establish the object again. -/
theorem converges_and_idles (new : fresh.Fresh) (managed : isManaged fresh.definition = true)
    (reachable : Reachable fresh (fun store => store.Calm fresh.key) post)
    (meanwhile : post.store.Meanwhile (fun store => store.Calm fresh.key) later)
    (succeeds : post.establish later = (.ok (), left)) : Converged fresh left ∧ left.unit.Idle left.store := by
  have before := reachable.sound new
  have after := before.establish new (before.regular.meanwhile meanwhile) meanwhile.ages
  have ends := establish_amid (before.charged.key_wanted new.filed) before.regular meanwhile.ages
  rw [succeeds] at after ends
  rcases ends with ⟨⟨failure, fails⟩, -⟩ | ends
  · cases fails
  · have calm : post.store.Calm post.unit.key := before.charged.key_eq ▸ reachable.within
    obtain ⟨stored, last, found⟩ := ends.stored calm
    have faithful := after.faithful last
    refine ⟨⟨stored, after.charged.key_eq ▸ found, last, faithful.managed ?_, fun compares => ?_⟩,
      Upkeep.idle_of_accepts found last (Upkeep.accepts_of_dated last (after.regular.dated found))⟩
    · rw [after.charged.definition_eq, managed]
    · rw [← after.charged.definition_eq]
      exact faithful.field (after.charged.comparison_eq.trans compares) (by decide) (by decide)

/-- While the sample unit puts right what somebody else had changed, another claim appears. -/
theorem converges_and_idles_sample :
    let later := (driftedPost.store.insert { metadata := { name := some "b", ns := some "x" } }).2
    ∃ left, driftedPost.establish later = (.ok (), left) ∧ left.store ≠ later ∧ Converged sampleUnit left ∧
      left.unit.Idle left.store := by
  intro later
  have meanwhile : driftedPost.store.Meanwhile (fun store => store.Calm sampleUnit.key) later :=
    .single ⟨.insert _, by decide +kernel⟩
  have succeeds : (driftedPost.establish later).1 = .ok () := by decide +kernel
  have written : (driftedPost.establish later).2.store.version ≠ later.version := by decide +kernel
  obtain ⟨converged, idle⟩ := converges_and_idles fresh_sampleUnit managed_sampleUnit
    (driftedPost_reachable (by decide +kernel) (by decide +kernel) (by decide +kernel)) meanwhile
    (Prod.ext succeeds rfl)
  exact ⟨_, Prod.ext succeeds rfl, fun same => written (congrArg Store.version same), converged, idle⟩

end Post

end SharedMount
