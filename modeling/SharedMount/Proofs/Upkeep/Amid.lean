import SharedMount.Proofs.Upkeep.Post

/-! # Establishing amid others

`EstablishedAmid` lists how establishing ends when others act on the store after the read. A write goes through
only if what is stored is still what was read: its version tells, since no version is given out twice. From this,
and from what a single touch of the store keeps, follows what holds of a unit in every run (`Reachable.sound`).
-/

namespace SharedMount.Post

variable {K : Type} [Resource K] [StatusKind K] {post left : Post K} {later : Store K}

/-- How establishing ends when no operation is made to fail, while others act after the read: a write goes
through only over what was read, and one that is refused changes nothing. -/
inductive EstablishedAmid (post : Post K) (later : Store K) : Except Failure Unit → Post K → Prop where
  /-- What was read may stay as it is; nothing is written. -/
  | accepted {stored : K} (found : post.store.object? post.unit.key = some stored)
      (accepts : post.unit.accepts stored = true) :
      EstablishedAmid post later (.ok ()) ⟨{ post.unit with latest := some stored }, post.store⟩
  /-- Nothing was there to be read, and still nothing is when the object is created. -/
  | created {after : Store K} (missing : post.store.object? post.unit.key = none)
      (vacant : later.object? post.unit.key = none)
      (puts : later.Puts after post.unit.key (later.stamp post.unit.wanted)) :
      EstablishedAmid post later (.ok ())
        ⟨{ post.unit with latest := some (later.stamp post.unit.wanted) }, after⟩
  /-- What was read has to change, and it is still there when it is written over. -/
  | replaced {stored : K} {after : Store K} (found : post.store.object? post.unit.key = some stored)
      (differs : post.unit.accepts stored = false) (unchanged : later.object? post.unit.key = some stored)
      (stays : ¬Store.Finishes (post.unit.replacement stored) stored)
      (puts : later.Puts after post.unit.key
        (later.stamp (Store.merged (post.unit.replacement stored) stored))) :
      EstablishedAmid post later (.ok ())
        ⟨{ post.unit with
          latest := some (later.stamp (Store.merged (post.unit.replacement stored) stored)) }, after⟩
  /-- As before, but the write takes the last finalizer off an object that is being deleted. -/
  | finished {stored : K} {after : Store K} (found : post.store.object? post.unit.key = some stored)
      (differs : post.unit.accepts stored = false) (unchanged : later.object? post.unit.key = some stored)
      (finishes : Store.Finishes (post.unit.replacement stored) stored)
      (drops : later.Drops after post.unit.key) :
      EstablishedAmid post later (.ok ())
        ⟨{ post.unit with latest := some (Store.merged (post.unit.replacement stored) stored) }, after⟩
  /-- What is stored is no longer what was read, and the write is refused. -/
  | refused {failure : Failure} (moved : later.object? post.unit.key ≠ post.store.object? post.unit.key)
      (cause : failure.isConflict = true ∨ failure.isNotFound = true) :
      EstablishedAmid post later (.error failure) ⟨post.unit, later⟩

/-- A task of the unit ended badly and changed nothing, since an operation was made to fail. -/
def Faulted (post : Post K) (later : Store K) (result : Except Failure Unit) (left : Post K) : Prop :=
  (∃ failure, result = .error failure) ∧ (left = post ∨ left = ⟨post.unit, later⟩) ∧
    ∃ operation, post.store.failing operation = true ∨ later.failing operation = true

/-- One of the ways in which establishing may end, faults included. -/
private def EndsAmid (post : Post K) (later : Store K) (ends : Except Failure Unit × Post K) : Prop :=
  Faulted post later ends.1 ends.2 ∨ EstablishedAmid post later ends.1 ends.2

private theorem meets_create_amid (own : Resource.key post.unit.wanted = post.unit.key)
    (missing : post.store.object? post.unit.key = none) :
    (StoreProgram.create (Resource.withVersion none post.unit.wanted) >>= fun created =>
      pure { post.unit with latest := some created }).Meets (fun _ _ => True)
      (fun result after => EndsAmid post later (post.conclude (result, after))) later := by
  rw [StoreProgram.meets_bind, StoreProgram.meets_create]
  refine ⟨trivial, ?_⟩
  have unversioned := Resource.version?_withVersion none post.unit.wanted
  have stamped : later.stamp (Resource.withVersion none post.unit.wanted) = later.stamp post.unit.wanted :=
    Resource.withVersion_withVersion ..
  have sent : Resource.key (Resource.withVersion none post.unit.wanted) = post.unit.key := by
    rw [Resource.key_withVersion, own]
  cases works : later.failing .create with
  | true =>
    obtain ⟨failure, result⟩ := Store.create_of_failing works
      (Resource.withVersion none post.unit.wanted)
    rw [result]
    exact .inl ⟨⟨_, rfl⟩, .inr rfl, _, .inr works⟩
  | false =>
    cases found : later.object? post.unit.key with
    | none =>
      obtain ⟨after, result, puts⟩ := Store.create_of_working works unversioned (by rw [sent, found])
      rw [result, stamped]
      rw [stamped, sent] at puts
      exact .inr (.created missing found puts)
    | some present =>
      rw [Store.create_of_taken works unversioned (sent.symm ▸ found)]
      exact .inr (.refused (by rw [missing, found]; simp) (.inl rfl))

private theorem meets_replace_amid (own : Resource.key post.unit.wanted = post.unit.key) {stored : K}
    (found : post.store.object? post.unit.key = some stored) (differs : post.unit.accepts stored = false)
    (same : ∀ present, later.object? post.unit.key = some present →
      Resource.version? stored = Resource.version? present → present = stored) :
    (StoreProgram.replace (post.unit.replacement stored) >>= fun updated =>
      pure { post.unit with latest := some updated }).Meets (fun _ _ => True)
      (fun result after => EndsAmid post later (post.conclude (result, after))) later := by
  rw [StoreProgram.meets_bind, StoreProgram.meets_replace]
  refine ⟨trivial, ?_⟩
  have version : Resource.version? (post.unit.replacement stored) = Resource.version? stored :=
    Resource.version?_withVersion ..
  have sent : Resource.key (post.unit.replacement stored) = post.unit.key := by
    rw [Upkeep.replacement, Resource.key_withVersion, own]
  cases works : later.failing .replace with
  | true =>
    obtain ⟨failure, result⟩ := Store.replace_of_failing works (post.unit.replacement stored)
    rw [result]
    exact .inl ⟨⟨_, rfl⟩, .inr rfl, _, .inr works⟩
  | false =>
    cases there : later.object? post.unit.key with
    | none =>
      rw [Store.replace_of_missing works (sent.symm ▸ there)]
      exact .inr (.refused (by rw [found, there]; simp) (.inr rfl))
    | some present =>
      by_cases current : Resource.version? stored = Resource.version? present
      · -- a version is given out once, so this is still what was read
        obtain rfl := same present there current
        obtain ⟨after, ⟨finishes, drops, result⟩ | ⟨stays, puts, result⟩⟩ :=
          Store.replace_of_working works (by rw [sent, there]) version <;> rw [result]
        · exact .inr (.finished found differs there finishes (sent ▸ drops))
        · exact .inr (.replaced found differs there stays (sent ▸ puts))
      · rw [Store.replace_of_outdated works (sent.symm ▸ there) (version.symm ▸ current)]
        refine .inr (.refused ?_ (.inl rfl))
        rw [found, there]
        exact fun moved => current (congrArg _ (Option.some.inj moved)).symm

/-- Establishing amid others ends in one of the ways listed, if no operation is made to fail. -/
theorem establish_amid (own : Resource.key post.unit.wanted = post.unit.key) (regular : post.store.Regular)
    (ages : post.store.Ages later) :
    Faulted post later (post.establish later).1 (post.establish later).2 ∨
      EstablishedAmid post later (post.establish later).1 (post.establish later).2 := by
  rw [establish, Upkeep.establish, StoreProgram.interrupted_get]
  cases works : post.store.failing .get with
  | true =>
    rw [Store.get, Store.check_of_failing works]
    exact .inl ⟨⟨_, rfl⟩, .inl rfl, _, .inl works⟩
  | false =>
    rw [Store.get_eq_ok_iff.mpr ⟨works, rfl⟩]
    cases found : post.store.object? post.unit.key with
    | none => exact StoreProgram.meets_iff_outcome.mp (meets_create_amid own found)
    | some stored =>
      simp only
      cases accepts : post.unit.accepts stored with
      | true => exact .inr (.accepted found accepts)
      | false =>
        simp only [Bool.false_eq_true, ↓reduceIte]
        refine StoreProgram.meets_iff_outcome.mp (meets_replace_amid own found accepts fun present there same => ?_)
        exact regular.eq_of_version? ages found there same

/-! ## Runs of a unit -/

section Runs

variable {fresh : Upkeep K} {during : Store K → Prop}

/-- Withdrawing leaves a unit that has seen nothing, or the unit as it is. -/
theorem Sound.withdraw (sound : Sound fresh post) (regular : later.Regular)
    (ages : post.store.Ages later) : Sound fresh (post.withdraw later).2 := by
  have makes : Program.Makes (I := storeInterface K) (fun _ => True)
      (fun result => ∀ later, result = .ok later → later = { post.unit with latest := none })
      post.unit.withdraw.run :=
    post.unit.makes_withdraw trivial trivial
  have ends := StoreProgram.ends_interrupted makes post.store later
  have after : (post.unit.withdraw.interrupted post.store later).2.Regular :=
    StoreProgram.interrupted_keeps (fun _ call regular => regular.touched (.call call)) _ sound.regular regular
  have onward : post.store.Ages (post.unit.withdraw.interrupted post.store later).2 :=
    StoreProgram.interrupted_keeps (fun store call ages => ages.trans (.perform store call)) _
      (.refl post.store) ages
  rw [Post.withdraw]
  revert ends after onward
  generalize post.unit.withdraw.interrupted post.store later = outcome
  obtain ⟨failure | unit, store⟩ := outcome <;> intro ends after onward
  · exact sound.ages after onward
  · obtain rfl := ends unit rfl
    exact ⟨sound.charged.record nofun, after, nofun, nofun⟩

variable [DocumentKind K]

/-- Establishing in one of the ways listed keeps what is true of a unit and its store. -/
theorem EstablishedAmid.sound {result : Except Failure Unit} (ends : EstablishedAmid post later result left)
    (new : fresh.Fresh) (sound : Sound fresh post) (after : left.store.Regular)
    (onward : post.store.Ages left.store) : Sound fresh left := by
  have own : Resource.key post.unit.wanted = post.unit.key := sound.charged.key_wanted new.filed
  cases ends with
  | @accepted stored found accepts =>
    exact sound.record after (sound.regular.filed _ _ found) (sound.regular.knows found)
      (sound.faithful_of_accepts new found accepts)
  | created missing vacant puts =>
    exact sound.record after (by rw [Store.key_stamp, own]) (after.knows puts.object?_self)
      (sound.faithful_wanted.stamp later)
  | @replaced stored _ found differs unchanged stays puts =>
    exact sound.record after
      (by rw [Store.key_stamp, Store.key_merged, Upkeep.replacement, Resource.key_withVersion, own])
      (after.knows puts.object?_self) (((sound.faithful_wanted.withVersion _).merged stored).stamp later)
  | @finished stored _ found differs unchanged finishes drops =>
    -- what was written last was never stored, but its version is spent
    have version : Resource.version? (Store.merged (post.unit.replacement stored) stored) =
        Resource.version? stored := by
      rw [Resource.version?, Store.metadata_merged]
      exact Resource.version?_withVersion (Resource.version? stored) post.unit.wanted
    obtain ⟨number, above, below, dated⟩ := sound.regular.dated found
    refine sound.record after (by rw [Store.key_merged, Upkeep.replacement, Resource.key_withVersion, own])
      ⟨⟨number, above, Nat.le_trans below onward.version_le, version.trans dated⟩, fun there _ => ?_⟩
      ((sound.faithful_wanted.withVersion _).merged stored)
    rw [drops.object?_self] at there
    cases there
  | refused moved cause => exact sound.ages after onward

theorem Sound.establish (sound : Sound fresh post) (new : fresh.Fresh) (regular : later.Regular)
    (ages : post.store.Ages later) : Sound fresh (post.establish later).2 := by
  have after : (post.establish later).2.store.Regular :=
    establish_keeps (fun _ call regular => regular.touched (.call call)) sound.regular regular
  have onward : post.store.Ages (post.establish later).2.store :=
    establish_keeps (fun store call ages => ages.trans (.perform store call)) (.refl post.store) ages
  rcases establish_amid (sound.charged.key_wanted new.filed) sound.regular ages with
    ⟨-, left | left, -⟩ | ends
  · rw [left]
    exact sound
  · rw [left]
    exact sound.ages regular ages
  · exact ends.sound new sound after onward

/-- In every run of a unit amid others, what the unit has seen is true to the definition and known by its
version. -/
theorem Reachable.sound (new : fresh.Fresh) (reachable : Reachable fresh during post) : Sound fresh post := by
  induction reachable with
  | start calm => exact .of_fresh new Store.regular_empty
  | others reachable meanwhile ih => exact ih.meanwhile meanwhile
  | establish reachable meanwhile calm ih =>
    exact ih.establish new (ih.regular.meanwhile meanwhile) meanwhile.ages
  | withdraw reachable meanwhile calm ih =>
    exact ih.withdraw (ih.regular.meanwhile meanwhile) meanwhile.ages

/-- Nothing that others wrote between the read and the write of a unit is lost. When no operation is made to
fail, establishing ends in one of the ways of `EstablishedAmid`, whatever others do after the read and whatever
happened before. -/
theorem no_lost_update (new : fresh.Fresh) (reachable : Reachable fresh (fun _ => True) post)
    (working : ∀ operation, post.store.failing operation = false)
    (meanwhile : post.store.Meanwhile (fun store => ∀ operation, store.failing operation = false) later) :
    EstablishedAmid post later (post.establish later).1 (post.establish later).2 := by
  have sound := reachable.sound new
  have working' : ∀ operation, later.failing operation = false := meanwhile.within working
  rcases establish_amid (sound.charged.key_wanted new.filed) sound.regular meanwhile.ages with
    ⟨-, -, operation, fails | fails⟩ | ends
  · rw [working] at fails
    cases fails
  · rw [working'] at fails
    cases fails
  · exact ends

end Runs

/-! ## A sample -/

/-- The unit for the claim of a SharedVolume. -/
def sampleUnit : Upkeep PersistentVolumeClaim :=
  claimUpkeep { metadata := { name := some "a", ns := some "x" } } {}

theorem fresh_sampleUnit : sampleUnit.Fresh where
  unseen := rfl
  filed := rfl
  unversioned := rfl

theorem managed_sampleUnit : isManaged sampleUnit.definition = true := by decide +kernel

/-- The sample unit after it has established its claim, and somebody else has taken the spec out of it. -/
def driftedPost : Post PersistentVolumeClaim :=
  let made := ((⟨sampleUnit, {}⟩ : Post PersistentVolumeClaim).establish {}).2
  ⟨made.unit, made.store.mutate sampleUnit.key fun claim => { claim with spec := none }⟩

theorem driftedPost_reachable {during : Store PersistentVolumeClaim → Prop} (calm : during {})
    (calm' : during ((⟨sampleUnit, {}⟩ : Post PersistentVolumeClaim).establish {}).2.store)
    (calm'' : during driftedPost.store) : Reachable sampleUnit during driftedPost :=
  .others (.establish (.start calm) .refl calm') (.single ⟨.mutate _ _ fun _ => rfl, calm''⟩)

/-- The claim is taken away and made anew while the sample unit is about to write over it. -/
def remadeStore : Store PersistentVolumeClaim :=
  ((driftedPost.store.remove sampleUnit.key).insert sampleUnit.definition).2

/-- Since the claim was made anew after it was read, the sample unit is refused, though there is a claim under
the key as before. -/
theorem no_lost_update_sample :
    driftedPost.store.object? sampleUnit.key ≠ none ∧ remadeStore.object? sampleUnit.key ≠ none ∧
      (driftedPost.establish remadeStore).1.toOption = none ∧
      EstablishedAmid driftedPost remadeStore (driftedPost.establish remadeStore).1
        (driftedPost.establish remadeStore).2 := by
  refine ⟨by decide +kernel, by decide +kernel, by decide +kernel, ?_⟩
  have removed : driftedPost.store.Meanwhile (fun store => ∀ operation, store.failing operation = false)
      (driftedPost.store.remove sampleUnit.key) :=
    .single ⟨.remove _, fun _ => rfl⟩
  exact no_lost_update fresh_sampleUnit (driftedPost_reachable trivial trivial trivial) (fun _ => rfl)
    (removed.tail ⟨.insert _, fun _ => rfl⟩)

end SharedMount.Post
