import SharedMount.Object.Resource
import SharedMount.Proofs.Codec.Record

/-! # What is asked of a codec

The documents of most kinds are written and read by codecs that are not ours. `Codec` says what these do: fields stand
in order, and an object is read back whole, that is with its points in time cut to what a document gives of them.
`Part.StandsUnder` says where a part of an object is written, and `Times` which points in time an object holds. It
follows that documents are the same just where objects are, once they are whole, and that exchanging a field of a
document exchanges a part of the object.
-/

namespace SharedMount

/-! ## Documents are made of their fields -/

namespace Json

/-- An object whose fields stand in increasing order of their names. -/
def Ordered (document : Json) : Prop :=
  ∃ fields, document = .obj fields ∧ fields.Pairwise fun field other => field.1 < other.1

variable {document other : Json} {name : String}

theorem Ordered.record {entries : List (String × Option Json)} (sorted : (entries.map Prod.fst).Pairwise (· < ·)) :
    (record entries).Ordered := by
  refine ⟨_, rfl, List.Pairwise.filterMap _ (fun entry later below field written field' written' => ?_)
    (List.pairwise_map.mp sorted)⟩
  obtain ⟨_, -, rfl⟩ := Option.map_eq_some_iff.mp written
  obtain ⟨_, -, rfl⟩ := Option.map_eq_some_iff.mp written'
  exact below

theorem Ordered.erase (ordered : document.Ordered) (name : String) : (document.erase name).Ordered := by
  obtain ⟨fields, rfl, sorted⟩ := ordered
  exact ⟨_, rfl, sorted.filter _⟩

/-- The names after setting a field are the former ones and that of the field. -/
private theorem fst_eq_or_mem_of_insertField {value : Json} {fields : List (String × Json)} {field : String × Json}
    (there : field ∈ insertField name value fields) : field.1 = name ∨ field ∈ fields := by
  induction fields with
  | nil =>
    obtain rfl := List.mem_singleton.mp there
    exact .inl rfl
  | cons first rest ih =>
    rw [insertField] at there
    split at there
    · rcases List.mem_cons.mp there with rfl | there
      · exact .inl rfl
      · exact .inr there
    · rcases List.mem_cons.mp there with rfl | there
      · exact .inr List.mem_cons_self
      · exact (ih there).imp_right (List.mem_cons_of_mem _)

private theorem pairwise_insertField {value : Json} {fields : List (String × Json)}
    (sorted : fields.Pairwise fun field other => field.1 < other.1) (fresh : ∀ field ∈ fields, field.1 ≠ name) :
    (insertField name value fields).Pairwise fun field other => field.1 < other.1 := by
  induction fields with
  | nil => exact List.pairwise_singleton ..
  | cons first rest ih =>
    obtain ⟨below, sortedRest⟩ := List.pairwise_cons.mp sorted
    rw [insertField]
    split
    · rename_i before
      refine List.pairwise_cons.mpr ⟨fun field there => ?_, sorted⟩
      rcases List.mem_cons.mp there with rfl | there
      · exact before
      · exact String.lt_trans before (below field there)
    · rename_i after
      have first_lt : first.1 < name := String.not_le.mp fun above =>
        fresh first List.mem_cons_self (String.le_antisymm (String.not_lt.mp after) above)
      refine List.pairwise_cons.mpr
        ⟨fun field there => ?_, ih sortedRest fun field there => fresh field (List.mem_cons_of_mem _ there)⟩
      rcases fst_eq_or_mem_of_insertField there with same | there
      · exact same ▸ first_lt
      · exact below field there

theorem Ordered.set (ordered : document.Ordered) (name : String) (value : Json) :
    (document.set name value).Ordered := by
  obtain ⟨fields, rfl, sorted⟩ := ordered
  exact ⟨_, rfl, pairwise_insertField (sorted.filter _) fun field there => by simpa using (List.mem_filter.mp there).2⟩

theorem get?_erase (document : Json) (name field : String) :
    (document.erase name).get? field = if name = field then none else document.get? field := by
  cases document <;> simp [get?, Json.erase, fields, lookup_eraseField, lookup]

theorem Ordered.get?_set (ordered : document.Ordered) (name field : String) (value : Json) :
    (document.set name value).get? field = if name = field then some value else document.get? field := by
  obtain ⟨fields, rfl, -⟩ := ordered
  exact lookup_setField name field value fields

theorem Ordered.exchange (ordered : document.Ordered) (name : String) (given : Option Json) :
    (document.exchange name given).Ordered := by
  cases given with
  | none => exact ordered.erase name
  | some value => exact ordered.set name value

theorem Ordered.get?_exchange (ordered : document.Ordered) (name field : String) (given : Option Json) :
    (document.exchange name given).get? field = if name = field then given else document.get? field := by
  cases given with
  | none => exact get?_erase document name field
  | some value => exact ordered.get?_set name field value

private theorem mem_iff_lookup {fields : List (String × Json)}
    (sorted : fields.Pairwise fun field other => field.1 < other.1) (field : String × Json) :
    field ∈ fields ↔ lookup field.1 fields = some field.2 := by
  induction fields with
  | nil => simp [lookup]
  | cons first rest ih =>
    obtain ⟨below, sortedRest⟩ := List.pairwise_cons.mp sorted
    rw [List.mem_cons, ih sortedRest, lookup]
    split
    · rename_i same
      have missing : lookup field.1 rest ≠ some field.2 := fun found =>
        absurd (below field ((ih sortedRest).mpr found)) (same ▸ String.lt_irrefl _)
      simp only [missing, or_false, Option.some.injEq]
      exact ⟨fun eq => eq ▸ rfl, fun value => (Prod.ext same value).symm⟩
    · rename_i differ
      have other : field ≠ first := fun eq => differ (eq ▸ rfl)
      simp only [other, false_or]

/-- An object in order is known when each of its fields is. -/
theorem Ordered.ext (ordered : document.Ordered) (ordered' : other.Ordered)
    (same : ∀ name, document.get? name = other.get? name) : document = other := by
  obtain ⟨fields, rfl, sorted⟩ := ordered
  obtain ⟨fields', rfl, sorted'⟩ := ordered'
  have distinct {fields : List (String × Json)} (sorted : fields.Pairwise fun field other => field.1 < other.1) :
      fields.Nodup := by
    refine List.nodup_iff_pairwise_ne.mpr (sorted.imp fun {field other} below => ?_)
    rintro rfl
    exact String.lt_irrefl _ below
  have members (field : String × Json) : field ∈ fields ↔ field ∈ fields' := by
    rw [mem_iff_lookup sorted, mem_iff_lookup sorted']
    exact iff_of_eq (congrArg (· = some field.2) (same field.1))
  have reordered := (List.perm_ext_iff_of_nodup (distinct sorted) (distinct sorted')).mpr members
  exact congrArg Json.obj (reordered.eq_of_pairwise
    (fun field field' _ _ below above => absurd (String.lt_trans below above) (String.lt_irrefl _)) sorted sorted')

/-- What is left besides a field does not depend on that field. -/
theorem Ordered.erase_exchange (ordered : document.Ordered) (name : String) (given : Option Json) :
    (document.exchange name given).erase name = document.erase name := by
  refine ((ordered.exchange name given).erase name).ext (ordered.erase name) fun field => ?_
  rw [get?_erase, get?_erase, ordered.get?_exchange]
  split <;> rfl

/-- Documents that are the same but for one name have the same fields under all others. -/
theorem get?_eq_of_erase_eq {field : String} (differ : name ≠ field) (same : document.erase name = other.erase name) :
    document.get? field = other.get? field := by
  have kept (document : Json) : document.get? field = (document.erase name).get? field := by
    rw [get?_erase, if_neg differ]
  rw [kept document, kept other, same]

/-- Objects in order are the same if they are so but for one name and under this name. -/
theorem Ordered.eq_of_erase_eq (ordered : document.Ordered) (ordered' : other.Ordered)
    (same : document.erase name = other.erase name) (field : document.get? name = other.get? name) :
    document = other := by
  refine ordered.ext ordered' fun key => ?_
  by_cases differ : name = key
  · exact differ ▸ field
  · exact get?_eq_of_erase_eq differ same

end Json

/-! ## Parts of objects -/

/-- A part of the objects of a kind: what is put there is read from there, and the rest is left alone. -/
structure Part (K P : Type) where
  get : K → P
  set : P → K → K
  get_set (part : P) (object : K) : get (set part object) = part := by intros; rfl
  eq_set_get (object : K) : object = set (get object) object := by intros; rfl
  set_set (part later : P) (object : K) : set later (set part object) = set later object := by intros; rfl

theorem Part.set_get {K P : Type} (part : Part K P) (object : K) : part.set (part.get object) object = object :=
  (part.eq_set_get object).symm

variable {K M P : Type} [ObjectKind K M] {whole : K → K}

/-- The metadata of an object as a part of it. -/
def Resource.metadataPart (K : Type) {M : Type} [ObjectKind K M] : Part K M where
  get := metadata
  set metadata object := withMetadata object metadata
  get_set _ _ := metadata_withMetadata ..
  eq_set_get _ := (withMetadata_metadata ..).symm
  set_set _ _ _ := withMetadata_withMetadata ..

/-- The time of deletion as a part of metadata. -/
def ObjectMeta.deletionPart (M : Type) [ObjectMeta M] : Part M (Option (Time M)) where
  get := deletionTime?
  set := withDeletionTime
  get_set := deletionTime?_withDeletionTime
  eq_set_get metadata := (withDeletionTime_deletionTime? metadata).symm
  set_set := withDeletionTime_withDeletionTime

/-! ## Points in time -/

/-- The points in time that the values of a type hold. They may be changed, and nothing else is: values with the same
points in time that are alike after a change are the same. -/
structure Times (α T : Type) where
  list : α → List T
  map : (T → T) → α → α
  list_map (change : T → T) (value : α) : list (map change value) = (list value).map change
  map_id : map id = id
  map_congr {change other : T → T} {value : α} (same : ∀ time ∈ list value, change time = other time) :
    map change value = map other value
  ext {change : T → T} {value other : α} (times : list value = list other)
    (same : map change value = map change other) : value = other

namespace Times

variable {K α P T : Type}

/-- A change leaves a value as it is just if it does so with the points in time of the value. -/
theorem map_eq_self_iff (times : Times α T) {change : T → T} {value : α} :
    times.map change value = value ↔ ∀ time ∈ times.list value, change time = time := by
  constructor
  · intro kept
    have fixed := times.list_map change value
    rw [kept] at fixed
    exact List.map_inj_left.mp (fixed.symm.trans (List.map_id _).symm)
  · intro fixed
    exact (times.map_congr fixed).trans (congrFun times.map_id value)

/-- A point in time that may be absent is the only one that there is. -/
def ofOption (T : Type) : Times (Option T) T where
  list := Option.toList
  map := Option.map
  list_map _ time := by cases time <;> rfl
  map_id := Option.map_id
  map_congr {_ _ time} same := by cases time <;> simp_all
  ext {_ time other} same _ := by cases time <;> cases other <;> simp_all

/-- What may be absent holds the points in time that it holds when it is there. -/
def option (times : Times α T) : Times (Option α) T where
  list value := value.elim [] times.list
  map change := Option.map (times.map change)
  list_map change value := by cases value <;> simp [times.list_map]
  map_id := by rw [times.map_id, Option.map_id]
  map_congr {_ _ value} same := by
    cases value with
    | none => rfl
    | some value => exact congrArg some (times.map_congr same)
  ext {_ value other} same alike := by
    cases value <;> cases other
    · rfl
    · cases alike
    · cases alike
    · exact congrArg some (times.ext same (Option.some.inj alike))

/-- The points in time of an object of which all are in one part. -/
def ofPart (part : Part K P) (times : Times P T) : Times K T where
  list object := times.list (part.get object)
  map change object := part.set (times.map change (part.get object)) object
  list_map change object := by rw [part.get_set, times.list_map]
  map_id := funext fun object => by rw [times.map_id, id, part.set_get, id]
  map_congr same := by rw [times.map_congr same]
  ext {change object other} same alike := by
    have parts := congrArg part.get alike
    rw [part.get_set, part.get_set] at parts
    have parts := times.ext same parts
    -- the part is the same in both objects, and with it in its place so is the rest
    have rest := congrArg (part.set (part.get object)) alike
    rw [part.set_set, part.set_set, part.set_get, parts, part.set_get] at rest
    exact rest

end Times

/-! ## Codecs of kinds -/

/-- What is asked of the codec of a kind. An object that was written and read again is `whole`: a document does not
give its points in time to the fraction of a second. -/
structure Codec (K : Type) {M : Type} [ObjectKind K M] (whole : K → K) : Prop where
  ordered (object : K) : (Resource.encode object).Ordered
  reads (object : K) : Resource.decode? (Resource.encode object) = some (whole object)
  /-- What a document does not give makes no difference to it. -/
  encode_whole (object : K) : Resource.encode (whole object) = Resource.encode object

/-- A part of an object is written under a name, where nothing else is, and is cut to what is written on its own. -/
structure Part.StandsUnder (part : Part K P) (whole : K → K) (wholePart : P → P) (name : String) : Prop where
  told {object other : K} (same : part.get object = part.get other) :
    (Resource.encode object).get? name = (Resource.encode other).get? name
  apart (value : P) (object : K) :
    (Resource.encode (part.set value object)).erase name = (Resource.encode object).erase name
  whole_set (value : P) (object : K) : whole (part.set value object) = part.set (wholePart value) (whole object)

namespace Codec

variable (codec : Codec K whole)

include codec

/-- Documents are the same just where the objects are whole the same. -/
theorem encode_eq_iff {object other : K} :
    Resource.encode object = Resource.encode other ↔ whole object = whole other := by
  constructor
  · intro same
    exact Option.some.inj ((codec.reads object).symm.trans ((congrArg _ same).trans (codec.reads other)))
  · intro same
    rw [← codec.encode_whole object, same, codec.encode_whole]

end Codec

namespace Part.StandsUnder

variable {part : Part K P} {wholePart : P → P} {name : String} (under : part.StandsUnder whole wholePart name)

include under

theorem get_whole (object : K) : part.get (whole object) = wholePart (part.get object) := by
  have same := under.whole_set (part.get object) object
  rw [part.set_get] at same
  rw [same, part.get_set]

variable (codec : Codec K whole)

include codec

/-- An object that is given a part of another one has that one's field in its document. -/
theorem encode_set_get_eq_iff {object source : K} {document : Json} (ordered : document.Ordered) :
    Resource.encode (part.set (part.get source) object) = document ↔
      document.erase name = (Resource.encode object).erase name ∧
        document.get? name = (Resource.encode source).get? name := by
  have field : (Resource.encode (part.set (part.get source) object)).get? name =
      (Resource.encode source).get? name := under.told (part.get_set ..)
  constructor
  · rintro rfl
    exact ⟨under.apart .., field⟩
  · rintro ⟨rest, given⟩
    exact (codec.ordered _).eq_of_erase_eq ordered ((under.apart ..).trans rest.symm) (field.trans given.symm)

/-- Documents are the same but for the field of a part just where giving one object the part of the other makes them
whole the same. -/
theorem erase_eq_iff {object other : K} :
    (Resource.encode object).erase name = (Resource.encode other).erase name ↔
      part.set (part.get (whole other)) (whole object) = whole other := by
  rw [under.get_whole, ← under.whole_set, ← codec.encode_eq_iff,
    under.encode_set_get_eq_iff codec (codec.ordered other)]
  exact ⟨fun same => ⟨same.symm, rfl⟩, fun ⟨same, _⟩ => same.symm⟩

/-- The fields of a part are the same just where the parts are whole the same. -/
theorem get?_eq_iff {object other : K} :
    (Resource.encode object).get? name = (Resource.encode other).get? name ↔
      part.get (whole object) = part.get (whole other) := by
  rw [under.get_whole, under.get_whole]
  constructor
  · intro same
    have exchanged : Resource.encode (part.set (part.get other) object) = Resource.encode object :=
      (under.encode_set_get_eq_iff codec (codec.ordered object)).mpr ⟨rfl, same⟩
    have alike := congrArg part.get (codec.encode_eq_iff.mp exchanged)
    rw [under.whole_set, part.get_set, under.get_whole] at alike
    exact alike.symm
  · intro same
    have alike : whole (part.set (part.get other) object) = whole object := by
      rw [under.whole_set, ← same, ← under.get_whole, part.set_get]
    have exchanged := (under.encode_set_get_eq_iff codec (codec.ordered object)).mp (codec.encode_eq_iff.mpr alike)
    exact exchanged.2

end Part.StandsUnder

/-! ## Metadata -/

/-- What is asked of the codec of metadata: it reads back what was written, but for fractions of seconds. -/
structure ObjectMeta.ReadsBack {M : Type} [ObjectMeta M] (whole : M → M) (second : Time M → Time M) : Prop where
  reads (metadata : M) : decode? (encode metadata) = some (whole metadata)
  encode_whole (metadata : M) : encode (whole metadata) = encode metadata
  key_whole (metadata : M) : key (whole metadata) = key metadata
  version?_whole (metadata : M) : version? (whole metadata) = version? metadata
  finalizerList_whole (metadata : M) : finalizerList (whole metadata) = finalizerList metadata
  whole_withDeletionTime (time : Option (Time M)) (metadata : M) :
    whole (withDeletionTime time metadata) = withDeletionTime (time.map second) (whole metadata)

theorem ObjectMeta.ReadsBack.deletionTime?_whole {M : Type} [ObjectMeta M] {whole : M → M} {second : Time M → Time M}
    (readsBack : ReadsBack whole second) (metadata : M) :
    deletionTime? (whole metadata) = (deletionTime? metadata).map second := by
  have same := readsBack.whole_withDeletionTime (deletionTime? metadata) metadata
  rw [withDeletionTime_deletionTime?] at same
  rw [same, deletionTime?_withDeletionTime]

end SharedMount
