import SharedMount.Provision.AccessPoint

/-! # The grammar of volume handles

`Reading` says what a volume is read as by the forms that its handle and its mount options have, and in which order
faults count. Reading a volume comes to that and to nothing else (`reading_iff`), so every volume has one reading.
-/

namespace SharedMount

/-- A text is what stands before the first occurrence of a separator, the separator, and what stands after it. -/
structure Text.Parts (separator : Char) (text before after : String) : Prop where
  whole : text.toList = before.toList ++ separator :: after.toList
  first : separator ∉ before.toList

/-- The access point that mount options name: the value of the last `accesspoint`, even if it is empty, and the empty
text if there is none. -/
inductive AccessPointNamed : List String → String → Prop where
  | last {earlier later : List String} {option value : String}
      (named : Text.Parts '=' option "accesspoint" value)
      (unnamed : ∀ other ∈ later, ∀ value, ¬Text.Parts '=' other "accesspoint" value) :
      AccessPointNamed (earlier ++ option :: later) value
  | absent {options : List String}
      (unnamed : ∀ option ∈ options, ∀ value, ¬Text.Parts '=' option "accesspoint" value) :
      AccessPointNamed options ""

/-- The file system and the access point that a handle gives. One without colons is a file system, and its access
point is among the mount options; in one with two colons or more, the access point is all that follows the second. -/
inductive HandleGives (handle : String) (options : List String) : String → String → Prop where
  | undivided {accessPoint : String} (whole : ':' ∉ handle.toList)
      (named : AccessPointNamed options accessPoint) : HandleGives handle options handle accessPoint
  | divided {fileSystem rest path accessPoint : String} (first : Text.Parts ':' handle fileSystem rest)
      (second : Text.Parts ':' rest path accessPoint) : HandleGives handle options fileSystem accessPoint

/-- The handle and the mount options of a volume with a CSI source. -/
inductive Sourced (volume : PersistentVolume) : String → List String → Prop where
  | intro {spec : VolumeSpec} {source : CsiSource} (specified : volume.spec = some spec)
      (sourced : spec.csi = some source) : Sourced volume source.volumeHandle (spec.mountOptions.getD [])

/-- What a volume is read as. A missing file system counts before a missing access point. -/
inductive Reading (volume : PersistentVolume) : Except HandleFault SharedVolumeSpec → Prop where
  | noCsiSource (lacks : volume.spec.bind (·.csi) = none) : Reading volume (.error .noCsiSource)
  | emptyHandle {options : List String} (sourced : Sourced volume "" options) :
      Reading volume (.error .emptyHandle)
  | unparseable {handle : String} {options : List String} (sourced : Sourced volume handle options)
      (single : handle.toList.count ':' = 1) : Reading volume (.error (.unparseable handle))
  | noFileSystem {handle accessPoint : String} {options : List String} (sourced : Sourced volume handle options)
      (filled : handle ≠ "") (gives : HandleGives handle options "" accessPoint) :
      Reading volume (.error .noFileSystem)
  | noAccessPoint {handle fileSystem : String} {options : List String} (sourced : Sourced volume handle options)
      (gives : HandleGives handle options fileSystem "") (given : fileSystem ≠ "") :
      Reading volume (.error .noAccessPoint)
  | identified {handle : String} {options : List String} {spec : SharedVolumeSpec}
      (sourced : Sourced volume handle options)
      (gives : HandleGives handle options spec.fileSystemId spec.accessPointId) (given : spec.fileSystemId ≠ "")
      (named : spec.accessPointId ≠ "") : Reading volume (.ok spec)

/-! ## Dividing texts -/

namespace Text

variable {separator : Char} {text before after : String}

theorem parts_iff : Parts separator text before after ↔
    divide? separator text.toList = some (before.toList, after.toList) := by
  rw [divide?_eq_some_iff]
  exact ⟨fun parts => ⟨parts.whole, parts.first⟩, fun ⟨whole, first⟩ => ⟨whole, first⟩⟩

end Text

/-! ## Mount options -/

section Options

variable {options : List String} {option value : String}

theorem accessPointOption?_eq_some_iff :
    accessPointOption? option = some value.toList ↔ Text.Parts '=' option "accesspoint" value := by
  rw [accessPointOption?, Text.parts_iff]
  cases Text.divide? '=' option.toList with
  | none => simp
  | some parts =>
    obtain ⟨key, rest⟩ := parts
    by_cases same : key = "accesspoint".toList
    · simp only [same, ↓reduceIte, Option.some.injEq, Prod.mk.injEq, true_and]
    · simp only [same, ↓reduceIte, reduceCtorEq, Option.some.injEq, Prod.mk.injEq, false_and]

theorem accessPointOption?_eq_none_iff :
    accessPointOption? option = none ↔ ∀ value, ¬Text.Parts '=' option "accesspoint" value := by
  constructor
  · intro absent value parts
    rw [accessPointOption?_eq_some_iff.mpr parts] at absent
    cases absent
  · intro unnamed
    refine Option.eq_none_iff_forall_ne_some.mpr fun value named => unnamed (String.ofList value) ?_
    rwa [← accessPointOption?_eq_some_iff, String.toList_ofList]

/-- Options without an access point leave the choice to the others. -/
theorem filterMap_accessPointOption?_eq_nil_iff : options.filterMap accessPointOption? = [] ↔
    ∀ option ∈ options, ∀ value, ¬Text.Parts '=' option "accesspoint" value := by
  rw [List.filterMap_eq_nil_iff]
  exact forall₂_congr fun _ _ => accessPointOption?_eq_none_iff

theorem accessPointNamed_iff : AccessPointNamed options value ↔ accessPointOfOptions options = value.toList := by
  constructor
  · rintro (⟨named, unnamed⟩ | unnamed)
    · rw [accessPointOfOptions, List.filterMap_append, List.filterMap_cons,
        accessPointOption?_eq_some_iff.mpr named, filterMap_accessPointOption?_eq_nil_iff.mpr unnamed]
      simp
    · rw [accessPointOfOptions, filterMap_accessPointOption?_eq_nil_iff.mpr unnamed]
      rfl
  · intro same
    rcases List.eq_nil_or_concat (options.filterMap accessPointOption?) with silent | ⟨others, last, listed⟩
    · rw [accessPointOfOptions, silent, List.getLast?_nil, Option.getD_none] at same
      obtain rfl : value = "" := String.toList_eq_nil_iff.mp same.symm
      exact .absent (filterMap_accessPointOption?_eq_nil_iff.mp silent)
    · rw [accessPointOfOptions, listed, List.concat_eq_append, List.getLast?_concat, Option.getD_some] at same
      rw [same, List.concat_eq_append] at listed
      obtain ⟨earlier, rest, rfl, -, ends⟩ := List.filterMap_eq_append_iff.mp listed
      obtain ⟨silent, option, later, rfl, -, named, unnamed⟩ := List.filterMap_eq_cons_iff.mp ends
      rw [← List.append_assoc]
      exact .last (accessPointOption?_eq_some_iff.mp named) (filterMap_accessPointOption?_eq_nil_iff.mp unnamed)

end Options

/-! ## Handles -/

section Handles

variable {handle fileSystem accessPoint : String} {options : List String}

theorem handleParts?_eq_some_iff :
    handleParts? handle.toList options = some (fileSystem.toList, accessPoint.toList) ↔
      HandleGives handle options fileSystem accessPoint := by
  constructor
  · intro parts
    rw [handleParts?] at parts
    split at parts
    · rename_i whole
      obtain ⟨same, named⟩ := Prod.mk.inj (Option.some.inj parts)
      obtain rfl := String.toList_inj.mp same
      exact .undivided (Text.divide?_eq_none_iff.mp whole) (accessPointNamed_iff.mpr named)
    · rename_i before rest first
      split at parts
      · cases parts
      · rename_i path after second
        obtain ⟨rfl, rfl⟩ := Prod.mk.inj (Option.some.inj parts)
        rw [← String.toList_ofList (l := rest)] at first second
        rw [← String.toList_ofList (l := path)] at second
        exact .divided (Text.parts_iff.mpr first) (Text.parts_iff.mpr second)
  · rintro (⟨whole, named⟩ | ⟨first, second⟩)
    · rw [handleParts?, Text.divide?_eq_none_iff.mpr whole, ← accessPointNamed_iff.mp named]
    · rw [handleParts?, Text.parts_iff.mp first]
      simp only [Text.parts_iff.mp second]

/-- Only a handle with a single colon has no parts. -/
theorem handleParts?_eq_none_iff : handleParts? handle.toList options = none ↔ handle.toList.count ':' = 1 := by
  cases first : Text.divide? ':' handle.toList with
  | none =>
    have free : handle.toList.count ':' = 0 := List.count_eq_zero.mpr (Text.divide?_eq_none_iff.mp first)
    simp [handleParts?, first, free]
  | some parts =>
    obtain ⟨before, rest⟩ := parts
    obtain ⟨whole, free⟩ := Text.divide?_eq_some_iff.mp first
    have counted : handle.toList.count ':' = rest.count ':' + 1 := by
      rw [whole, List.count_append, List.count_eq_zero.mpr free, List.count_cons_self, Nat.zero_add]
    rw [counted, Nat.add_eq_right, List.count_eq_zero, ← Text.divide?_eq_none_iff]
    cases second : Text.divide? ':' rest <;> simp only [handleParts?, first, second, reduceCtorEq]

theorem HandleGives.filled (gives : HandleGives handle options fileSystem accessPoint) (given : fileSystem ≠ "") :
    handle ≠ "" := by
  rintro rfl
  cases gives with
  | undivided => exact given rfl
  | divided first => simpa using first.whole

/-- The file system ends before the first colon. -/
theorem HandleGives.free (gives : HandleGives handle options fileSystem accessPoint) : ':' ∉ fileSystem.toList := by
  cases gives with
  | undivided whole => exact whole
  | divided first => exact first.first

end Handles

/-! ## Readings -/

section Readings

open SharedVolumeSpec

variable {volume : PersistentVolume} {handle : String} {options : List String}
  {result : Except HandleFault SharedVolumeSpec} {spec : SharedVolumeSpec}

/-- What the parts of a handle come to. -/
private theorem ofVolume_of_gives {fileSystem accessPoint : String} (sourced : Sourced volume handle options)
    (filled : handle ≠ "") (gives : HandleGives handle options fileSystem accessPoint) :
    ofVolume volume =
      if fileSystem = "" then .error .noFileSystem
      else if accessPoint = "" then .error .noAccessPoint
      else .ok { fileSystemId := fileSystem, accessPointId := accessPoint } := by
  obtain ⟨specified, sourced⟩ := sourced
  simp only [ofVolume, specified, sourced, filled, ↓reduceIte, handleParts?_eq_some_iff.mpr gives,
    String.toList_eq_nil_iff, String.ofList_toList]
  split
  · rfl
  · split <;> rfl

theorem Reading.eq (reading : Reading volume result) : ofVolume volume = result := by
  cases reading with
  | noCsiSource lacks =>
    cases given : volume.spec with
    | none => simp only [ofVolume, given]; rfl
    | some spec =>
      rw [given, Option.bind_some] at lacks
      simp only [ofVolume, given, lacks]
      rfl
  | emptyHandle sourced =>
    generalize empty : "" = handle at sourced
    obtain ⟨specified, sourced⟩ := sourced
    simp only [ofVolume, specified, sourced, ← empty]
    rfl
  | unparseable sourced single =>
    obtain @⟨spec, source, specified, sourced⟩ := sourced
    have filled : source.volumeHandle ≠ "" := by
      intro empty
      simp [empty] at single
    simp only [ofVolume, specified, sourced, filled, ↓reduceIte, handleParts?_eq_none_iff.mpr single]
    rfl
  | noFileSystem sourced filled gives => rw [ofVolume_of_gives sourced filled gives, if_pos rfl]
  | noAccessPoint sourced gives given =>
    rw [ofVolume_of_gives sourced (gives.filled given) gives, if_neg given, if_pos rfl]
  | identified sourced gives given named =>
    rw [ofVolume_of_gives sourced (gives.filled given) gives, if_neg given, if_neg named]

/-- Every volume is read as something. -/
theorem exists_reading (volume : PersistentVolume) : ∃ result, Reading volume result := by
  cases lacks : volume.spec.bind (·.csi) with
  | none => exact ⟨_, .noCsiSource lacks⟩
  | some source =>
    obtain ⟨spec, specified, sourced⟩ := Option.bind_eq_some_iff.mp lacks
    have sourced : Sourced volume source.volumeHandle (spec.mountOptions.getD []) := ⟨specified, sourced⟩
    revert sourced
    generalize source.volumeHandle = handle, spec.mountOptions.getD [] = options
    intro sourced
    cases divides : handleParts? handle.toList options with
    | none => exact ⟨_, .unparseable sourced (handleParts?_eq_none_iff.mp divides)⟩
    | some parts =>
      obtain ⟨fileSystem, accessPoint⟩ := parts
      have gives : HandleGives handle options (String.ofList fileSystem) (String.ofList accessPoint) := by
        rw [← handleParts?_eq_some_iff, String.toList_ofList, String.toList_ofList, divides]
      revert gives
      generalize String.ofList fileSystem = fileSystem, String.ofList accessPoint = accessPoint
      intro gives
      by_cases empty : handle = ""
      · exact ⟨_, .emptyHandle (empty ▸ sourced)⟩
      by_cases missing : fileSystem = ""
      · exact ⟨_, .noFileSystem sourced empty (missing ▸ gives)⟩
      by_cases unnamed : accessPoint = ""
      · exact ⟨_, .noAccessPoint sourced (unnamed ▸ gives) missing⟩
      · exact ⟨.ok ⟨fileSystem, accessPoint⟩, .identified sourced gives missing unnamed⟩

theorem SharedVolumeSpec.reading_iff : ofVolume volume = result ↔ Reading volume result := by
  constructor
  · obtain ⟨other, reading⟩ := exists_reading volume
    rintro rfl
    rwa [reading.eq]
  · exact Reading.eq

/-- What is read has both identifiers, and a colon may only be in the access point. -/
theorem SharedVolumeSpec.parts_of_ofVolume (reads : ofVolume volume = .ok spec) :
    spec.fileSystemId ≠ "" ∧ ':' ∉ spec.fileSystemId.toList ∧ spec.accessPointId ≠ "" := by
  cases reading_iff.mp reads with
  | identified sourced gives given named => exact ⟨given, gives.free, named⟩

end Readings

namespace SharedVolumeSpec

/-- A volume with a handle and mount options. -/
def mountedVolume (handle : String) (options : List String) : PersistentVolume where
  spec := some { csi := some { volumeHandle := handle }, mountOptions := some options }

theorem sourced_mountedVolume (handle : String) (options : List String) :
    Sourced (mountedVolume handle options) handle options :=
  @Sourced.intro (mountedVolume handle options) _ { volumeHandle := handle } rfl rfl

/-- A volume is read as its grammar says, for any result, and what is read from it are two identifiers, the first
without a colon. -/
theorem ofVolume_follows_grammar (volume : PersistentVolume) :
    (∀ result, ofVolume volume = result ↔ Reading volume result) ∧
      ∀ spec, ofVolume volume = .ok spec →
        spec.fileSystemId ≠ "" ∧ ':' ∉ spec.fileSystemId.toList ∧ spec.accessPointId ≠ "" :=
  ⟨fun _ => reading_iff, fun _ => parts_of_ofVolume⟩

/-- Of two options for the access point the later one counts, with all that follows its first equals sign; when it is
empty, there is no access point. -/
theorem ofVolume_follows_grammar_sample :
    ofVolume (mountedVolume "fs-1" ["accesspoint=fsap-1", "tls", "accesspoint=a=b"]) = .ok ⟨"fs-1", "a=b"⟩ ∧
      ("fs-1" ≠ "" ∧ ':' ∉ "fs-1".toList ∧ "a=b" ≠ "") ∧
      ofVolume (mountedVolume "fs-1" ["accesspoint=fsap-1", "tls", "accesspoint="]) = .error .noAccessPoint := by
  have gives (value : String) (last : Text.Parts '=' ("accesspoint=" ++ value) "accesspoint" value) :
      HandleGives "fs-1" ["accesspoint=fsap-1", "tls", "accesspoint=" ++ value] "fs-1" value :=
    .undivided (by decide) (@AccessPointNamed.last ["accesspoint=fsap-1", "tls"] [] _ _ last nofun)
  have named : ofVolume (mountedVolume "fs-1" ["accesspoint=fsap-1", "tls", "accesspoint=a=b"]) =
      .ok ⟨"fs-1", "a=b"⟩ :=
    ((ofVolume_follows_grammar _).1 _).mpr
      (.identified (sourced_mountedVolume _ _) (gives "a=b" ⟨by decide, by decide⟩) (by decide) (by decide))
  refine ⟨named, (ofVolume_follows_grammar _).2 _ named, ((ofVolume_follows_grammar _).1 _).mpr ?_⟩
  exact .noAccessPoint (sourced_mountedVolume _ _) (gives "" ⟨by decide, by decide⟩) (by decide)

end SharedVolumeSpec

end SharedMount
