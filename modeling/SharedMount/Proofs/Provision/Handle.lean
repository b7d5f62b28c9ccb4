import SharedMount.Proofs.Provision.Grammar
import SharedMount.Provision.Definition

/-! # Reading back what a volume was made for

The volume of a SharedVolume is read as its spec exactly when the file system and the access point are given and the
file system has no colon, which would be taken for the end of it. A spec without faults is of this kind. What is read
from any volume can be written in the same form, so it reads back as well.
-/

namespace SharedMount

namespace SharedVolumeSpec

theorem ofVolume_congr {volume other : PersistentVolume} (same : volume.spec = other.spec) :
    ofVolume volume = ofVolume other := by
  rw [ofVolume, ofVolume, same]

/-- A spec is read from every volume with its handle, whatever the mount options are. -/
theorem ofVolume_of_handle {volume : PersistentVolume} {spec : SharedVolumeSpec} {options : List String}
    (sourced : Sourced volume (volumeHandle spec) options) (given : spec.fileSystemId ≠ "")
    (free : ':' ∉ spec.fileSystemId.toList) (named : spec.accessPointId ≠ "") : ofVolume volume = .ok spec := by
  have first : Text.Parts ':' (volumeHandle spec) spec.fileSystemId (":" ++ spec.accessPointId) :=
    ⟨by simp [volumeHandle], free⟩
  have second : Text.Parts ':' (":" ++ spec.accessPointId) "" spec.accessPointId := ⟨by simp, by simp⟩
  exact reading_iff.mpr (.identified sourced (.divided first second) given named)

theorem faultText?_eq_none_iff {spec : SharedVolumeSpec} : spec.faultText? = none ↔
    isAccessPointId spec.accessPointId = true ∧ isFileSystemId spec.fileSystemId = true := by
  cases accessPoint : isAccessPointId spec.accessPointId <;>
    cases fileSystem : isFileSystemId spec.fileSystemId <;>
    simp [faultText?, faults, accessPoint, fileSystem]

end SharedVolumeSpec

/-- An identifier is its lead and some hexadecimal digits. -/
theorem isIdentifier_iff {lead : List Char} {identifier : String} :
    isIdentifier lead identifier = true ↔
      ∃ digits, identifier.toList = lead ++ digits ∧ digits ≠ [] ∧ ∀ c ∈ digits, isHexDigit c = true := by
  simp only [isIdentifier, Bool.and_eq_true, List.isPrefixOf_iff_prefix, Bool.not_eq_eq_eq_not,
    Bool.not_true, List.isEmpty_eq_false_iff, List.all_eq_true]
  constructor
  · rintro ⟨⟨⟨digits, split⟩, some⟩, hex⟩
    rw [← split, List.drop_left] at some hex
    exact ⟨digits, split.symm, some, hex⟩
  · rintro ⟨digits, split, some, hex⟩
    rw [split, List.drop_left]
    exact ⟨⟨⟨digits, rfl⟩, some⟩, hex⟩

theorem isHexDigit_iff {c : Char} : isHexDigit c = true ↔ c ∈ "0123456789abcdef".toList := by
  constructor
  · intro digit
    have bounds : 48 ≤ c.toNat ∧ c.toNat ≤ 57 ∨ 97 ≤ c.toNat ∧ c.toNat ≤ 102 := by
      rw [isHexDigit, Bool.or_eq_true, Bool.and_eq_true, Bool.and_eq_true] at digit
      simp only [decide_eq_true_eq] at digit
      exact digit
    have listed : ∀ n < 103, 48 ≤ n ∧ n ≤ 57 ∨ 97 ≤ n ∧ n ≤ 102 →
        Char.ofNat n ∈ "0123456789abcdef".toList := by
      decide
    have member := listed c.toNat (by omega) bounds
    rwa [Char.ofNat_toNat] at member
  · intro digit
    have digits : "0123456789abcdef".toList.all isHexDigit = true := by decide
    exact List.all_eq_true.mp digits c digit

theorem isIdentifier_ne_empty {lead : List Char} {identifier : String}
    (formed : isIdentifier lead identifier = true) : identifier ≠ "" := by
  rintro rfl
  obtain ⟨digits, split, some, -⟩ := isIdentifier_iff.mp formed
  exact some (List.append_eq_nil_iff.mp split.symm).2

namespace SharedVolumeSpec

/-- A spec without faults is read back from the volume that is made for it. -/
theorem ofVolume_of_valid {volume : PersistentVolume} {spec : SharedVolumeSpec} {settings : Settings}
    (made : volume.spec = some (volumeSpec spec settings)) (valid : spec.faultText? = none) :
    ofVolume volume = .ok spec := by
  obtain ⟨accessPoint, fileSystem⟩ := faultText?_eq_none_iff.mp valid
  refine ofVolume_of_handle ⟨made, rfl⟩ (isIdentifier_ne_empty fileSystem) ?_ (isIdentifier_ne_empty accessPoint)
  obtain ⟨digits, split, -, hex⟩ := isIdentifier_iff.mp fileSystem
  rw [split, List.mem_append]
  rintro (lead | digit)
  · exact absurd lead (by decide)
  · exact absurd (hex ':' digit) (by decide)

/-- An identifier is a lead, one or more of the digits 0 to 9 and a to f, and nothing else. -/
def Formed (lead identifier : String) : Prop :=
  ∃ digits : List Char, identifier.toList = lead.toList ++ digits ∧ digits ≠ [] ∧
    ∀ c ∈ digits, c ∈ "0123456789abcdef".toList

theorem faultText?_eq_none_iff_formed {spec : SharedVolumeSpec} : spec.faultText? = none ↔
    Formed "fs-" spec.fileSystemId ∧ Formed "fsap-" spec.accessPointId := by
  simp only [faultText?_eq_none_iff, isAccessPointId, isFileSystemId, isIdentifier_iff, isHexDigit_iff, Formed,
    and_comm]

/-- The volume of a SharedVolume is read as its spec exactly when both identifiers are given and the file system has
no colon, so in particular when the spec is without faults, that is, when both identifiers are well formed. And what
is read from any volume, of whatever form, is read from every volume with the handle of that form. -/
theorem volumeDefinition_reads_back (shared : SharedVolume) (settings : Settings) :
    (ofVolume (volumeDefinition shared settings) = .ok shared.spec ↔
      shared.spec.fileSystemId ≠ "" ∧ ':' ∉ shared.spec.fileSystemId.toList ∧ shared.spec.accessPointId ≠ "") ∧
    (shared.spec.faultText? = none → ofVolume (volumeDefinition shared settings) = .ok shared.spec) ∧
    (shared.spec.faultText? = none ↔
      Formed "fs-" shared.spec.fileSystemId ∧ Formed "fsap-" shared.spec.accessPointId) ∧
    ∀ volume spec, ofVolume volume = .ok spec → ∀ other options,
      Sourced other (spec.fileSystemId ++ "::" ++ spec.accessPointId) options → ofVolume other = .ok spec := by
  have made : (volumeDefinition shared settings).spec = some (volumeSpec shared.spec settings) := rfl
  refine ⟨⟨parts_of_ofVolume, ?_⟩, ofVolume_of_valid made, faultText?_eq_none_iff_formed, ?_⟩
  · rintro ⟨given, free, named⟩
    exact ofVolume_of_handle ⟨made, rfl⟩ given free named
  · intro volume spec reads other options sourced
    obtain ⟨given, free, named⟩ := parts_of_ofVolume reads
    exact ofVolume_of_handle sourced given free named

/-- What is read from a handle with a path and further colons is read from one without the path, even if the mount
options name another access point; and the volume for a well-formed spec reads back. -/
theorem volumeDefinition_reads_back_sample :
    ofVolume (volumeDefinition { metadata := {}, spec := ⟨"fs-0a", "fsap-9f"⟩ } {}) = .ok ⟨"fs-0a", "fsap-9f"⟩ ∧
      ofVolume (mountedVolume "fs-1:/data:a:b" []) = .ok ⟨"fs-1", "a:b"⟩ ∧
      ofVolume (mountedVolume "fs-1::a:b" ["accesspoint=c"]) = .ok ⟨"fs-1", "a:b"⟩ := by
  obtain ⟨-, valid, -, again⟩ := volumeDefinition_reads_back { metadata := {}, spec := ⟨"fs-0a", "fsap-9f"⟩ } {}
  have first : Text.Parts ':' "fs-1:/data:a:b" "fs-1" "/data:a:b" := ⟨by decide, by decide⟩
  have second : Text.Parts ':' "/data:a:b" "/data" "a:b" := ⟨by decide, by decide⟩
  have reads : ofVolume (mountedVolume "fs-1:/data:a:b" []) = .ok ⟨"fs-1", "a:b"⟩ :=
    reading_iff.mpr (.identified (sourced_mountedVolume _ _) (.divided first second) (by decide) (by decide))
  have canonical : Sourced (mountedVolume "fs-1::a:b" ["accesspoint=c"]) ("fs-1" ++ "::" ++ "a:b")
      ["accesspoint=c"] := by
    rw [show "fs-1" ++ "::" ++ "a:b" = "fs-1::a:b" by decide]
    exact sourced_mountedVolume _ _
  exact ⟨valid (by decide +kernel), reads, again _ _ reads _ _ canonical⟩

end SharedVolumeSpec

end SharedMount
