import SharedMount.Object.PersistentVolume
import SharedMount.Object.SharedVolume
import SharedMount.Text.Divide

/-! # Identifiers of access points

A volume encodes what it mounts in its CSI handle: the file system, a path that is ignored, and the
access point, separated by colons. In an older form the handle is the file system alone, and a mount
option names the access point. `SharedVolumeSpec.ofVolume` reads both forms. Besides, this module
tells which identifiers a SharedVolume may ask for.
-/

namespace SharedMount

/-- Why no identifiers can be read from a volume. -/
inductive HandleFault where
  | noCsiSource
  | emptyHandle
  | unparseable (handle : String)
  | noFileSystem
  | noAccessPoint
deriving DecidableEq, Inhabited, Repr

/-- The text of a fault. -/
def HandleFault.message : HandleFault → String
  | noCsiSource => "volume has no CSI source"
  | emptyHandle => "volume handle is empty"
  | unparseable handle => "cannot parse volume handle '" ++ handle ++ "'"
  | noFileSystem => "volume handle has no file system ID"
  | noAccessPoint => "volume has no access point ID"

/-- The value of a mount option `accesspoint=value`; any other option has none. -/
def accessPointOption? (option : String) : Option (List Char) :=
  match Text.divide? '=' option.toList with
  | some (key, value) => if key = "accesspoint".toList then some value else none
  | none => none

/-- The access point that mount options name: the last such option counts. -/
def accessPointOfOptions (options : List String) : List Char :=
  (options.filterMap accessPointOption?).getLast?.getD []

/-- The parts of a handle, or nothing when it has exactly one colon. -/
def handleParts? (handle : List Char) (options : List String) : Option (List Char × List Char) :=
  match Text.divide? ':' handle with
  | none => some (handle, accessPointOfOptions options)
  | some (fileSystem, rest) =>
      match Text.divide? ':' rest with
      | none => none
      | some (_, accessPoint) => some (fileSystem, accessPoint)

namespace SharedVolumeSpec

/-- The file system and the access point that a volume mounts. -/
def ofVolume (volume : PersistentVolume) : Except HandleFault SharedVolumeSpec := do
  let some spec := volume.spec | throw .noCsiSource
  let some source := spec.csi | throw .noCsiSource
  let handle := source.volumeHandle
  if handle = "" then throw .emptyHandle
  let some (fileSystem, accessPoint) := handleParts? handle.toList (spec.mountOptions.getD [])
    | throw (.unparseable handle)
  if fileSystem = [] then throw .noFileSystem
  if accessPoint = [] then throw .noAccessPoint
  return { fileSystemId := String.ofList fileSystem, accessPointId := String.ofList accessPoint }

end SharedVolumeSpec

/-- Whether a character is a lower-case hexadecimal digit. -/
def isHexDigit (c : Char) : Bool :=
  ('0' ≤ c && c ≤ '9') || ('a' ≤ c && c ≤ 'f')

/-- Whether an identifier is a lead followed by one or more hexadecimal digits. -/
def isIdentifier (lead : List Char) (identifier : String) : Bool :=
  let digits := identifier.toList.drop lead.length
  lead.isPrefixOf identifier.toList && !digits.isEmpty && digits.all isHexDigit

/-- Whether an identifier has the form of a file system. -/
def isFileSystemId (identifier : String) : Bool :=
  isIdentifier "fs-".toList identifier

/-- Whether an identifier has the form of an access point. -/
def isAccessPointId (identifier : String) : Bool :=
  isIdentifier "fsap-".toList identifier

namespace SharedVolumeSpec

/-- What is wrong with a spec, the access point first; nothing if both identifiers are well formed. -/
def faults (spec : SharedVolumeSpec) : List String :=
  (if isAccessPointId spec.accessPointId then []
    else ["access_point_id: '" ++ spec.accessPointId ++ "' is not a valid EFS access point ID"]) ++
  (if isFileSystemId spec.fileSystemId then []
    else ["file_system_id: '" ++ spec.fileSystemId ++ "' is not a valid EFS file system ID"])

/-- All that is wrong with a spec in one text, or nothing if it is well formed. -/
def faultText? (spec : SharedVolumeSpec) : Option String :=
  if spec.faults = [] then none else some ("; ".intercalate spec.faults)

end SharedVolumeSpec

end SharedMount
