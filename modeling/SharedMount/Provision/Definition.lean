import SharedMount.Object.PersistentVolume
import SharedMount.Object.PersistentVolumeClaim
import SharedMount.Object.SharedVolume
import SharedMount.Ownership
import SharedMount.Provision.Settings

/-! # The volume and the claim of a SharedVolume

Names and contents of both objects follow from the SharedVolume and the settings, so that they can be
found again without a record. Volumes belong to the whole cluster, and their names therefore hold the
namespace of the owner. Different owners may share a volume name: `x/a-b` and `x-a/b` do.
-/

namespace SharedMount

/-- The name of the volume of an owner. -/
def volumeName (owner : ObjectKey) : String :=
  "pv-" ++ owner.ns.getD "" ++ "-" ++ owner.name

/-- The identity of the volume of an owner. -/
def volumeKey (owner : ObjectKey) : ObjectKey :=
  .cluster (volumeName owner)

/-- The identity of the claim of an owner, in the namespace of the owner. -/
def claimKey (owner : ObjectKey) : ObjectKey :=
  ⟨owner.ns, "pvc-" ++ owner.name⟩

/-- The size that volumes and claims give; the file system has none, but the form wants one. -/
def nominalSize : TextMap :=
  (∅ : TextMap).insert "storage" "1Gi"

/-- The handle by which the CSI driver finds an access point. -/
def volumeHandle (spec : SharedVolumeSpec) : String :=
  spec.fileSystemId ++ "::" ++ spec.accessPointId

/-- The spec of the volume of a SharedVolume. -/
def volumeSpec (spec : SharedVolumeSpec) (settings : Settings) : VolumeSpec where
  accessModes := some ["ReadWriteMany"]
  capacity := some nominalSize
  csi := some { driver := settings.csiDriver, volumeHandle := volumeHandle spec }
  reclaimPolicy := some "Retain"
  storageClassName := some settings.storageClass
  volumeMode := some "Filesystem"

/-- The volume of a SharedVolume. -/
def volumeDefinition (shared : SharedVolume) (settings : Settings) : PersistentVolume :=
  let volume : PersistentVolume :=
    { metadata := { name := some (volumeName shared.key) }
      spec := some (volumeSpec shared.spec settings) }
  markManaged (linkOwner volume shared.key)

/-- The spec of the claim of an owner. -/
def claimSpec (owner : ObjectKey) (settings : Settings) : ClaimSpec where
  accessModes := some ["ReadWriteMany"]
  resources := some { requests := some nominalSize }
  storageClassName := some settings.storageClass
  volumeMode := some "Filesystem"
  volumeName := some (volumeName owner)

/-- The claim of a SharedVolume. -/
def claimDefinition (shared : SharedVolume) (settings : Settings) : PersistentVolumeClaim :=
  let key := claimKey shared.key
  let claim : PersistentVolumeClaim :=
    { metadata := { name := some key.name, ns := key.ns }
      spec := some (claimSpec shared.key settings) }
  markManaged (linkOwner claim shared.key)

end SharedMount
