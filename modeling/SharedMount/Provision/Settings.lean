import SharedMount.Failure
import SharedMount.Text.Blank

/-! # Settings of generated volumes -/

namespace SharedMount

/-- What applies to every volume and claim: the CSI driver and the storage class. -/
structure Settings where
  csiDriver : String := "efs.csi.aws.com"
  storageClass : String := "efs-sc"
deriving DecidableEq, Inhabited, Repr

/-- Settings with both names, neither of which may be blank; the driver is looked at first. -/
def Settings.make (csiDriver storageClass : String) : Except Failure Settings :=
  if Text.isBlank csiDriver then
    .error (.invalidConfig "CSI driver name must not be empty")
  else if Text.isBlank storageClass then
    .error (.invalidConfig "storage class name must not be empty")
  else .ok { csiDriver, storageClass }

end SharedMount
