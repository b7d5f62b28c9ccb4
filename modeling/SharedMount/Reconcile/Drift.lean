import SharedMount.Provision.AccessPoint
import SharedMount.Reconcile.Status

/-! # Reverting drift of the spec

Once the volume of a SharedVolume exists, the spec has to stay as the volume was made. Edits are
reverted to the identifiers that the volume encodes. Without a volume the spec is trusted, and a
volume that cannot be read holds nothing up. A volume that is labelled for another SharedVolume is a
collision of names: nothing is reverted and the pass fails.
-/

namespace SharedMount

/-- The owner that a volume is labelled for, if it is another SharedVolume. -/
def otherOwner? (volume : PersistentVolume) (shared : SharedVolume) : Option ObjectKey :=
  (owner? volume).filter (· ≠ shared.key)

/-- What is said of a volume that is labelled for another SharedVolume. -/
def collisionText (volume owner : ObjectKey) : String :=
  "volume " ++ volume.display ++ " already belongs to SharedVolume " ++ owner.display

/-- Bring the spec back to what the volume encodes; tells whether the SharedVolume was written. -/
def PassM.revertDrift : PassM Bool := do
  let shared ← get
  let key := volumeKey shared.key
  match ← fetchVolume key with
  | none => return false
  | some volume =>
      match otherOwner? volume shared with
      | some other =>
          reportFailure (collisionText key other)
          throw (.reconcileFailed (collisionText key other))
      | none =>
          match SharedVolumeSpec.ofVolume volume with
          | .error _ => return false
          | .ok spec =>
              if shared.spec = spec then return false
              else
                replace { shared with spec }
                return true

end SharedMount
