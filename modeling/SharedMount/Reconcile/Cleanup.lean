import SharedMount.Reconcile.Drift

/-! # Cleaning up after a SharedVolume

A SharedVolume that is being deleted stays until its claim and then its volume are removed, and the
operator takes back its finalizer. A volume that is labelled for another SharedVolume is left to that
one. The upkeep units are dropped even when the removal fails, so that a later SharedVolume of the
same identity starts from definitions of its own.
-/

namespace SharedMount.PassM

/-- Remove the claim and then the volume. -/
def removeDependents (settings : Settings) : PassM Unit := do
  withClaimUnit settings Upkeep.withdraw
  let shared ← get
  let volume ← fetchVolume (volumeKey shared.key)
  if (volume.bind (otherOwner? · shared)).isSome then return
  else withVolumeUnit settings Upkeep.withdraw

/-- A SharedVolume without the finalizer of the operator. -/
def withoutFinalizer (shared : SharedVolume) : SharedVolume :=
  let kept := shared.metadata.finalizers.map fun list => list.filter (· ≠ cleanupFinalizer)
  { shared with metadata := { shared.metadata with finalizers := kept } }

/-- Remove what depends on the SharedVolume and take the finalizer back; without the finalizer there
is nothing to do. -/
def cleanUp (settings : Settings) : PassM Unit := do
  let shared ← get
  if shared.hasFinalizer then
    let removed ← attempt (removeDependents settings)
    dismiss shared.key
    ofResult removed
    mapFailure (fun failure => .finalizer failure.message) (replace (withoutFinalizer shared))
  else return

end SharedMount.PassM
