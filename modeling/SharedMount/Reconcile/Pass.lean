import SharedMount.Reconcile.Cleanup

/-! # A pass over a SharedVolume

A pass brings one SharedVolume a step closer to what it asks for. It writes to the SharedVolume at
most once before it asks to be run again, so that it can be broken off and taken up at any point:
first edits of the spec are reverted, then the finalizer is registered, then the first phase is
reported. Only then are the volume and the claim established and the SharedVolume reported ready.
-/

namespace SharedMount

/-- What is to be done after a pass that succeeded. -/
inductive Verdict where
  /-- Nothing, until something changes. -/
  | settled
  /-- Another pass at once: the SharedVolume was written. -/
  | again
deriving DecidableEq, Inhabited, Repr

namespace PassM

/-- A SharedVolume with the finalizer of the operator added. -/
def withFinalizer (shared : SharedVolume) : SharedVolume :=
  let finalizers := some (shared.metadata.finalizerList ++ [cleanupFinalizer])
  { shared with metadata := { shared.metadata with finalizers } }

/-- Register for cleanup; tells whether the SharedVolume was written. -/
def registerCleanup : PassM Bool := do
  let shared ← get
  if shared.hasFinalizer then return false
  else
    replace (withFinalizer shared)
    return true

/-- Establish the volume and then the claim. -/
def provision (settings : Settings) : PassM Unit := do
  withVolumeUnit settings Upkeep.establish
  withClaimUnit settings Upkeep.establish

/-- Work on a SharedVolume that is being deleted, whether or not the report of it succeeds. -/
def retire (settings : Settings) : PassM Verdict := do
  bestEffort (report .deleting "")
  cleanUp settings
  return .settled

/-- Establish what a registered SharedVolume asks for, and report how it went. -/
def serve (settings : Settings) : PassM Verdict := do
  let shared ← get
  match shared.spec.faultText? with
  | some message =>
      reportFailure message
      throw (.validation message)
  | none =>
      match ← attempt (provision settings) with
      | .error failure =>
          reportFailure failure.message
          throw failure
      | .ok () =>
          reportReady (claimKey shared.key).name
          return .settled

/-- Work on a SharedVolume that is to stay. -/
def advance (settings : Settings) : PassM Verdict := do
  if ← revertDrift then return .again
  else if ← registerCleanup then return .again
  else if (← get).phase?.isNone then
    report .pending ""
    return .again
  else serve settings

/-- Work on the SharedVolume at hand. -/
def pass (settings : Settings) : PassM Verdict := do
  if (← get).isDeleting then retire settings
  else advance settings

end PassM

/-- One pass over the SharedVolume of a key. When it is gone, its upkeep units go, too. -/
def reconcile (settings : Settings) (key : ObjectKey) : OperatorProgram Verdict := do
  match ← OperatorProgram.onSharedVolumes (StoreProgram.get key) with
  | none =>
      OperatorProgram.onRoster (.dismiss key)
      return .settled
  | some shared => ExceptT.mk (Prod.fst <$> (PassM.pass settings).perform shared)

end SharedMount
