import SharedMount.Reconcile.Interface

/-! # Reporting the status of a SharedVolume

A report is written only when it says something new. It goes through the status of the stored object,
so whatever else was changed in the copy at hand is not stored with it; the copy then becomes the
stored object. When the write fails the copy stays as it is.
-/

namespace SharedMount

/-- The kind that the reference from a SharedVolume to its claim names. -/
def claimReferenceKind : String := "PersistentVolumeClaim"

/-- The reference to the claim of a name; the empty group is that of the core kinds. -/
def claimReference (name : String) : ClaimReference where
  kind := claimReferenceKind
  name := name
  apiGroup := some ""

namespace PassM

/-- Store a status and take up what is stored. -/
def writeStatus (status : SharedVolumeStatus) : PassM Unit := do
  let shared ← get
  let updated := { shared with status := some status }
  set (← ofProgram (.onSharedVolumes (StoreProgram.replaceStatus updated)))

/-- Report a phase and a message; the reference to the claim stays. -/
def report (phase : Phase) (message : String) : PassM Unit := do
  let status := (← get).status.getD {}
  if status.phase = some phase ∧ status.message = message then return
  else writeStatus { status with phase := some phase, message }

/-- Report that a claim is ready, which goes without a message. -/
def reportReady (claimName : String) : PassM Unit := do
  let status := (← get).status.getD {}
  if status.phase = some .ready ∧ status.claimRef.map (·.name) = some claimName ∧
      status.message = "" then return
  else
    writeStatus { phase := some .ready, message := "", claimRef := some (claimReference claimName) }

/-- Report that something went wrong. The failure itself matters more than that of the report. -/
def reportFailure (message : String) : PassM Unit :=
  bestEffort (report .failed message)

end PassM

end SharedMount
