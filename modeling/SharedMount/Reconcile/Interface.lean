import SharedMount.Roster

/-! # What the operator calls

While it works on a SharedVolume, the operator calls the stores of three kinds, and its own roster of
upkeep units, which passes for other SharedVolumes use as well. `PassM` is the form of its work: a
program with these calls that has a copy of the SharedVolume at hand and may fail. What became of the
copy is known after a failure, too.
-/

namespace SharedMount

/-- A call to the roster of upkeep units. -/
inductive RosterCall where
  /-- The unit for the volume of a SharedVolume. -/
  | volume (shared : SharedVolume) (settings : Settings)
  /-- The unit for the claim of a SharedVolume. -/
  | claim (shared : SharedVolume) (settings : Settings)
  /-- Record what the unit for the volume of an owner has seen. -/
  | recordVolume (owner : ObjectKey) (latest : Option PersistentVolume)
  /-- Record what the unit for the claim of an owner has seen. -/
  | recordClaim (owner : ObjectKey) (latest : Option PersistentVolumeClaim)
  /-- Drop both units of an owner. -/
  | dismiss (owner : ObjectKey)

/-- What the roster gives. -/
def RosterCall.Answer : RosterCall → Type
  | volume .. => Upkeep PersistentVolume
  | claim .. => Upkeep PersistentVolumeClaim
  | recordVolume .. | recordClaim .. | dismiss _ => Unit

/-- Answer a call to the roster. -/
def Roster.perform (call : RosterCall) (roster : Roster) : call.Answer × Roster :=
  match call with
  | .volume shared settings =>
      let (unit, roster) := roster.volume shared settings
      (unit.upkeep, roster)
  | .claim shared settings =>
      let (unit, roster) := roster.claim shared settings
      (unit.upkeep, roster)
  | .recordVolume owner latest => ((), { roster with volumes := roster.volumes.record owner latest })
  | .recordClaim owner latest => ((), { roster with claims := roster.claims.record owner latest })
  | .dismiss owner => ((), roster.dismiss owner)

/-- A call of the operator. -/
inductive OperatorCall where
  | sharedVolumes (call : StoreCall SharedVolume)
  | volumes (call : StoreCall PersistentVolume)
  | claims (call : StoreCall PersistentVolumeClaim)
  | roster (call : RosterCall)

/-- What a call of the operator gives. -/
def OperatorCall.Answer : OperatorCall → Type
  | sharedVolumes call => call.Answer
  | volumes call => call.Answer
  | claims call => call.Answer
  | roster call => call.Answer

/-- The interface that the operator works at. -/
abbrev operatorInterface : Interface where
  Call := OperatorCall
  Answer := OperatorCall.Answer

/-- Work of the operator that may fail. -/
abbrev OperatorProgram (α : Type) :=
  ExceptT Failure (Program operatorInterface) α

namespace OperatorProgram

variable {α : Type}

/-- Work on the store of SharedVolumes. -/
def onSharedVolumes (program : StoreProgram SharedVolume α) : OperatorProgram α :=
  Program.embed (I := storeInterface SharedVolume) OperatorCall.sharedVolumes
    (fun _ answer => answer) program.run

/-- Work on the store of volumes. -/
def onVolumes (program : StoreProgram PersistentVolume α) : OperatorProgram α :=
  Program.embed (I := storeInterface PersistentVolume) OperatorCall.volumes
    (fun _ answer => answer) program.run

/-- Work on the store of claims. -/
def onClaims (program : StoreProgram PersistentVolumeClaim α) : OperatorProgram α :=
  Program.embed (I := storeInterface PersistentVolumeClaim) OperatorCall.claims
    (fun _ answer => answer) program.run

/-- Ask the roster, which never fails. -/
def onRoster (call : RosterCall) : OperatorProgram call.Answer :=
  ExceptT.lift (Program.ask (I := operatorInterface) (.roster call))

end OperatorProgram

/-- Work of the operator with a SharedVolume at hand. -/
abbrev PassM (α : Type) :=
  ExceptT Failure (StateT SharedVolume (Program operatorInterface)) α

namespace PassM

variable {α : Type}

/-- Work that leaves the SharedVolume at hand alone. -/
def ofProgram (program : OperatorProgram α) : PassM α :=
  ExceptT.mk (StateT.lift program.run)

/-- Do a task with a SharedVolume at hand: the result, and the SharedVolume afterwards. -/
def perform (task : PassM α) (shared : SharedVolume) :
    Program operatorInterface (Except Failure α × SharedVolume) :=
  task.run.run shared

/-- Try a task; a failure of it becomes a value. -/
def attempt (task : PassM α) : PassM (Except Failure α) :=
  ExceptT.mk (Except.ok <$> task.run)

/-- Go on after an attempt only if it succeeded. -/
def ofResult (result : Except Failure α) : PassM α :=
  ExceptT.mk (pure result)

/-- Try a task whose failure does not matter. -/
def bestEffort (task : PassM Unit) : PassM Unit := do
  let _ ← task.attempt
  return ()

/-- A task whose failure is reported as another one. -/
def mapFailure (change : Failure → Failure) (task : PassM α) : PassM α :=
  ExceptT.mk (Except.mapError change <$> task.run)

/-- Write the SharedVolume with a change over the stored one and take up what is stored. -/
def replace (updated : SharedVolume) : PassM Unit := do
  set (← ofProgram (.onSharedVolumes (StoreProgram.replace updated)))

/-- Have the upkeep unit for the volume do something, and record what it saw. -/
def withVolumeUnit (settings : Settings)
    (work : Upkeep PersistentVolume → StoreProgram PersistentVolume (Upkeep PersistentVolume)) :
    PassM Unit := do
  let shared ← get
  let unit ← ofProgram (.onRoster (.volume shared settings))
  let unit ← ofProgram (.onVolumes (work unit))
  ofProgram (.onRoster (.recordVolume shared.key unit.latest))

/-- Have the upkeep unit for the claim do something, and record what it saw. -/
def withClaimUnit (settings : Settings)
    (work : Upkeep PersistentVolumeClaim →
      StoreProgram PersistentVolumeClaim (Upkeep PersistentVolumeClaim)) :
    PassM Unit := do
  let shared ← get
  let unit ← ofProgram (.onRoster (.claim shared settings))
  let unit ← ofProgram (.onClaims (work unit))
  ofProgram (.onRoster (.recordClaim shared.key unit.latest))

/-- Drop both upkeep units of an owner. -/
def dismiss (owner : ObjectKey) : PassM Unit :=
  ofProgram (.onRoster (.dismiss owner))

/-- Fetch the volume under a key. -/
def fetchVolume (key : ObjectKey) : PassM (Option PersistentVolume) :=
  ofProgram (.onVolumes (StoreProgram.get key))

end PassM

end SharedMount
