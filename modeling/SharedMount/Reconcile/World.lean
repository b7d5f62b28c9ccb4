import SharedMount.Reconcile.Pass
import SharedMount.Store.Basic

/-! # The world of the operator

A `World` holds the stores of the three kinds in memory and the roster of upkeep units. Performing
the calls of a program in it, one after the other, is running the program without interference.
-/

namespace SharedMount

/-- The stores of the cluster, and the roster of the operator. -/
structure World where
  sharedVolumes : Store SharedVolume := {}
  volumes : Store PersistentVolume := {}
  claims : Store PersistentVolumeClaim := {}
  roster : Roster := {}

instance : Inhabited World := ⟨{}⟩

namespace World

/-- Answer a call of the operator. -/
def perform (call : OperatorCall) : StateM World call.Answer := fun world =>
  match call with
  | .sharedVolumes call =>
      let (answer, sharedVolumes) := world.sharedVolumes.perform call
      (answer, { world with sharedVolumes })
  | .volumes call =>
      let (answer, volumes) := world.volumes.perform call
      (answer, { world with volumes })
  | .claims call =>
      let (answer, claims) := world.claims.perform call
      (answer, { world with claims })
  | .roster call =>
      let (answer, roster) := world.roster.perform call
      (answer, { world with roster })

/-- The result of a program and the world after it, when nothing interferes. -/
def run {α : Type} (program : OperatorProgram α) (world : World) : Except Failure α × World :=
  (Program.run perform program.run).run world

/-- The result of a pass and the world after it, when nothing interferes. -/
def reconcile (settings : Settings) (key : ObjectKey) (world : World) :
    Except Failure Verdict × World :=
  world.run (SharedMount.reconcile settings key)

end World

end SharedMount
