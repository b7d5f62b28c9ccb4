import SharedMount.Ownership
import SharedMount.Store.Call
import SharedMount.Upkeep.Comparison

/-! # Upkeep of one object

An `Upkeep` is charged with one object of the cluster: its identity, its definition, and the part of
it that has to be as defined. `establish` makes the stored object so, with one read and one write at
most; `withdraw` deletes it. Neither tries again after a failure, and a failure leaves the record of
the object last seen as it was.
-/

namespace SharedMount

/-- The charge of keeping one object as defined. -/
structure Upkeep (K : Type) where
  key : ObjectKey
  definition : K
  comparison : Comparison
  /-- The object as last written, or as last found to be as wanted. -/
  latest : Option K := none
deriving DecidableEq

namespace Upkeep

variable {K : Type} [Resource K]

/-- The object to be stored: the one last seen, or else the definition, with the labels of the
definition put back on. -/
def wanted (upkeep : Upkeep K) : K :=
  let labels := (Resource.metadata upkeep.definition).labelMap
  Resource.mapMetadata
    (fun metadata => { metadata with labels := some (metadata.labelMap.insertMany labels.toList) })
    (upkeep.latest.getD upkeep.definition)

/-- Whether a stored object may stay as it is. An object that lost the marker of the operator is
written again, so that events about it keep arriving. -/
def accepts (upkeep : Upkeep K) (stored : K) : Bool :=
  sameVersion upkeep.wanted stored ||
    (isManaged stored && upkeep.comparison.agree upkeep.wanted stored)

/-- Make the stored object as wanted: create it if it is missing, write over it if it differs. -/
def establish (upkeep : Upkeep K) : StoreProgram K (Upkeep K) := do
  match ← StoreProgram.get upkeep.key with
  | none =>
      let created ← StoreProgram.create (Resource.withVersion none upkeep.wanted)
      return { upkeep with latest := some created }
  | some stored =>
      if upkeep.accepts stored then return { upkeep with latest := some stored }
      else
        let version := Resource.version? stored
        let updated ← StoreProgram.replace (Resource.withVersion version upkeep.wanted)
        return { upkeep with latest := some updated }

/-- Delete the stored object; one that is missing, or goes missing meanwhile, is deleted. -/
def withdraw (upkeep : Upkeep K) : StoreProgram K (Upkeep K) := do
  match ← StoreProgram.get upkeep.key with
  | none => return { upkeep with latest := none }
  | some _ =>
      tryCatch (StoreProgram.delete upkeep.key) fun failure =>
        if failure.isNotFound then pure () else throw failure
      return { upkeep with latest := none }

end Upkeep

end SharedMount
