import SharedMount.CommandLine.Launch
import SharedMount.Main
import SharedMount.Object.ConfigMap
import SharedMount.Proofs.Api.StatusPatch
import SharedMount.Proofs.Codec.Comparison
import SharedMount.Proofs.Codec.NormalForm
import SharedMount.Proofs.Operator.Backoff
import SharedMount.Proofs.Provision.Linkage
import SharedMount.Proofs.Provision.VolumeNames
import SharedMount.Proofs.Reconcile.Reverting
import SharedMount.Proofs.Reconcile.Telling
import SharedMount.Proofs.Roster.FirstUse
import SharedMount.Proofs.Run.Collision
import SharedMount.Proofs.Run.Dependents
import SharedMount.Proofs.Run.Discipline
import SharedMount.Proofs.Run.Footprint
import SharedMount.Proofs.Run.Indifference
import SharedMount.Proofs.Run.Lifecycle
import SharedMount.Proofs.Run.Quiescence
import SharedMount.Proofs.Run.Reversion
import SharedMount.Proofs.Run.Rounds
import SharedMount.Proofs.Run.Routing
import SharedMount.Proofs.Run.Settling
import SharedMount.Proofs.Run.Trust
import SharedMount.Proofs.Store.Deletion
import SharedMount.Proofs.Store.Exactness
import SharedMount.Proofs.Upkeep.Dialogue
import SharedMount.Rehearsal.Timeline
