import SharedMount.Json.Basic
import SharedMount.Object.Key

/-! # What is asked of metadata

Metadata have a type and a codec of their own. Stores, comparisons and the documents of objects need little of them:
an identity, a version, finalizers, a time of deletion, and that they are written and read. `ObjectMeta` lists this.
Its laws say that the version and the time of deletion are parts like any others: what is put there is read from
there, and it makes no difference elsewhere. No law ties reading to writing.
-/

namespace SharedMount

/-- Metadata of objects, as far as stores and documents of objects look at them. -/
class ObjectMeta (M : Type) where
  /-- Points in time. -/
  Time : Type
  /-- Metadata that say nothing. -/
  blank : M
  key : M → ObjectKey
  version? : M → Option String
  withVersion : Option String → M → M
  finalizerList : M → List String
  deletionTime? : M → Option Time
  withDeletionTime : Option Time → M → M
  /-- Metadata as a document. -/
  encode : M → Json
  /-- The metadata that a document describes. -/
  decode? : Json → Option M
  /-- The point in time that a document gives. -/
  time? : Json → Option Time
  /-- The time at which stores mark objects as deleted. -/
  deletionMark : Time
  key_withVersion (version : Option String) (metadata : M) :
    key (withVersion version metadata) = key metadata := by intros; rfl
  version?_withVersion (version : Option String) (metadata : M) :
    version? (withVersion version metadata) = version := by intros; rfl
  withVersion_version? (metadata : M) : withVersion (version? metadata) metadata = metadata := by intros; rfl
  withVersion_withVersion (version later : Option String) (metadata : M) :
    withVersion later (withVersion version metadata) = withVersion later metadata := by intros; rfl
  key_withDeletionTime (time : Option Time) (metadata : M) :
    key (withDeletionTime time metadata) = key metadata := by intros; rfl
  version?_withDeletionTime (time : Option Time) (metadata : M) :
    version? (withDeletionTime time metadata) = version? metadata := by intros; rfl
  finalizerList_withDeletionTime (time : Option Time) (metadata : M) :
    finalizerList (withDeletionTime time metadata) = finalizerList metadata := by intros; rfl
  deletionTime?_withDeletionTime (time : Option Time) (metadata : M) :
    deletionTime? (withDeletionTime time metadata) = time := by intros; rfl
  withDeletionTime_deletionTime? (metadata : M) :
    withDeletionTime (deletionTime? metadata) metadata = metadata := by intros; rfl
  withDeletionTime_withDeletionTime (time later : Option Time) (metadata : M) :
    withDeletionTime later (withDeletionTime time metadata) = withDeletionTime later metadata := by intros; rfl
  time?_deletionMark : time? (.str "2024-01-01T00:00:00Z") = some deletionMark

end SharedMount
