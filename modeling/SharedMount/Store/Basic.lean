import SharedMount.Store.Call

/-! # Stores in memory

A `Store` holds the objects of one kind and follows the rules of the API server: every write gives the
object a new version, a write over an object must name its version, an object with finalizers is only
marked when it is deleted, and the status changes only through calls of its own. Operations can be
made to fail. Besides, objects can be edited behind the back of the interface, as users and other
controllers do.

An operation is a `StoreAction`: it works on the store step by step and may fail between two steps.
-/

namespace SharedMount

/-- How many writes were made through the interface. -/
structure WriteCounts where
  creates : Nat := 0
  updates : Nat := 0
  deletes : Nat := 0
  statusUpdates : Nat := 0
deriving DecidableEq, Inhabited, Repr

/-- The number of all writes. -/
def WriteCounts.total (counts : WriteCounts) : Nat :=
  counts.creates + counts.updates + counts.deletes + counts.statusUpdates

/-- The objects of one kind, with the last version given out. -/
structure Store (K : Type) where
  objects : Std.ExtTreeMap ObjectKey K := ∅
  version : Nat := 0
  writes : WriteCounts := {}
  failing : Operation → Bool := fun _ => false

instance {K : Type} : Inhabited (Store K) := ⟨{}⟩

/-- The name of an operation in the text of a failure made on purpose. -/
def Operation.faultName : Operation → String
  | get => "Get"
  | create => "Create"
  | replace => "Replace"
  | delete => "Delete"
  | replaceStatus => "ReplaceStatus"

/-- A computation on a store that may fail. What it has changed until then stays changed. -/
abbrev StoreAction (K α : Type) :=
  ExceptT Failure (StateM (Store K)) α

namespace Store

variable {K : Type}

/-- The stored object under a key. -/
def object? (store : Store K) (key : ObjectKey) : Option K :=
  store.objects[key]?

/-- The number of stored objects. -/
def size (store : Store K) : Nat :=
  store.objects.size

/-- Make an operation fail from now on. -/
def fail (operation : Operation) (store : Store K) : Store K :=
  { store with failing := fun other => other = operation || store.failing other }

/-- Let an operation work again. -/
def heal (operation : Operation) (store : Store K) : Store K :=
  { store with failing := fun other => other ≠ operation && store.failing other }

/-- Start counting writes anew. -/
def resetWrites (store : Store K) : Store K :=
  { store with writes := {} }

/-- Whether an operation works at the moment. -/
def check (operation : Operation) (store : Store K) : Except Failure Unit :=
  if store.failing operation then
    .error (.internal ("injected " ++ operation.faultName ++ " failure"))
  else .ok ()

/-- The store with an object under a key and its next version used up. -/
def put (key : ObjectKey) (object : K) (store : Store K) : Store K :=
  { store with objects := store.objects.insert key object, version := store.version + 1 }

/-- Putting an object changes what is stored under its key and under no other. -/
theorem object?_put (key other : ObjectKey) (object : K) (store : Store K) :
    (store.put key object).object? other =
      if key = other then some object else store.object? other := by
  simp [put, object?, Std.ExtTreeMap.getElem?_insert]

/-- Take the object under a key away, without a call of the interface. -/
def remove (key : ObjectKey) (store : Store K) : Store K :=
  { store with objects := store.objects.erase key }

/-- Taking an object away changes what is stored under its key and under no other. -/
theorem object?_remove (key other : ObjectKey) (store : Store K) :
    (store.remove key).object? other = if key = other then none else store.object? other := by
  simp [remove, object?, Std.ExtTreeMap.getElem?_erase]

/-! ## Steps of an operation -/

section Steps

/-- Go on only if an operation works at the moment. -/
def permit (operation : Operation) : StoreAction K Unit := do
  MonadExcept.ofExcept ((← getThe (Store K)).check operation)

/-- Use up the next version. -/
def takeVersion : StoreAction K String := do
  modify fun store => { store with version := store.version + 1 }
  return toString (← getThe (Store K)).version

/-- Count a write. -/
def count (counted : WriteCounts → WriteCounts) : StoreAction K Unit :=
  modify fun store => { store with writes := counted store.writes }

/-- Have an object under a key. -/
def file (key : ObjectKey) (object : K) : StoreAction K Unit :=
  modify fun store => { store with objects := store.objects.insert key object }

/-- Have nothing under a key. -/
def discard (key : ObjectKey) : StoreAction K Unit :=
  modify (remove key)

/-- Change the object that is under a key, if there is one. -/
def alter (key : ObjectKey) (edit : K → K) : StoreAction K Unit := do
  if let some object := (← getThe (Store K)).object? key then file key (edit object)

/-- What a computation gives, and the store after it. -/
def execute {α : Type} (action : StoreAction K α) (store : Store K) : Except Failure α × Store K :=
  action.run.run store

end Steps

section Resource

variable {M : Type} [ObjectMeta M] [ObjectKind K M]

/-- The next version of the store as the version of an object. -/
def stamp (store : Store K) (object : K) : K :=
  Resource.withVersion (some (toString (store.version + 1))) object

/-- Place an object under its identity, without a call of the interface. -/
def insert (object : K) (store : Store K) : K × Store K :=
  let stored := store.stamp object
  (stored, store.put (Resource.key stored) stored)

/-- Change the object under a key, if there is one, without a call of the interface. The next version
is used up in any case, and the object stays under its key whatever becomes of its identity. -/
def mutate (key : ObjectKey) (edit : K → K) (store : Store K) : Store K :=
  match store.object? key with
  | some object => store.put key (store.stamp (edit object))
  | none => { store with version := store.version + 1 }

/-- The failure to find an object of this kind. -/
def notFound (K : Type) {M : Type} [ObjectKind K M] (key : ObjectKey) : Failure :=
  .missing (Resource.kind K) key.name key.ns

/-- The failure to write an object of this kind. -/
def conflict (K : Type) {M : Type} [ObjectKind K M] (key : ObjectKey) (reason : String) : Failure :=
  .conflict (Resource.kind K) key.name reason

/-- The present form of an object, provided that it has the version of the object sent. -/
def current (object : K) (store : Store K) : Except Failure K :=
  match store.object? (Resource.key object) with
  | none => .error (notFound K (Resource.key object))
  | some present =>
      if Resource.version? object = Resource.version? present then .ok present
      else .error (conflict K (Resource.key object) "the object has been modified")

/-- One object with the status of another, which travels in its document. -/
def withStatusOf (object source : K) : Except Failure K :=
  let status := (Resource.encode source).get? "status"
  match Resource.decode? ((Resource.encode object).exchange "status" status) with
  | some object => .ok object
  | none => .error (.serialization "the status does not fit the object")

/-- Fetch an object. -/
def get (key : ObjectKey) (store : Store K) : Except Failure (Option K) := do
  store.check .get
  return store.object? key

/-- The present form of an object, to be written over. -/
def fetch (object : K) : StoreAction K K := do
  MonadExcept.ofExcept ((← getThe (Store K)).current object)

/-- The time at which objects are marked as deleted. -/
def deletionTime (K : Type) {M : Type} [ObjectMeta M] [ObjectKind K M] : StoreAction K (ObjectMeta.Time M) :=
  match ObjectMeta.time? (.str "2024-01-01T00:00:00Z") with
  | some time => return time
  | none => throw (.serialization "the time of deletion is no point in time")

/-- Store a new object. -/
def create (object : K) : StoreAction K K := do
  permit .create
  let key := Resource.key object
  if (Resource.version? object).isSome then
    throw (.internal "resourceVersion should not be set on objects to be created")
  if ((← getThe (Store K)).object? key).isSome then throw (conflict K key "already exists")
  let stored := Resource.withVersion (some (← takeVersion)) object
  file key stored
  count fun writes => { writes with creates := writes.creates + 1 }
  return stored

/-- Store an object over the present one. Status and deletion mark stay as they are, and an object
that is marked for deletion goes away when no finalizer is left. -/
def replace (object : K) : StoreAction K K := do
  permit .replace
  let key := Resource.key object
  let present ← fetch object
  let merged ← MonadExcept.ofExcept (withStatusOf object present)
  let merged := Resource.withDeletionTime (Resource.deletionTime? present) merged
  count fun writes => { writes with updates := writes.updates + 1 }
  if (Resource.deletionTime? merged).isSome && (Resource.finalizerList merged).isEmpty then
    discard key
    return merged
  else
    let stored := Resource.withVersion (some (← takeVersion)) merged
    file key stored
    return stored

/-- Delete an object: one with finalizers is marked, any other goes away. -/
def delete (key : ObjectKey) : StoreAction K Unit := do
  permit .delete
  let some present := (← getThe (Store K)).object? key | throw (notFound K key)
  count fun writes => { writes with deletes := writes.deletes + 1 }
  if (Resource.finalizerList present).isEmpty then discard key
  else
    let time ← deletionTime K
    let version ← takeVersion
    alter key fun object => Resource.withVersion (some version) (Resource.withDeletionTime (some time) object)

/-- Store the status of an object; all else stays as it is. -/
def replaceStatus (object : K) : StoreAction K K := do
  permit .replaceStatus
  let key := Resource.key object
  let present ← fetch object
  let merged ← MonadExcept.ofExcept (withStatusOf present object)
  let stored := Resource.withVersion (some (← takeVersion)) merged
  file key stored
  count fun writes => { writes with statusUpdates := writes.statusUpdates + 1 }
  return stored

/-- Answer a call. -/
def perform (call : StoreCall K) (store : Store K) : call.Answer × Store K :=
  match call with
  | .get key => (store.get key, store)
  | .create object => store.execute (α := K) (create object)
  | .replace object => store.execute (α := K) (replace object)
  | .delete key => store.execute (α := Unit) (delete key)
  | .replaceStatus object => store.execute (α := K) (replaceStatus object)

/-- What a change of a store did: the new or changed objects in the order of their keys, and then the
keys whose objects are gone. Objects count as changed when their documents differ. -/
def changes (before after : Store K) : List (ObjectKey × Option K) :=
  let changed := after.objects.toList.filter fun (key, object) =>
    (before.object? key).map Resource.encode ≠ some (Resource.encode object)
  let gone := before.objects.keys.filter fun key => !after.objects.contains key
  changed.map (fun (key, object) => (key, some object)) ++ gone.map (fun key => (key, none))

end Resource

end Store

end SharedMount
