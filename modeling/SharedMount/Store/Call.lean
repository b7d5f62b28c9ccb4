import SharedMount.Failure
import SharedMount.Object.Resource
import SharedMount.Program

/-! # Calls to a store

A store keeps the objects of one kind. Reading tells absence apart from failure. A write answers with
the object as it is stored afterwards, with its new version; writing over an object is refused unless
the version sent is the version stored.
-/

namespace SharedMount

/-- The operations of a store. -/
inductive Operation where
  | get
  | create
  | replace
  | delete
  | replaceStatus
deriving DecidableEq, Inhabited, Repr

/-- A call to the store of one kind. -/
inductive StoreCall (K : Type) where
  /-- Fetch an object. -/
  | get (key : ObjectKey)
  /-- Store a new object; its version must be unset. -/
  | create (object : K)
  /-- Store an object over the present one, all but its status. -/
  | replace (object : K)
  /-- Delete an object. -/
  | delete (key : ObjectKey)
  /-- Store the status of an object, and nothing else of it. -/
  | replaceStatus (object : K)
deriving DecidableEq

namespace StoreCall

variable {K : Type}

/-- What a successful call gives. -/
def Value : StoreCall K → Type
  | get _ => Option K
  | create _ | replace _ | replaceStatus _ => K
  | delete _ => Unit

/-- What a call gives. -/
def Answer (call : StoreCall K) : Type :=
  Except Failure call.Value

/-- The operation of a call. -/
def operation : StoreCall K → Operation
  | get _ => .get
  | create _ => .create
  | replace _ => .replace
  | delete _ => .delete
  | replaceStatus _ => .replaceStatus

/-- The object that a call is about. -/
def key {M : Type} [ObjectMeta M] [ObjectKind K M] : StoreCall K → ObjectKey
  | get key | delete key => key
  | create object | replace object | replaceStatus object => Resource.key object

end StoreCall

/-- The interface of a store of one kind. -/
abbrev storeInterface (K : Type) : Interface where
  Call := StoreCall K
  Answer := StoreCall.Answer

/-- A program on the store of one kind that may fail. -/
abbrev StoreProgram (K α : Type) :=
  ExceptT Failure (Program (storeInterface K)) α

namespace StoreProgram

variable {K : Type}

/-- Fetch an object. -/
def get (key : ObjectKey) : StoreProgram K (Option K) :=
  Program.ask (I := storeInterface K) (.get key)

/-- Store a new object. -/
def create (object : K) : StoreProgram K K :=
  Program.ask (I := storeInterface K) (.create object)

/-- Store an object over the present one. -/
def replace (object : K) : StoreProgram K K :=
  Program.ask (I := storeInterface K) (.replace object)

/-- Delete an object. -/
def delete (key : ObjectKey) : StoreProgram K Unit :=
  Program.ask (I := storeInterface K) (.delete key)

/-- Store the status of an object. -/
def replaceStatus (object : K) : StoreProgram K K :=
  Program.ask (I := storeInterface K) (.replaceStatus object)

end StoreProgram

end SharedMount
