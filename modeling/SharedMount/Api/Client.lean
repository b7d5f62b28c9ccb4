import SharedMount.Api.Message
import SharedMount.Object.PersistentVolume
import SharedMount.Object.PersistentVolumeClaim
import SharedMount.Object.SharedVolume
import SharedMount.Store.Call

/-! # Store calls over the API

A call to a store becomes one request to the API server, and the response to it becomes the answer of
the call. The status of an object is replaced by a merge patch of its status document, which names the
version that the object was read at, so that the server refuses it if the object changed meanwhile.
-/

namespace SharedMount.Api

/-- Where the API server keeps the objects of a kind. -/
class Endpoint (K : Type) extends ObjectKind K Metadata where
  /-- The path of the API group and its version. -/
  root : String
  /-- The name of the kind in paths. -/
  plural : String
  /-- Whether objects of the kind live in namespaces. -/
  isNamespaced : Bool

instance : Endpoint SharedVolume where
  root := "/apis/aws-efs.managed.openshift.io/v1alpha1"
  plural := "sharedvolumes"
  isNamespaced := true

instance : Endpoint PersistentVolume where
  root := "/api/v1"
  plural := "persistentvolumes"
  isNamespaced := false

instance : Endpoint PersistentVolumeClaim where
  root := "/api/v1"
  plural := "persistentvolumeclaims"
  isNamespaced := true

/-- A connection to the API server. -/
structure Client where
  /-- The namespace of objects that name none. -/
  defaultNamespace : String := "default"

namespace Client

variable {K : Type} [Endpoint K]

/-- The path of all objects of a kind in a namespace. -/
def collectionPath (K : Type) [Endpoint K] (client : Client) (ns : Option String) : String :=
  if Endpoint.isNamespaced K then
    Endpoint.root K ++ "/namespaces/" ++ ns.getD client.defaultNamespace ++ "/" ++ Endpoint.plural K
  else Endpoint.root K ++ "/" ++ Endpoint.plural K

/-- The patch that replaces the status of an object, provided that its version is still the stored
one. An absent status or version is `null`, which removes the field. -/
def statusPatch (object : K) : Json :=
  let version := (Resource.version? object).map .str
  .obj
    [("metadata", .obj [("resourceVersion", version.getD .null)]),
      ("status", ((Resource.encode object).get? "status").getD .null)]

/-- The request for a target, unless a character in it is out of place. -/
def requestFor (method : Method) (target : String) (contentType : Option String)
    (body : Option Json) : Except ApiError Request :=
  match target? target with
  | some (path, query) => .ok { method, path, query, contentType, body }
  | none => .error .invalidPath

/-- The path of one object, which must have a name. -/
def objectPath (K : Type) [Endpoint K] (client : Client) (key : ObjectKey) :
    Except ApiError String :=
  if key.name = "" then .error .emptyName
  else .ok (client.collectionPath K key.ns ++ "/" ++ key.name)

/-- The request of a call. -/
def request (client : Client) (call : StoreCall K) : Except ApiError Request := do
  match call with
  | .get key => requestFor .get (← client.objectPath K key) none none
  | .create object =>
      let path := client.collectionPath K (Resource.key object).ns
      requestFor .post (path ++ "?") (some "application/json") (some (Resource.encode object))
  | .replace object =>
      let path ← client.objectPath K (Resource.key object)
      requestFor .put (path ++ "?") (some "application/json") (some (Resource.encode object))
  | .delete key =>
      let path ← client.objectPath K key
      requestFor .delete (path ++ "?") (some "application/json") (some (.obj []))
  | .replaceStatus object =>
      let path ← client.objectPath K (Resource.key object)
      requestFor .patch (path ++ "/status?") (some "application/merge-patch+json")
        (some (statusPatch object))

/-- The object in a response that is no error. -/
def objectIn (K : Type) [Endpoint K] (response : Response) : Except Failure K :=
  match response.body.document?.bind (Resource.decode? (K := K)) with
  | some object => .ok object
  | none => .error (.api .undecodable)

/-- What is told of a deleted object in a response that is no error: its last form, or a report that
it is gone. All of the document must be readable, since it is read as a whole to tell which of the two
it is. -/
def deletedIn (K : Type) [Endpoint K] (response : Response) : Except Failure (K ⊕ StatusReport) :=
  match response.body.document? with
  | none => .error (.api .undecodable)
  | some json =>
      if !json.isReadable Json.nestingLimit then .error (.api .undecodable)
      else if isStatusReport json then
        match StatusReport.decode? json with
        | some report => .ok (.inr report)
        | none => .error (.api .undecodable)
      else .inl <$> objectIn K response

/-- The failure that an error response tells of, about the object of a key. -/
def failureIn (K : Type) [Endpoint K] (key : ObjectKey) (response : Response) : Failure :=
  .ofApi (.response response.error) (Resource.kind K) key.name key.ns

/-- The answer to a call that a response gives. An object that is read and does not exist is told by
the reason of the error, whatever its code. -/
def answer (call : StoreCall K) (response : Response) : call.Answer :=
  match call with
  | .get key =>
      if response.isError then
        if response.error.reason = "NotFound" then (.ok none : Except Failure (Option K))
        else .error (failureIn K key response)
      else (some <$> objectIn K response : Except Failure (Option K))
  | .create object | .replace object | .replaceStatus object =>
      if response.isError then (.error (failureIn K (Resource.key object) response) : Except Failure K)
      else objectIn K response
  | .delete key =>
      if response.isError then (.error (failureIn K key response) : Except Failure Unit)
      else (discard (deletedIn K response) : Except Failure Unit)

end Client

end SharedMount.Api
