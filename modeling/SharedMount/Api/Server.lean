import SharedMount.Api.Client
import SharedMount.Rehearsal.Basic

/-! # An API server on a rehearsal

Requests are routed to the benches of a rehearsal by their path. The namespace of the path counts, not
that of the object in the body. Failures are told by status codes: 404 for an object that does not
exist, 409 for a conflict, and 500 for anything else, so that some failures look different to the
client from what they are.
-/

namespace SharedMount.Api

/-- What the path of a request names. -/
structure Route where
  plural : String
  ns : Option String
  /-- The name of the object, if the path names one. -/
  name : Option String
  /-- Whether the path names the status of the object. -/
  isStatus : Bool := false
deriving DecidableEq, Inhabited

/-- What a path names below the root of its API group. -/
def routeOf : List String → Option Route
  | ["namespaces", ns, plural] => some ⟨plural, some ns, none, false⟩
  | ["namespaces", ns, plural, name] => some ⟨plural, some ns, some name, false⟩
  | ["namespaces", ns, plural, name, "status"] => some ⟨plural, some ns, some name, true⟩
  | [plural] => some ⟨plural, none, none, false⟩
  | [plural, name] => some ⟨plural, none, some name, false⟩
  | [plural, name, "status"] => some ⟨plural, none, some name, true⟩
  | _ => none

/-- What a path names: one of a core kind, or of a kind in a group of its own. -/
def route? (path : String) : Option Route :=
  match path.splitOn "/" with
  | "" :: "api" :: _ :: rest => routeOf rest
  | "" :: "apis" :: _ :: _ :: rest => routeOf rest
  | _ => none

/-- The document that tells of an error. -/
def errorDocument (error : ErrorResponse) : Json :=
  .obj
    [("apiVersion", .str "v1"), ("code", .num error.code), ("kind", .str "Status"),
      ("message", .str error.message), ("metadata", .obj []), ("reason", .str error.reason),
      ("status", .str error.status)]

/-- The response that tells of an error. -/
def errorReply (code : Nat) (reason message : String) : Response where
  status := code
  body := .document (errorDocument { status := "Failure", message, reason, code })

/-- The response that tells of a failed call. -/
def failureReply (failure : Failure) : Response :=
  match failure with
  | .notFound .. => errorReply 404 "NotFound" failure.message
  | .conflict _ _ reason => errorReply 409 "Conflict" reason
  | _ => errorReply 500 "InternalError" failure.message

/-- The response to a request for something that is not there. -/
def notFoundReply : Response :=
  errorReply 404 "NotFound" "not found"

/-- The response to a request that is not understood. -/
def badRequestReply : Response :=
  errorReply 400 "BadRequest" "bad request"

section Kind

variable {K : Type} [Staged K]

/-- The response with an object. -/
def objectReply (object : K) : Response where
  body := .document (Resource.encode object)

/-- The response to a write. -/
def writeReply (answer : Except Failure K) : Response :=
  match answer with
  | .ok object => objectReply object
  | .error failure => failureReply failure

/-- The object in the body of a request, in the namespace of the path. -/
def objectOf? (K : Type) [Staged K] (ns : Option String) (body : Option Json) : Option K :=
  (body.bind (Resource.decode? (K := K))).map
    (Resource.mapMetadata fun metadata => { metadata with ns })

/-- Answer a request about the objects of one kind. -/
def serveKind (K : Type) [Staged K] (method : Method) (route : Route) (body : Option Json) :
    StateM Rehearsal Response := do
  match method, route.name, route.isStatus with
  | .get, some name, false =>
      match (← Rehearsal.serve (K := K) (.get ⟨route.ns, name⟩) : Except Failure (Option K)) with
      | .ok (some object) => return objectReply object
      | .ok none => return notFoundReply
      | .error failure => return failureReply failure
  | .post, none, false =>
      let some object := objectOf? K route.ns body | return badRequestReply
      return writeReply (K := K) (← Rehearsal.serve (K := K) (.create object))
  | .put, some _, false =>
      let some object := objectOf? K route.ns body | return badRequestReply
      return writeReply (K := K) (← Rehearsal.serve (K := K) (.replace object))
  | .delete, some name, false =>
      match (← Rehearsal.serve (K := K) (.delete ⟨route.ns, name⟩) : Except Failure Unit) with
      | .ok () =>
          return { body := .document (.obj [("kind", .str "Status"), ("status", .str "Success")]) }
      | .error failure => return failureReply failure
  | .patch, some name, true =>
      let some stored := (Staged.bench (← get)).store.object? (K := K) ⟨route.ns, name⟩
        | return notFoundReply
      let patched := (Resource.encode stored).mergePatch (body.getD (.obj []))
      let some object := Resource.decode? (K := K) patched | return badRequestReply
      return writeReply (K := K) (← Rehearsal.serve (K := K) (.replaceStatus object))
  | _, _, _ => return notFoundReply

end Kind

/-- Answer a request. -/
def respond (request : Request) : StateM Rehearsal Response := do
  let some route := route? request.path | return notFoundReply
  if route.plural = Endpoint.plural SharedVolume then
    serveKind SharedVolume request.method route request.body
  else if route.plural = Endpoint.plural PersistentVolume then
    serveKind PersistentVolume request.method route request.body
  else if route.plural = Endpoint.plural PersistentVolumeClaim then
    serveKind PersistentVolumeClaim request.method route request.body
  else return notFoundReply

/-- Answer a call on a store by a request to the server. -/
def exchange {K : Type} [Endpoint K] (client : Client) (call : StoreCall K) :
    StateM Rehearsal call.Answer := do
  match client.request call with
  | .error cause => return .error (.api cause)
  | .ok request => return Client.answer call (← respond request)

/-- Answer a call of the operator by requests to the server. -/
def perform (client : Client) (call : OperatorCall) : StateM Rehearsal call.Answer :=
  match call with
  | .sharedVolumes call => exchange client call
  | .volumes call => exchange client call
  | .claims call => exchange client call
  | .roster call => Rehearsal.serveRoster call

end SharedMount.Api
