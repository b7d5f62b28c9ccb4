import SharedMount.Text.Quoted

/-! # Failures

What can go wrong when the operator works, as causes. `Failure.message` words them. Two questions
decide how a failure is met: whether it means that an object does not exist (`isNotFound`) or that
somebody else wrote first (`isConflict`), and whether trying again soon may help (`isRetryable`).
-/

namespace SharedMount

/-- An error response of the API server. -/
structure ErrorResponse where
  status : String := "Failure"
  message : String := ""
  reason : String := ""
  code : Nat := 0
deriving DecidableEq, Inhabited, Repr

/-- Why a call to the API server failed. -/
inductive ApiError where
  /-- The server answered with an error. -/
  | response (response : ErrorResponse)
  /-- A stream of events ended in the middle of a line. -/
  | unfinishedLine
  /-- The request names no object. -/
  | emptyName
  /-- The path of the request holds a character that paths must not hold. -/
  | invalidPath
  /-- The server answered with a body that is not what was asked for. -/
  | undecodable
deriving DecidableEq, Inhabited, Repr

/-- Why an operation of the operator failed. -/
inductive Failure where
  | api (cause : ApiError)
  | notFound (kind name ns : String)
  | conflict (kind name reason : String)
  | invalidConfig (text : String)
  | reconcileFailed (text : String)
  | serialization (text : String)
  | yaml (text : String)
  | validation (text : String)
  | finalizer (text : String)
  | internal (text : String)
deriving DecidableEq, Inhabited, Repr

namespace ApiError

/-- The text of an error of the API. -/
def message : ApiError → String
  | response r =>
      "ApiError: " ++ r.message ++ ": " ++ r.reason ++ " (ErrorResponse \x7b status: " ++
        Text.quoted r.status ++ ", message: " ++ Text.quoted r.message ++ ", reason: " ++
        Text.quoted r.reason ++ ", code: " ++ toString r.code ++ " \x7d)"
  | unfinishedLine => "Error finding newline character"
  | emptyName => "Failed to build request: failed to validate request: A non-empty name is required"
  | invalidPath => "Failed to build request: failed to build request: invalid uri character"
  | undecodable => "undecodable response"

/-- Whether the server answered with a status code. -/
def hasCode (error : ApiError) (code : Nat) : Bool :=
  match error with
  | response r => r.code = code
  | _ => false

end ApiError

namespace Failure

/-- The text of a failure. -/
def message : Failure → String
  | api .undecodable => ApiError.undecodable.message
  | api cause => "Kubernetes API error: " ++ cause.message
  | notFound kind name ns => "Resource not found: " ++ kind ++ "/" ++ name ++ " in namespace " ++ ns
  | conflict kind name reason => "Conflict on " ++ kind ++ "/" ++ name ++ ": " ++ reason
  | invalidConfig text => "Invalid configuration: " ++ text
  | reconcileFailed text => "Reconciliation failed: " ++ text
  | serialization text => "Serialization error: " ++ text
  | yaml text => "YAML serialization error: " ++ text
  | validation text => "Validation error: " ++ text
  | finalizer text => "Finalizer error: " ++ text
  | internal text => "Internal error: " ++ text

/-- The failure to find an object; an absent namespace reads as empty. -/
def missing (kind name : String) (ns : Option String) : Failure :=
  .notFound kind name (ns.getD "")

/-- The failure of a call about an object: the status codes 404 and 409 tell that the object does
not exist, or that it was written by somebody else or exists already. -/
def ofApi (cause : ApiError) (kind name : String) (ns : Option String) : Failure :=
  match cause with
  | .response r =>
      if r.code = 404 then missing kind name ns
      else if r.code = 409 then .conflict kind name r.message
      else .api cause
  | cause => .api cause

/-- Whether the failure means that the object does not exist. -/
def isNotFound : Failure → Bool
  | notFound .. => true
  | api cause => cause.hasCode 404
  | _ => false

/-- Whether the failure means that somebody else wrote first, or that the object exists already. -/
def isConflict : Failure → Bool
  | conflict .. => true
  | api cause => cause.hasCode 409
  | _ => false

/-- Whether trying again may help without a change to the SharedVolume. -/
def isRetryable : Failure → Bool
  | api _ | notFound .. | conflict .. | reconcileFailed _ | finalizer _ => true
  | invalidConfig _ | serialization _ | yaml _ | validation _ | internal _ => false

/-- The seconds to wait when there is no need to back off: after a conflict, the next pass sees what
the other writer wrote. -/
def promptDelay? (failure : Failure) : Option Nat :=
  if failure.isConflict then some 1 else none

end Failure

end SharedMount
