import SharedMount.Api.StatusReport
import SharedMount.Failure
import SharedMount.Json.Text
import SharedMount.Text.Divide

/-! # Messages of the API

Requests to the API server and its responses. An error response tells its cause in its body; when the
body is not understood, the status line and the quoted body take its place.
-/

namespace SharedMount.Api

/-- What a request wants done. -/
inductive Method where
  | get
  | post
  | put
  | patch
  | delete
deriving DecidableEq, Inhabited, Repr

/-- The name of a method in the request line. -/
def Method.name : Method → String
  | get => "GET"
  | post => "POST"
  | put => "PUT"
  | patch => "PATCH"
  | delete => "DELETE"

/-- A request to the API server. -/
structure Request where
  method : Method
  path : String
  query : String := ""
  contentType : Option String := none
  body : Option Json := none
deriving DecidableEq, Inhabited

/-- The body of a response: a document, or a text that may or may not be one. -/
inductive Body where
  | document (json : Json)
  | plain (text : String)
deriving DecidableEq, Inhabited

/-- A response of the API server. -/
structure Response where
  status : Nat := 200
  body : Body
deriving DecidableEq, Inhabited

/-- The document in a body; not every part of it need be readable. -/
def Body.document? : Body → Option Json
  | document json => some json
  | plain text => Json.parse? text

/-- A body as text. -/
def Body.raw : Body → String
  | document json => json.render
  | plain text => text

/-- The phrase that explains an error status. -/
def reasonPhrase? : Nat → Option String
  | 400 => some "Bad Request"
  | 401 => some "Unauthorized"
  | 402 => some "Payment Required"
  | 403 => some "Forbidden"
  | 404 => some "Not Found"
  | 405 => some "Method Not Allowed"
  | 406 => some "Not Acceptable"
  | 407 => some "Proxy Authentication Required"
  | 408 => some "Request Timeout"
  | 409 => some "Conflict"
  | 410 => some "Gone"
  | 411 => some "Length Required"
  | 412 => some "Precondition Failed"
  | 413 => some "Payload Too Large"
  | 414 => some "URI Too Long"
  | 415 => some "Unsupported Media Type"
  | 416 => some "Range Not Satisfiable"
  | 417 => some "Expectation Failed"
  | 418 => some "I'm a teapot"
  | 421 => some "Misdirected Request"
  | 422 => some "Unprocessable Entity"
  | 423 => some "Locked"
  | 424 => some "Failed Dependency"
  | 425 => some "Too Early"
  | 426 => some "Upgrade Required"
  | 428 => some "Precondition Required"
  | 429 => some "Too Many Requests"
  | 431 => some "Request Header Fields Too Large"
  | 451 => some "Unavailable For Legal Reasons"
  | 500 => some "Internal Server Error"
  | 501 => some "Not Implemented"
  | 502 => some "Bad Gateway"
  | 503 => some "Service Unavailable"
  | 504 => some "Gateway Timeout"
  | 505 => some "HTTP Version Not Supported"
  | 506 => some "Variant Also Negotiates"
  | 507 => some "Insufficient Storage"
  | 508 => some "Loop Detected"
  | 510 => some "Not Extended"
  | 511 => some "Network Authentication Required"
  | _ => none

/-- A status with its phrase. -/
def statusLine (status : Nat) : String :=
  toString status ++ " " ++ (reasonPhrase? status).getD "<unknown status code>"

/-- Read the cause of an error from a document. Status and code must be there. -/
def errorResponse? (json : Json) : Option ErrorResponse := do
  let fields ← json.recordFields 4 ["status", "message", "reason", "code"]
  return {
    status := ← Json.requiredField "status" Json.text? fields
    message := ← Json.fieldOr "" "message" Json.text? fields
    reason := ← Json.fieldOr "" "reason" Json.text? fields
    code := ← Json.requiredField "code" statusCode? fields }

/-- The cause of an error response; its code need not be the status. -/
def Response.error (response : Response) : ErrorResponse :=
  match response.body.document?.bind errorResponse? with
  | some cause => cause
  | none =>
      { status := statusLine response.status
        message := Text.quoted response.body.raw
        reason := "Failed to parse error data"
        code := response.status }

/-- Whether a response tells of an error. -/
def Response.isError (response : Response) : Bool :=
  400 ≤ response.status && response.status < 600

/-- Whether a character may stand in the path of a request. Characters beyond ASCII may, the control
character 0x7F may not. -/
def isPathChar (c : Char) : Bool :=
  let n := c.toNat
  n = 0x21 || n = 0x22 || (0x24 ≤ n && n ≤ 0x3B) || n = 0x3D || (0x40 ≤ n && n ≤ 0x5F) ||
    (0x61 ≤ n && n ≤ 0x7E) || 0x80 ≤ n

/-- Whether a character may stand in the query of a request. -/
def isQueryChar (c : Char) : Bool :=
  let n := c.toNat
  n = 0x21 || (0x24 ≤ n && n ≤ 0x3B) || n = 0x3D || (0x3F ≤ n && n ≤ 0x7E) || 0x80 ≤ n

/-- The path and the query of a request target. What follows a number sign is no part of either; a
target with a character that may not stand where it does is none. -/
def target? (target : String) : Option (String × String) :=
  let target := target.toList.takeWhile (· ≠ '#')
  let (path, query) := (Text.divide? '?' target).getD (target, [])
  if path.all isPathChar && query.all isQueryChar then
    some (String.ofList path, String.ofList query)
  else none

end SharedMount.Api
