import SharedMount.Json.Decode

/-! # Status reports

Where a request gives no object, the API server may answer it with a report of how it went. Every
field of a report may be absent; one that is present must have the right shape.
-/

namespace SharedMount.Api

/-- How a request went. -/
inductive RequestOutcome where
  | success
  | failure
deriving DecidableEq, Inhabited, Repr

/-- One of several things that were wrong with a request. -/
structure StatusCause where
  reason : String := ""
  message : String := ""
  /-- The field of the object that was wrong. -/
  field : String := ""
deriving DecidableEq, Inhabited, Repr

/-- What a status report is about. -/
structure StatusDetails where
  name : String := ""
  group : String := ""
  kind : String := ""
  uid : String := ""
  causes : List StatusCause := []
  retryAfterSeconds : Nat := 0
deriving DecidableEq, Inhabited, Repr

/-- A report of how a request went. -/
structure StatusReport where
  outcome : Option RequestOutcome := none
  code : Nat := 0
  message : String := ""
  reason : String := ""
  details : Option StatusDetails := none
deriving DecidableEq, Inhabited, Repr

/-- Read the outcome of a request. -/
def RequestOutcome.decode? (json : Json) : Option RequestOutcome := do
  match ← json.word? with
  | "Success" => some success
  | "Failure" => some failure
  | _ => none

/-- Read a status code, a number of 16 bits. -/
def statusCode? : Json → Option Nat :=
  Json.below? 65536

/-- Read the cause of a failure. -/
def StatusCause.decode? (json : Json) : Option StatusCause := do
  let fields ← json.recordFields 0 ["reason", "message", "field"]
  return {
    reason := ← Json.fieldOr "" "reason" Json.text? fields
    message := ← Json.fieldOr "" "message" Json.text? fields
    field := ← Json.fieldOr "" "field" Json.text? fields }

/-- Read what a report is about. The seconds to wait are a number of 32 bits. -/
def StatusDetails.decode? (json : Json) : Option StatusDetails := do
  let fields ← json.recordFields 0 ["name", "group", "kind", "uid", "causes", "retryAfterSeconds"]
  return {
    name := ← Json.fieldOr "" "name" Json.text? fields
    group := ← Json.fieldOr "" "group" Json.text? fields
    kind := ← Json.fieldOr "" "kind" Json.text? fields
    uid := ← Json.fieldOr "" "uid" Json.text? fields
    causes := ← Json.fieldOr [] "causes" (Json.items? StatusCause.decode?) fields
    retryAfterSeconds := ← Json.fieldOr 0 "retryAfterSeconds" (Json.below? 4294967296) fields }

/-- Whether a document is meant as a status report: the last kind that it gives says so. -/
def isStatusReport (json : Json) : Bool :=
  (Json.valuesOf "kind" json.fields).getLast? = some (.str "Status")

/-- Read a status report. -/
def StatusReport.decode? (json : Json) : Option StatusReport := do
  let fields ← json.recordFields 5 ["status", "code", "message", "reason", "details"]
  return {
    outcome := ← Json.optionalField "status" RequestOutcome.decode? fields
    code := ← Json.fieldOr 0 "code" statusCode? fields
    message := ← Json.fieldOr "" "message" Json.text? fields
    reason := ← Json.fieldOr "" "reason" Json.text? fields
    details := ← Json.optionalField "details" StatusDetails.decode? fields }

end SharedMount.Api
