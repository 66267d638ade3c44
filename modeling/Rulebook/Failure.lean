import Rulebook.Json.Reading
import Rulebook.Text.Blank
import Rulebook.Trace

/-!
# Failures told to clients

A failure has a code, a message that is never blank, the trace id of the request it arose in and
optional details. A blank message is replaced by the general one of its code. A failure is written
as an object that leaves out what is absent, and reading it back neither adds nor changes a trace
id.
-/

namespace Rulebook

open Json (Decode DecodeError Raw Record)

/-- The kinds of failure, stable across releases. -/
inductive FailureCode where
  | invalidRequest
  | unauthorized
  | notFound
  | platformError
  | internalError
deriving DecidableEq, Repr

namespace FailureCode

/-- The name of a code. -/
def name : FailureCode → String
  | .invalidRequest => "invalid_request"
  | .unauthorized => "unauthorized"
  | .notFound => "not_found"
  | .platformError => "upstream_error"
  | .internalError => "internal_error"

/-- Every code. -/
def all : List FailureCode :=
  [.invalidRequest, .unauthorized, .notFound, .platformError, .internalError]

/-- The HTTP status of a code. -/
def status : FailureCode → Nat
  | .invalidRequest => 400
  | .unauthorized => 401
  | .notFound => 404
  | .platformError => 500
  | .internalError => 500

/-- What is said when there is nothing better to say. -/
def generalMessage : FailureCode → String
  | .invalidRequest => "Invalid request"
  | .unauthorized => "Unauthorized"
  | .notFound => "Not found"
  | .platformError => "Speckle request failed"
  | .internalError => "Internal server error"

/-- A code as a value. -/
def toJson (c : FailureCode) : Json :=
  .string c.name

/-- A code read from a tree. -/
def read : Raw → Decode FailureCode :=
  Raw.choice (all.map fun c => (c.name, c))

end FailureCode

/-- A failure. -/
structure Failure where
  code : FailureCode
  message : String
  traceId : Option String
  details : Option Json
  message_notBlank : Text.saysNothing message = false

/-- Why a failure cannot be made: its message is blank. -/
inductive FailureFault where
  | emptyMessage
deriving DecidableEq, Repr

/-- What is said about a blank message. -/
def FailureFault.message : FailureFault → String
  | .emptyMessage => "error message must not be empty"

namespace Failure

/-- No general message is blank. -/
theorem generalMessage_notBlank (c : FailureCode) : Text.saysNothing c.generalMessage = false := by
  cases c <;> decide

/-- A failure in the scope of a trace id; a blank message is refused. -/
def tryNew (scope : Option TraceId) (code : FailureCode) (message : String) :
    Except FailureFault Failure :=
  if h : Text.saysNothing message = false then
    .ok ⟨code, message, scope.map TraceId.render, none, h⟩
  else .error .emptyMessage

/-- A failure in the scope of a trace id; a blank message becomes the general one of the code. -/
def new (scope : Option TraceId) (code : FailureCode) (message : String) : Failure :=
  match tryNew scope code message with
  | .ok f => f
  | .error _ =>
    ⟨code, code.generalMessage, scope.map TraceId.render, none, generalMessage_notBlank code⟩

/-- A failure of a request that is malformed or does not pass its checks. -/
def invalidRequest (scope : Option TraceId) (message : String) : Failure :=
  new scope .invalidRequest message

/-- A failure to prove who is asking. -/
def unauthorized (scope : Option TraceId) (message : String) : Failure :=
  new scope .unauthorized message

/-- A failure to find what was asked for. -/
def notFound (scope : Option TraceId) (message : String) : Failure :=
  new scope .notFound message

/-- A failure of a call to the platform. -/
def platformError (scope : Option TraceId) (message : String) : Failure :=
  new scope .platformError message

/-- A failure nobody expected. -/
def internalError (scope : Option TraceId) (message : String) : Failure :=
  new scope .internalError message

/-- The same failure under another trace id. -/
def withTraceId (f : Failure) (id : String) : Failure :=
  { f with traceId := some id }

/-- The same failure with details. -/
def withDetails (f : Failure) (details : Json) : Failure :=
  { f with details := some details }

/-- The parts of a failure as written, whatever its message is. -/
structure Parts where
  code : FailureCode
  message : String
  traceId : Option String
  details : Option Json

/-- The parts of a failure. -/
def parts (f : Failure) : Parts :=
  ⟨f.code, f.message, f.traceId, f.details⟩

/-- A failure made anew of its parts in the scope of a trace id: it takes the id of the scope first
and then gets the written one, or none, in its place. -/
def ofParts (scope : Option TraceId) (p : Parts) : Except FailureFault Failure :=
  (tryNew scope p.code p.message).map fun f => { f with traceId := p.traceId, details := p.details }

/-- A member that is left out when it is absent. -/
def optionalMember (key : String) : Option Json → List (String × Json)
  | none => []
  | some v => [(key, v)]

/-- The members parts are written as. -/
def Parts.members (p : Parts) : List (String × Json) :=
  [("code", p.code.toJson)] ++ optionalMember "details" p.details ++
    [("message", .string p.message)] ++ optionalMember "traceId" (p.traceId.map .string)

/-- A failure as a value. -/
def toJson (f : Failure) : Json :=
  .object f.parts.members

/-- The names of the parts, in their declared order. -/
def Parts.fieldNames : List String :=
  ["code", "message", "traceId", "details"]

/-- The parts of a failure read from a tree. -/
def Parts.read : Raw → Decode Parts :=
  Record.read fieldNames fun r =>
    Parts.mk <$> r.required "code" FailureCode.read <*> r.required "message" Raw.text
      <*> r.orElse "traceId" none (Raw.optional Raw.text)
      <*> r.orElse "details" none (Raw.optional Raw.any)

/-- A failure read from a tree in the scope of a trace id. -/
def readIn (scope : Option TraceId) (tree : Raw) : Decode Failure :=
  match Parts.read tree with
  | .error e => .error e
  | .ok p =>
    match ofParts scope p with
    | .ok f => .ok f
    | .error .emptyMessage => .error .blankMessage

/-- A failure read from a tree where no trace id is in scope. -/
def read : Raw → Decode Failure :=
  readIn none

/-- The body sent to clients: what went wrong, the code, and the trace id if there is one. -/
def body (f : Failure) : Json :=
  .object ([("code", f.code.toJson), ("error", .string f.message)] ++
    optionalMember "traceId" (f.traceId.map .string))

end Failure

/-- The body of a plain success. -/
structure Notice where
  message : String
deriving DecidableEq

namespace Notice

/-- A notice as a value. -/
def toJson (n : Notice) : Json :=
  .object [("message", .string n.message)]

/-- A notice read from a tree. -/
def read : Raw → Decode Notice :=
  Record.read ["message"] fun r => Notice.mk <$> r.required "message" Raw.text

end Notice

end Rulebook
