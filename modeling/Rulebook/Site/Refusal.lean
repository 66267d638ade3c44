import Rulebook.Failure
import Rulebook.Http.Message
import Rulebook.Page.Entrance

/-!
# Refusals

A request that fails is answered in one of two shapes: a page for people, and a JSON object for
scripts. Both carry the trace id of the request, in the body and in a header of the same name.
-/

namespace Rulebook

/-- The header that carries trace ids. -/
def traceHeader : String :=
  "trace-id"

/-- A response with the trace id that a failure carries, where it carries one. -/
def Http.Response.traced (r : Http.Response) (traceId : Option String) : Http.Response :=
  match traceId with
  | none => r
  | some id => r.withHeader traceHeader id

/-- A failure as a response. -/
def Failure.response (f : Failure) : Http.Response :=
  (Http.Response.json f.code.status f.body).traced f.traceId

/-- A failure told on a page. -/
structure PageFailure where
  status : Nat
  message : String
  traceId : Option String
deriving DecidableEq, Repr

namespace PageFailure

/-- A failure in the scope of a trace id. -/
def new (scope : Option TraceId) (status : Nat) (message : String) : PageFailure :=
  ⟨status, message, scope.map TraceId.render⟩

/-- The status that stands for a failure of the platform: its own where that tells of an error. -/
def statusOf (status : Option Nat) : Nat :=
  match status with
  | some n => if 400 ≤ n ∧ n ≤ 599 then n else 500
  | none => 500

/-- The text of a failure. -/
def display (f : PageFailure) : String :=
  f.message ++ " (" ++ String.ofList (Nat.toDigits 10 f.status) ++ ")"

/-- A failure as a response. -/
def response (f : PageFailure) : Http.Response :=
  (Http.Response.of f.status Http.Response.htmlType
    (Page.failure f.status f.message f.traceId).render).traced f.traceId

end PageFailure

/-- Why a request is refused. -/
inductive Refusal where
  | page (status : Nat) (message : String)
  | script (code : FailureCode) (message : String)
  | query (fault : String)
deriving DecidableEq, Repr

namespace Refusal

/-- The page that says a request went wrong inside. -/
def internal (message : String) : Refusal :=
  .page 500 message

/-- A refusal as the response to a request with a trace id. -/
def response (trace : TraceId) : Refusal → Http.Response
  | .page status message => (PageFailure.new (some trace) status message).response
  | .script code message => (Failure.new (some trace) code message).response
  | .query fault => .of 400 Http.Response.textType fault

end Refusal

end Rulebook
