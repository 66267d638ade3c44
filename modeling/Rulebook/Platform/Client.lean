import Rulebook.Platform.Answer
import Rulebook.Platform.Request

/-!
# The client

How a request to the server ends, and what follows from that. No answer, and an answer that breaks
off, is a failure of transport. Any status but 200 is a failure whatever the body says. A body is
read only after that.
-/

namespace Rulebook.Platform

/-- Why a request or its answer did not get through. -/
inductive TransportFault where
  | failed
  | timedOut
deriving DecidableEq, Repr

/-- The text of a fault of transport. -/
def TransportFault.message : TransportFault → String
  | .failed => "request failed"
  | .timedOut => "request timed out"

/-- How a request ends: without an answer, or with a status and perhaps a whole body. -/
inductive Delivery where
  | lost (fault : TransportFault)
  | answered (status : Nat) (body : Except TransportFault (List UInt8))

/-- A failure to get the body of a successful answer, or to read it. -/
inductive Failing where
  | transport (fault : TransportFault)
  | status (code : Nat)
  | decode (message : String)
deriving DecidableEq, Repr

/-- What a request brings, its body read by `read`. -/
def Delivery.result {α : Type} (read : List UInt8 → Except String α) : Delivery → Except Failing α
  | .lost fault => .error (.transport fault)
  | .answered status body =>
    if status ≠ 200 then .error (.status status)
    else
      match body with
      | .error fault => .error (.transport fault)
      | .ok bytes => (read bytes).mapError .decode

namespace Failing

/-- What is said about a status. -/
def statusText (code : Nat) : String :=
  "unexpected status code: " ++ String.ofList (Decimal.digitsOf code)

/-- A failure of the exchange of a code. -/
def exchange : Failing → IdentityError
  | .transport fault => .tokenExchange none fault.message
  | .status code => .tokenExchange (some code) (statusText code)
  | .decode message => .tokenDecode message

/-- A failure of the query for the profile. -/
def profile : Failing → IdentityError
  | .transport fault => .profileFetch none fault.message
  | .status code => .profileFetch (some code) (statusText code)
  | .decode message => .profileDecode message

/-- A failure of a query for projects. -/
def catalogue : Failing → CatalogueError
  | .transport fault => .transport fault.message
  | .status code => .status code
  | .decode message => .decode message

end Failing

/-- How the request of a question ends; a question without request fails as if it had been lost. -/
def deliver (send : Request → Delivery) (call : PlatformCall) : Delivery :=
  match Request.of? call with
  | some request => send request
  | none => .lost .failed

/-- The answer to a question, given how requests end. -/
def answerBy (send : Request → Delivery) : (call : PlatformCall) → call.Answer
  | .exchangeCode credentials code challenge =>
    ((deliver send (.exchangeCode credentials code challenge)).result grantOf).mapError
      Failing.exchange
  | .activeUser token =>
    ((deliver send (.activeUser token)).result userOf).mapError Failing.profile
  | .listProjects token limit cursor =>
    ((deliver send (.listProjects token limit cursor)).result pageOf).mapError Failing.catalogue
  | .searchProjects token query modelsLimit versionsLimit =>
    ((deliver send (.searchProjects token query modelsLimit versionsLimit)).result
      foundOf).mapError Failing.catalogue
  | .projectDetails token projectId =>
    ((deliver send (.projectDetails token projectId)).result (projectOf projectId)).mapError
      Failing.catalogue

/-- The platform behind a server, given how requests end. -/
def behind (server : Server) (send : Request → Delivery) : Platform :=
  ⟨answerBy send, server.approvalUrl⟩

end Rulebook.Platform
