import Rulebook.Login.Credentials
import Rulebook.Login.Error
import Rulebook.Project
import Rulebook.User

/-!
# The platform

The platform keeps users and their projects. Here it is what it answers to five questions: two about
identity, three about projects. `PlatformCall` is a question as it was asked, so that a log of them
can be kept.
-/

namespace Rulebook

/-- A failure to learn about projects. -/
inductive CatalogueError where
  | transport (message : String)
  | status (code : Nat)
  | decode (message : String)
deriving DecidableEq, Repr

namespace CatalogueError

/-- The name of the kind of a failure. -/
def kind : CatalogueError → String
  | .transport _ => "transport"
  | .status _ => "status"
  | .decode _ => "decode"

/-- The text of a failure. -/
def message : CatalogueError → String
  | .transport message => "speckle request failed: " ++ message
  | .status code => "unexpected status code: " ++ String.ofList (Decimal.digitsOf code)
  | .decode message => "failed to decode response: " ++ message

end CatalogueError

/-- A question put to the platform. -/
inductive PlatformCall where
  | exchangeCode (credentials : AppCredentials) (code : AccessCode) (challenge : ChallengeId)
  | activeUser (token : BearerToken)
  | listProjects (token : BearerToken) (limit : Nat) (cursor : Option String)
  | searchProjects (token : BearerToken) (query : String) (modelsLimit versionsLimit : Nat)
  | projectDetails (token : BearerToken) (projectId : String)
deriving DecidableEq

/-- The answer a question has. -/
@[reducible] def PlatformCall.Answer : PlatformCall → Type
  | .exchangeCode _ _ _ => Except IdentityError TokenGrant
  | .activeUser _ => Except IdentityError User
  | .listProjects _ _ _ => Except CatalogueError ProjectPage
  | .searchProjects _ _ _ _ => Except CatalogueError (List Project)
  | .projectDetails _ _ => Except CatalogueError Project

/-- What the platform answers to every question, and the address where it asks users for approval.
-/
structure Platform where
  answer : (call : PlatformCall) → call.Answer
  authorizationUrl : (appId : String) → ChallengeId → String

end Rulebook
