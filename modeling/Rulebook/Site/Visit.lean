import Rulebook.Http.Form
import Rulebook.Http.Target
import Rulebook.Program
import Rulebook.Session
import Rulebook.Site.Refusal

/-!
# Visits

A visit is a request with what is known while it is handled: its query, the session it came with,
and the time. Pages send visitors who are not signed in to the start page; the interface for
scripts refuses them.
-/

namespace Rulebook

/-- A request being handled. -/
structure Visit where
  request : Http.Request
  session : Session
  now : Time.Timestamp

/-- The outcome of handling a request: a response, or why there is none. -/
abbrev Handling := Attempt Refusal Http.Response

namespace Visit

/-- The pairs of the query. -/
def query (v : Visit) : List (String × String) :=
  Http.queryPairs (Http.splitTarget v.request.target).2

/-- A field of the query; it may stand once. -/
def field (v : Visit) (name : String) : Attempt Refusal (Option String) :=
  match Http.queryField v.query name with
  | .ok value => return value
  | .error fault => throw (.query fault.message)

/-- A page for the user who is signed in. -/
def forUser (v : Visit) (page : User → Handling) : Handling :=
  match v.session.user? with
  | none => return .redirect "/"
  | some user => page user

/-- An answer to a script that acts for the user who is signed in. -/
def forScript (v : Visit) (answer : Handling) : Handling :=
  match v.session.user? with
  | none => throw (.script .unauthorized "Unauthorized")
  | some _ => answer

end Visit

/-- A program whose failures all become one refusal. -/
def Attempt.orRefuse {ε α : Type} (p : Attempt ε α) (refusal : Refusal) : Attempt Refusal α :=
  p.orFail fun _ => refusal

/-- A page as a response. -/
def Page.respond (p : Page) : Http.Response :=
  .of 200 Http.Response.htmlType p.render

end Rulebook
