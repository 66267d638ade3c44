import Rulebook.Login.Flow
import Rulebook.Page.Projects
import Rulebook.Site.Visit

/-!
# Logging in and out, and the start page

The two steps of a login change the session: the first one remembers a challenge, the second one
uses it up whatever becomes of the login. Logging out throws the session away.
-/

namespace Rulebook.Site

/-- The number of projects on a page. -/
def pageSize : Nat :=
  5

/-- The cursor of the next page, where this page is full. -/
def nextCursor (page : ProjectPage) : Option String :=
  if page.items.length = pageSize then page.cursor else none

/-- The token kept for a user; a token that cannot be read counts as none. -/
def storedToken {ε : Type} (user : User) : Attempt ε (Option BearerToken) := do
  match ← (Login.tokenFor user.id).outcome with
  | .ok token => return token
  | .error _ => return none

/-- A login begun: the response, and the session with the challenge. -/
def loginStart (credentials : Option AppCredentials)
    (approvalUrl : String → ChallengeId → String) (trace : TraceId) (v : Visit) :
    Program (Http.Response × Session) := do
  match ← (Login.start credentials approvalUrl).run with
  | .ok request => return (.json 200 request.toJson, v.session.storeChallenge request.challenge)
  | .error e => return ((Refusal.script .internalError e.message).response trace, v.session)

/-- How a failed login is told. -/
def loginRefusal (e : LoginError) : Refusal :=
  match e with
  | .missingCallbackParameters => .page 400 e.message
  | .identity (.tokenExchange _ _) | .identity (.profileFetch _ _) =>
    .page (PageFailure.statusOf e.platformStatus) e.message
  | _ => .internal e.message

/-- A login completed: the response, and the session without the challenge. A query that cannot be
read leaves the challenge for another try. -/
def loginCallback (credentials : Option AppCredentials) (trace : TraceId) (v : Visit) :
    Program (Http.Response × Session) :=
  match Http.queryField v.query "access_code" with
  | .error fault => return ((Refusal.query fault.message).response trace, v.session)
  | .ok raw => do
    let (challenge, session) := v.session.takeChallenge
    match ← (Login.complete credentials v.now (AccessCode.parse raw) challenge).run with
    | .ok user => return (.redirect "/projects", session.signIn user)
    | .error e => return ((loginRefusal e).response trace, session)

/-- The session thrown away. -/
def logout (v : Visit) : Program (Http.Response × Session) :=
  return (.redirect "/", v.session.purge)

/-- The start page: the login for visitors, and the first projects for users. -/
def home (v : Visit) : Handling :=
  match v.session.user? with
  | none => return (Page.login none).respond
  | some user => do
    match ← storedToken user with
    | none => return (Page.welcome user).respond
    | some token =>
      match ← (Attempt.listProjects token pageSize none).outcome with
      | .ok page => return (Page.projects user page (nextCursor page) none).respond
      | .error _ => return (Page.login (some user)).respond

end Rulebook.Site
