import Rulebook.Site.Endpoint
import Rulebook.Site.Projects
import Rulebook.Site.Rules
import Rulebook.Site.Rulesets

/-!
# The application

One request from end to end: the trace id is taken from the request or drawn, the session from the
cookie, the endpoint handles the request, the session goes back into the cookie, and the response
gets its trace id. A session that cannot be saved turns the response into a bare failure and
leaves the cookie as it was.
-/

namespace Rulebook

/-- What probes are told about the service. -/
structure Health where
  ready : Bool
  live : Bool
deriving DecidableEq, Repr

/-- A service that has just started: alive and not yet ready. -/
def Health.start : Health :=
  ⟨false, true⟩

/-- A service that takes requests. -/
def Health.markReady (h : Health) : Health :=
  { h with ready := true }

/-- A service on its way out. -/
def Health.markUnhealthy (h : Health) : Health :=
  { h with live := false }

/-- The answer to a probe. -/
def Health.probe (ok : Bool) : Http.Response :=
  (Http.Response.empty (if ok then 200 else 503)).setHeader "cache-control" "no-store"

/-- How the application is set up. -/
structure Application where
  credentials : Option AppCredentials
  approvalUrl : String → ChallengeId → String
  health : Health

/-- What comes of a request: the response, what it does to the cookie, and what the cookie holds
afterwards, if there is a readable one. -/
structure Outcome where
  response : Http.Response
  effect : CookieEffect
  cookie : Option (List (String × Json))

namespace Application

/-- The trace id of a request: the one it names, or else a fresh one. -/
def traceOf (r : Http.Request) (fresh : TraceId) : TraceId :=
  (((r.header? traceHeader).bind Http.asciiValue?).bind fun s =>
    TraceId.parse? (Text.trim s)).getD fresh

/-- A handling that leaves the session alone, its refusal told under a trace id. -/
def settle (trace : TraceId) (v : Visit) (h : Handling) : Program (Http.Response × Session) := do
  match ← h.run with
  | .ok response => return (response, v.session)
  | .error refusal => return (refusal.response trace, v.session)

/-- The response of an endpoint, and the session after it. -/
def handle (app : Application) (trace : TraceId) (v : Visit) :
    Endpoint → Program (Http.Response × Session)
  | .ready => return (Health.probe app.health.ready, v.session)
  | .live => return (Health.probe app.health.live, v.session)
  | .loginStart => Site.loginStart app.credentials app.approvalUrl trace v
  | .loginCallback => Site.loginCallback app.credentials trace v
  | .logout => Site.logout v
  | .home => settle trace v (Site.home v)
  | .projectSearch => settle trace v (Site.projectSearch v)
  | .projects => settle trace v (Site.projectList v)
  | .project id => settle trace v (Site.projectDetail id v)
  | .rulesets => settle trace v (Site.rulesetList v)
  | .rulesetNew => settle trace v (Site.rulesetNew v)
  | .rulesetEdit id => settle trace v (Site.rulesetEdit id v)
  | .rulesetCreate => settle trace v (Site.rulesetCreate v)
  | .rulesetUpdate id => settle trace v (Site.rulesetUpdate id v)
  | .rulesetDelete id => settle trace v (Site.rulesetDelete id v)
  | .ruleNew rulesetId => settle trace v (Site.ruleNew rulesetId v)
  | .ruleEdit rulesetId ruleId => settle trace v (Site.ruleEdit rulesetId ruleId v)
  | .ruleCreate rulesetId => settle trace v (Site.ruleCreate rulesetId v)
  | .ruleUpdate rulesetId ruleId => settle trace v (Site.ruleUpdate rulesetId ruleId v)
  | .ruleDelete rulesetId ruleId => settle trace v (Site.ruleDelete rulesetId ruleId v)
  | .ruleReorder rulesetId ruleId => settle trace v (Site.ruleReorder rulesetId ruleId v)
  | .export hash => settle trace v (Site.export hash v)

/-- The response to a visit, and the session after it; what nobody handles is not found. -/
def visit (app : Application) (trace : TraceId) (v : Visit) : Program (Http.Response × Session) :=
  match Endpoint.find? v.request.method (Http.splitTarget v.request.target).1 with
  | some endpoint => app.handle trace v endpoint
  | none => return (.empty 404, v.session)

/-- The outcome of a visit whose session ends as `session`. -/
def finish (trace : TraceId) (cookie : Option (List (String × Json))) (response : Http.Response)
    (session : Session) : Outcome :=
  if session.canSave then
    ⟨response.setHeader traceHeader trace.render, session.effect, session.cookieAfter cookie⟩
  else ⟨.empty 500, .unchanged, cookie⟩

/-- A request from end to end. -/
def serve (app : Application) (fresh : TraceId) (now : Time.Timestamp)
    (cookie : Option (List (String × Json))) (r : Http.Request) : Program Outcome := do
  let trace := traceOf r fresh
  let (response, session) ← app.visit trace ⟨r, Session.ofCookie cookie, now⟩
  return finish trace cookie response session

end Application

end Rulebook
