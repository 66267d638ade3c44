import Rulebook.Description.Document
import Rulebook.Platform.Client
import Rulebook.Setup.Session
import Rulebook.Setup.Settings
import Rulebook.Site.Application

/-!
# The service

What the settings make: an application that takes requests, the platform it asks, and a session
cookie with its attributes. A service does not start when the address of the platform is none.
Besides the application it hands out the description of its interface.
-/

namespace Rulebook

/-- What keeps a service from starting. -/
inductive StartError where
  | platform
deriving DecidableEq, Repr

/-- The text of a failure to start. -/
def StartError.message : StartError → String
  | .platform => "speckle client setup failed: " ++ Platform.Server.invalidMessage

/-- A service that takes requests. -/
structure Service where
  application : Application
  server : Platform.Server
  key : SessionKey
  cookieSecure : Bool

namespace Service

/-- The service that settings make. -/
def start (platform : PlatformSettings) (session : SessionSettings) : Except StartError Service :=
  match Platform.Server.of? platform.serverUrl with
  | none => .error .platform
  | some server => .ok {
      application := ⟨platform.credentials, server.approvalUrl, Health.start.markReady⟩
      server
      key := session.key
      cookieSecure := session.cookieSecure }

/-- The platform a service asks, given how requests end. -/
def platform (s : Service) (send : Platform.Request → Platform.Delivery) : Platform :=
  Platform.behind s.server send

/-- How long a session lasts: seven days, in seconds. -/
def sessionSeconds : Nat :=
  7 * 24 * 60 * 60

/-- The attributes of a cookie that a response sets or removes. -/
def cookieAttributes (s : Service) : CookieEffect → List String
  | .unchanged => []
  | .set => attributes sessionSeconds
  | .removed => attributes 0
where
  attributes (seconds : Nat) : List String :=
    ["HttpOnly", "Max-Age=" ++ toString seconds, "Path=/", "SameSite=Lax"] ++
      if s.cookieSecure then ["Secure"] else []

/-- Where the description of the interface is. -/
def descriptionPath : List Char :=
  "/api-docs/openapi.json".toList

/-- A request from end to end. -/
def serve (s : Service) (fresh : TraceId) (now : Time.Timestamp)
    (cookie : Option (List (String × Json))) (r : Http.Request) : Program Outcome :=
  if r.method = "GET" ∧ (Http.splitTarget r.target).1 = descriptionPath then
    return Application.finish (Application.traceOf r fresh) cookie
      (.json 200 Description.interface.toJson) (Session.ofCookie cookie)
  else s.application.serve fresh now cookie r

end Service

end Rulebook
