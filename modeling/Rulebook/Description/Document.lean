import Rulebook.Description.Model
import Rulebook.Session

/-!
# The description of this interface

The operations that answer with JSON or with nothing but a status. Pages and the export of rules are
not described.
-/

namespace Rulebook.Description

/-- The body of a failure. -/
def errorBody : Body :=
  .record "JSON error envelope returned by \x60/api\x60 routes." [
    { name := "error", shape := .plain "string", description := some "Public failure message.",
      sample := some "Failed to delete ruleset" },
    { name := "code", shape := .body "ErrorCode" },
    { name := "traceId", shape := .orNull "string", required := false }]

/-- The codes of failures. -/
def errorCode : Body :=
  .words "Stable machine-readable error code describing the failure category."
    ["invalid_request", "unauthorized", "not_found", "upstream_error", "internal_error"]

/-- The body of a success. -/
def messageBody : Body :=
  .record "Success payload of the JSON mutation endpoints." [
    { name := "message", shape := .plain "string", sample := some "Ruleset deleted successfully" }]

/-- The body of a move. -/
def reorderBody : Body :=
  .record "Rules of the ruleset in their new order." [
    { name := "message", shape := .plain "string", sample := some "Rule reordered successfully" },
    { name := "rules", shape := .listOf (.body "Rule") }]

/-- What starts a login. -/
def authorizationRequest : Body :=
  .record "Payload returned by \x60GET /auth/init\x60." [
    { name := "challengeId", shape := .plain "string" },
    { name := "authUrl", shape := .plain "string",
      sample := some "https://app.speckle.systems/authn/verify/app/challenge" },
    { name := "appId", shape := .plain "string" }]

/-- A rule. -/
def rule : Body :=
  .record "A named check composed of conditions plus a display message." [
    { name := "id", shape := .plain "string", required := false },
    { name := "name", shape := .plain "string" },
    { name := "description", shape := .plain "string", required := false },
    { name := "conditions", shape := .listOf (.body "Condition"), required := false },
    { name := "message", shape := .plain "string", required := false },
    { name := "order", shape := .formatted "integer" "int64", required := false,
      description :=
        some "1-based rank within the ruleset. Legacy documents without a rank sort first." },
    { name := "createdAt", shape := .formatted "string" "date-time" },
    { name := "updatedAt", shape := .formatted "string" "date-time" }]

/-- A condition. -/
def condition : Body :=
  .record "A single property predicate." [
    { name := "propertyName", shape := .plain "string", required := false, usual := some "" },
    { name := "predicate", shape := .plain "string", required := false, usual := some "" },
    { name := "value", shape := .plain "object", required := false,
      description := some "String, number, boolean or null." }]

/-- The parameter that names a ruleset. -/
def rulesetParameter : Parameter :=
  { name := "id", description := "Ruleset id" }

/-- The parameter that names a rule. -/
def ruleParameter : Parameter :=
  { name := "rule_id", description := "Rule id" }

/-- The answer to a visitor who is not signed in. -/
def notSignedIn : Answer :=
  { status := 401, description := "No signed-in user", body := some "ErrorBody" }

/-- The answer when the store fails. -/
def storeFailure : Answer :=
  { status := 500, description := "Store failure", body := some "ErrorBody" }

/-- The operations that are described. -/
def operations : List Operation := [
  { path := "/auth/init", method := "get", name := "authInit", group := "auth",
    summary := some "Start a login: remember a fresh challenge and return the approval URL.",
    answers := [
      { status := 200, description := "Challenge issued", body := some "AuthorizationRequest" },
      { status := 500, description := "App credentials missing", body := some "ErrorBody" }] },
  { path := "/api/rulesets/\x7bid\x7d", method := "delete", name := "deleteRuleset",
    group := "rulesets", summary := some "Delete a ruleset. Its rules are left in place.",
    parameters := [rulesetParameter],
    answers := [
      { status := 200, description := "Ruleset deleted", body := some "MessageBody" },
      notSignedIn, storeFailure] },
  { path := "/api/rulesets/\x7bid\x7d/rules/\x7brule_id\x7d", method := "delete",
    name := "deleteRule", group := "rules", parameters := [rulesetParameter, ruleParameter],
    answers := [
      { status := 200, description := "Rule deleted", body := some "MessageBody" },
      notSignedIn, storeFailure] },
  { path := "/api/rulesets/\x7bid\x7d/rules/\x7brule_id\x7d/reorder", method := "post",
    name := "reorderRule", group := "rules",
    summary := some "Move a rule one slot. Moving past either end leaves the order unchanged.",
    parameters := [rulesetParameter, ruleParameter,
      { name := "direction", inPath := false, description := "\x60up\x60 or \x60down\x60" }],
    answers := [
      { status := 200, description := "Rule moved", body := some "ReorderBody" },
      { status := 400, description := "Unknown direction", body := some "ErrorBody" },
      notSignedIn, storeFailure] },
  { path := "/health/ready", method := "get", name := "ready", group := "health",
    summary := some "Readiness probe: 200 once the server accepts traffic, 503 before.",
    answers := [
      { status := 200, description := "Server is ready to handle traffic" },
      { status := 503, description := "Server is not ready" }] },
  { path := "/health/live", method := "get", name := "live", group := "health",
    summary := some "Liveness probe: 200 while the process is alive, 503 once draining.",
    answers := [
      { status := 200, description := "Server is alive" },
      { status := 503, description := "Server is shutting down" }] }]

/-- The description of this interface. -/
def interface : Interface where
  title := "Model checker API"
  description := "Speckle sign-in and ruleset maintenance endpoints."
  version := "0.1.0"
  server := "/"
  serverDescription := "Relative to the deployment base URL"
  key := ⟨"SessionCookie", Session.cookieName, "Session cookie issued after GET /auth/callback."⟩
  groups := [("auth", "Speckle sign-in"), ("rulesets", "Ruleset maintenance"),
    ("rules", "Rule maintenance and ranking"), ("health", "Endpoints for health checks")]
  operations := operations
  bodies := [("ErrorBody", errorBody), ("ErrorCode", errorCode), ("MessageBody", messageBody),
    ("ReorderBody", reorderBody), ("AuthorizationRequest", authorizationRequest), ("Rule", rule),
    ("Condition", condition)]

end Rulebook.Description
