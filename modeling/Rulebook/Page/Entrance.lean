import Rulebook.Page.Layout

/-!
# Pages without projects

The page with the login button, the page for a user whose account is no longer connected, and the
page that tells of a failure.
-/

namespace Rulebook.Page

/-- The login page. -/
def login (user : Option User) : Page :=
  layout "Welcome" user
    (lines [
      "",
      "<h1>Model Checker</h1>",
      "<p>Sign in with Speckle to attach rulesets to your projects.</p>",
      "<button id=\"login\">Log in with Speckle</button>",
      "<p id=\"login-error\" class=\"error\"></p>",
      ""])
    (lines [
      "",
      "<script>",
      "  document.getElementById(\"login\").addEventListener(\"click\", async () => \x7b",
      "    const response = await fetch(\"/auth/init\");",
      "    const body = await response.json();",
      "    if (!response.ok) \x7b",
      "      document.getElementById(\"login-error\").textContent = body.error;",
      "      return;",
      "    \x7d",
      "    window.location.href = body.authUrl;",
      "  \x7d);",
      "</script>",
      ""])

/-- The page for a user without a token. -/
def welcome (user : User) : Page :=
  layout "Welcome" (some user)
    (lines [
      "",
      "<h1>Welcome, "] ++
    [.text user.name] ++
    lines [
      "</h1>",
      "<p>Your Speckle account is not connected yet.</p>",
      "<p><a href=\"/logout\">Log out</a> and sign in again to reconnect.</p>",
      ""])
    []

/-- The page that tells of a failure. -/
def failure (status : Nat) (message : String) (traceId : Option String) : Page :=
  layout "Error" none
    (lines [
      "",
      "<h1>Something went wrong</h1>",
      "<p class=\"error\">"] ++
    [.text message] ++
    lines [
      "</p>",
      "<p class=\"muted\">Status "] ++
    [number status] ++
    ifText traceId (fun id => [.fixed " · trace ", .text id]) ++
    lines [
      "</p>",
      "<p><a href=\"/\">Back to start</a></p>",
      ""])
    []

end Rulebook.Page
