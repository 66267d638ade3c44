import Rulebook.Page.Piece
import Rulebook.User

/-!
# The frame around every page

Every page has the same head, a bar with links for a signed-in user, a body, and room for a script.
-/

namespace Rulebook.Page

/-- The page up to its title. -/
def beforeTitle : Page :=
  lines [
    "<!DOCTYPE html>",
    "<html lang=\"en\">",
    "<head>",
    "  <meta charset=\"utf-8\">",
    "  <meta name=\"viewport\" content=\"width=device-width, initial-scale=1\">",
    "  <title>"]

/-- The page from its title to the links of the bar. -/
def afterTitle : Page :=
  lines [
    " | Model Checker</title>",
    "  <style>",
    "    body \x7b font-family: system-ui, sans-serif; margin: 0; color: #1f2933; \x7d",
    "    header \x7b display: flex; justify-content: space-between; align-items: center; " ++
      "padding: 0.75rem 1.5rem; background: #0a66ff; color: #fff; \x7d",
    "    header a \x7b color: #fff; margin-left: 1rem; text-decoration: none; \x7d",
    "    main \x7b max-width: 960px; margin: 2rem auto; padding: 0 1rem; \x7d",
    "    table \x7b width: 100%; border-collapse: collapse; \x7d",
    "    th, td \x7b text-align: left; padding: 0.4rem; border-bottom: 1px solid #d9e2ec; \x7d",
    "    .muted \x7b color: #627d98; \x7d",
    "    .error \x7b color: #b42318; \x7d",
    "  </style>",
    "</head>",
    "<body>",
    "  <header>",
    "    <a href=\"/\"><strong>Model Checker</strong></a>",
    "    <nav>",
    "      "]

/-- The links for a signed-in user. -/
def links (user : User) : Page :=
  lines [
    "",
    "        <a href=\"/projects\">Projects</a>",
    "        <a href=\"/rulesets\">Rulesets</a>",
    "        <span>"] ++
  [.text user.name] ++
  lines [
    "</span>",
    "        <a href=\"/logout\">Log out</a>",
    "      "]

/-- A page of a title, a body and a script, seen by a user or by nobody in particular. -/
def layout (title : String) (user : Option User) (body script : Page) : Page :=
  beforeTitle ++ [.text title] ++ afterTitle ++ (user.map links).getD [] ++
  lines [
    "",
    "    </nav>",
    "  </header>",
    "  <main>",
    "    "] ++
  body ++
  lines [
    "",
    "  </main>",
    "  "] ++
  script ++
  lines [
    "",
    "</body>",
    "</html>",
    ""]

end Rulebook.Page
