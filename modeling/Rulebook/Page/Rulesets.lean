import Rulebook.Page.Layout
import Rulebook.Ruleset.Export

/-!
# Pages of rulesets

The list of rulesets, and the form for a new or existing one. The form of an existing ruleset also
lists its rules.
-/

namespace Rulebook.Page

/-- A ruleset in the list. -/
def rulesetRow (_ : Nat) (r : Ruleset) : Page :=
  lines [
    "",
    "    <tr id=\"ruleset-"] ++
  [.text r.id] ++
  lines [
    "\">",
    "      <td><a href=\"/rulesets/"] ++
  [.text r.id, .fixed "/edit\">", .text r.name] ++
  lines [
    "</a></td>",
    "      <td>"] ++
  [.text r.description] ++
  lines [
    "</td>",
    "      <td>"] ++
  [.text r.projectId] ++
  lines [
    "</td>",
    "      <td>",
    "        <a href=\""] ++
  [.address (Export.url r)] ++
  lines [
    "\">TSV</a>",
    "        <button data-delete=\"/api/rulesets/"] ++
  [.text r.id] ++
  lines [
    "\">Delete</button>",
    "      </td>",
    "    </tr>",
    "  "]

/-- The list of rulesets. -/
def rulesets (user : User) (rulesets : List Ruleset) : Page :=
  layout "Rulesets" (some user)
    (lines [
      "",
      "<h1>Rulesets</h1>",
      "<p><a href=\"/rulesets/new\">New ruleset</a></p>",
      "<table>",
      "  <tr><th>Name</th><th>Description</th><th>Project</th><th></th></tr>",
      "  "] ++
    forEach rulesets rulesetRow
      (lines [
        "",
        "    <tr><td colspan=\"4\" class=\"muted\">No rulesets yet.</td></tr>",
        "  "]) ++
    lines [
      "",
      "</table>",
      ""])
    (lines [
      "",
      "<script>",
      "  document.querySelectorAll(\"[data-delete]\").forEach((button) => \x7b",
      "    button.addEventListener(\"click\", async () => \x7b",
      "      const response = await fetch(button.dataset.delete, \x7b method: \"DELETE\" \x7d);",
      "      const body = await response.json();",
      "      if (response.ok) \x7b",
      "        button.closest(\"tr\").remove();",
      "      \x7d else \x7b",
      "        alert(body.error);",
      "      \x7d",
      "    \x7d);",
      "  \x7d);",
      "</script>",
      ""])

/-- The three inputs of the ruleset form and its button. -/
def rulesetInputs (name description : Page) (projectId : String) : Page :=
  lines [
    "\">",
    "  <p><label>Name <input name=\"name\" required value=\""] ++
  name ++
  lines [
    "\"></label></p>",
    "  <p><label>Description <textarea name=\"description\">"] ++
  description ++
  lines [
    "</textarea></label></p>",
    "  <p><label>Project id <input name=\"projectId\" value=\""] ++
  [.text projectId] ++
  lines [
    "\"></label></p>",
    "  <button type=\"submit\">Save</button>",
    "</form>",
    ""]

/-- The script of the ruleset form, which moves and deletes rules. -/
def rulesetScript : Page :=
  lines [
    "",
    "<script>",
    "  async function call(url, method) \x7b",
    "    const response = await fetch(url, \x7b method \x7d);",
    "    const body = await response.json();",
    "    if (response.ok) \x7b",
    "      window.location.reload();",
    "    \x7d else \x7b",
    "      alert(body.error);",
    "    \x7d",
    "  \x7d",
    "  document.querySelectorAll(\"[data-reorder]\").forEach((button) => \x7b",
    "    button.addEventListener(\"click\", () => call(button.dataset.reorder, \"POST\"));",
    "  \x7d);",
    "  document.querySelectorAll(\"[data-delete]\").forEach((button) => \x7b",
    "    button.addEventListener(\"click\", () => call(button.dataset.delete, \"DELETE\"));",
    "  \x7d);",
    "</script>",
    ""]

/-- The form for a new ruleset, its project filled in where it is known. -/
def newRuleset (user : User) (projectId : Option String) : Page :=
  layout "New Ruleset" (some user)
    (lines [
      "",
      "<h1>"] ++
    [.text "New Ruleset"] ++
    lines [
      "</h1>",
      "<form method=\"post\" action=\"/rulesets"] ++
    rulesetInputs [] [] (projectId.getD "") ++
    lines [
      "",
      ""])
    rulesetScript

/-- A rule in the table of its ruleset. -/
def ruleRow (rulesetId : String) (place : Nat) (r : Rule) : Page :=
  let api : Page :=
    [.fixed "/api/rulesets/", .text rulesetId, .fixed "/rules/", .text r.id]
  lines [
    "",
    "      <tr>",
    "        <td>"] ++
  [number (place + 1)] ++
  lines [
    "</td>",
    "        <td><a href=\"/rulesets/"] ++
  [.text rulesetId, .fixed "/rules/", .text r.id, .fixed "/edit\">", .text r.name] ++
  lines [
    "</a></td>",
    "        <td>"] ++
  [number r.conditions.length] ++
  lines [
    "</td>",
    "        <td>"] ++
  [.text r.message] ++
  lines [
    "</td>",
    "        <td>",
    "          <button data-reorder=\""] ++
  api ++
  lines [
    "/reorder?direction=up\">Up</button>",
    "          <button data-reorder=\""] ++
  api ++
  lines [
    "/reorder?direction=down\">Down</button>",
    "          <button data-delete=\""] ++
  api ++
  lines [
    "\">Delete</button>",
    "        </td>",
    "      </tr>",
    "    "]

/-- The form for an existing ruleset, with its rules. -/
def editRuleset (user : User) (ruleset : Ruleset) (rules : List Rule) : Page :=
  layout "Edit Ruleset" (some user)
    (lines [
      "",
      "<h1>"] ++
    [.text "Edit Ruleset"] ++
    lines [
      "</h1>",
      "<form method=\"post\" action=\"/rulesets/"] ++
    [.text ruleset.id] ++
    rulesetInputs [.text ruleset.name] [.text ruleset.description] ruleset.projectId ++
    lines [
      "",
      "  <p>Share: <a href=\""] ++
    [.address (Export.url ruleset)] ++
    lines [
      "\">Download TSV</a></p>",
      "  <h2>Rules</h2>",
      "  <p><a href=\"/rulesets/"] ++
    [.text ruleset.id] ++
    lines [
      "/rules/new\">Add rule</a></p>",
      "  <table>",
      "    <tr><th>#</th><th>Name</th><th>Conditions</th><th>Message</th><th></th></tr>",
      "    "] ++
    forEach rules (ruleRow ruleset.id)
      (lines [
        "",
        "      <tr><td colspan=\"5\" class=\"muted\">No rules yet.</td></tr>",
        "    "]) ++
    lines [
      "",
      "  </table>",
      "",
      ""])
    rulesetScript

end Rulebook.Page
