import Rulebook.Page.Layout
import Rulebook.Rule.Basic

/-!
# The page of a rule

The form for a new or existing rule. It has a row of inputs for every condition and at least one
row.
-/

namespace Rulebook.Page

/-- What stands in the inputs of a condition. -/
structure ConditionInputs where
  propertyName : String
  predicate : String
  value : String
deriving DecidableEq, Repr

/-- The inputs of a condition, its value in the form it is shown in. -/
def ConditionInputs.of (c : Condition) : ConditionInputs :=
  ⟨c.propertyName, c.predicate, c.value.display⟩

/-- The rows of inputs of a rule: one for each condition, or a single blank one. -/
def conditionInputs (rule : Option Rule) : List ConditionInputs :=
  match rule.map (·.conditions) with
  | none | some [] => [⟨"", "", ""⟩]
  | some cs => cs.map ConditionInputs.of

/-- One row of inputs. -/
def conditionRow (place : Nat) (c : ConditionInputs) : Page :=
  lines [
    "",
    "      <tr>",
    "        <td><input name=\"conditions["] ++
  [number place, .fixed "][propertyName]\" value=\"", .text c.propertyName] ++
  lines [
    "\"></td>",
    "        <td><input name=\"conditions["] ++
  [number place, .fixed "][predicate]\" value=\"", .text c.predicate] ++
  lines [
    "\"></td>",
    "        <td><input name=\"conditions["] ++
  [number place, .fixed "][value]\" value=\"", .text c.value] ++
  lines [
    "\"></td>",
    "      </tr>",
    "    "]

/-- A text of the rule being edited; a new rule has none. -/
def ofRule (rule : Option Rule) (text : Rule → String) : Page :=
  match rule with
  | none => []
  | some r => [.text (text r)]

/-- The title of the form. -/
def ruleTitle (rule : Option Rule) : String :=
  if rule.isSome then "Edit Rule" else "New Rule"

/-- The form for a new or existing rule. -/
def ruleForm (user : User) (rulesetId : String) (rule : Option Rule) : Page :=
  layout (ruleTitle rule) (some user)
    (lines [
      "",
      "<h1>"] ++
    [.text (ruleTitle rule)] ++
    lines [
      "</h1>",
      "<form method=\"post\" action=\"/rulesets/"] ++
    [.text rulesetId, .fixed "/rules"] ++
    when rule.isSome [.fixed "/"] ++
    ofRule rule (·.id) ++
    lines [
      "\">",
      "  <p><label>Name <input name=\"name\" required value=\""] ++
    ofRule rule (·.name) ++
    lines [
      "\"></label></p>",
      "  <p><label>Description <textarea name=\"description\">"] ++
    ofRule rule (·.description) ++
    lines [
      "</textarea></label></p>",
      "  <table id=\"conditions\">",
      "    <tr><th>Property</th><th>Predicate</th><th>Value</th></tr>",
      "    "] ++
    forEach (conditionInputs rule) conditionRow [] ++
    lines [
      "",
      "  </table>",
      "  <button type=\"button\" id=\"add-condition\">Add condition</button>",
      "  <p><label>Message <input name=\"message\" value=\""] ++
    ofRule rule (·.message) ++
    lines [
      "\"></label></p>",
      "  <button type=\"submit\">Save</button>",
      "  <a href=\"/rulesets/"] ++
    [.text rulesetId] ++
    lines [
      "/edit\">Cancel</a>",
      "</form>",
      ""])
    (lines [
      "",
      "<script>",
      "  document.getElementById(\"add-condition\").addEventListener(\"click\", () => \x7b",
      "    const table = document.getElementById(\"conditions\");",
      "    const index = table.rows.length - 1;",
      "    const row = table.insertRow();",
      "    [\"propertyName\", \"predicate\", \"value\"].forEach((field) => \x7b",
      "      const input = document.createElement(\"input\");",
      "      input.name = \x60conditions[$\x7bindex\x7d][$\x7bfield\x7d]\x60;",
      "      row.insertCell().appendChild(input);",
      "    \x7d);",
      "  \x7d);",
      "</script>",
      ""])

end Rulebook.Page
