import Rulebook.Page.Rules
import Rulebook.Rule.Form
import Rulebook.Rule.Kept
import Rulebook.Site.Visit

/-!
# Working on rules

The form of a rule, its two ways to be submitted, and what scripts do: delete a rule and move it. A
submitted rule leads back to the form of its ruleset.
-/

namespace Rulebook.Site

/-- The address of the form of a ruleset. -/
def editAddress (rulesetId : String) : String :=
  "/rulesets/" ++ rulesetId ++ "/edit"

/-- The form for a new rule. -/
def ruleNew (rulesetId : String) (v : Visit) : Handling :=
  v.forUser fun user => return (Page.ruleForm user rulesetId none).respond

/-- The form for an existing rule. -/
def ruleEdit (rulesetId ruleId : String) (v : Visit) : Handling :=
  v.forUser fun user => do
    let rule ← (Rules.get rulesetId ruleId).orRefuse (.internal "Failed to fetch rule")
    return (Page.ruleForm user rulesetId (some rule)).respond

/-- The rule that a request submits. -/
def submittedRule (r : Http.Request) : Option RuleDraft := do
  let pairs ← Http.Form.pairs? r
  (RuleForm.draft pairs).toOption

/-- What is done with the rule that a visit submits. -/
def withRule (v : Visit) (act : RuleDraft → Handling) : Handling :=
  match submittedRule v.request with
  | some draft => act draft
  | none => throw (.page 400 "Invalid rule data")

/-- A rule submitted as a new one. -/
def ruleCreate (rulesetId : String) (v : Visit) : Handling :=
  v.forUser fun _ => withRule v fun draft => do
    let _ ← (Rules.create v.now rulesetId draft).orRefuse (.internal "Failed to add rule")
    return .redirect (editAddress rulesetId)

/-- A rule submitted in place of an existing one. -/
def ruleUpdate (rulesetId ruleId : String) (v : Visit) : Handling :=
  v.forUser fun _ => withRule v fun draft => do
    let _ ← (Rules.update v.now rulesetId ruleId draft).orRefuse
      (.internal "Failed to update rule")
    return .redirect (editAddress rulesetId)

/-- A rule deleted by a script. -/
def ruleDelete (rulesetId ruleId : String) (v : Visit) : Handling :=
  v.forScript do
    (Rules.delete rulesetId ruleId).orRefuse (.script .internalError "Failed to delete rule")
    return .json 200 (Notice.mk "Rule deleted successfully").toJson

/-- The answer to a script that has moved a rule. -/
def reordered (rules : List Rule) : Json :=
  .object [("message", .string "Rule reordered successfully"),
    ("rules", .array (rules.map Rule.toJson))]

/-- A rule moved by a script. -/
def ruleReorder (rulesetId ruleId : String) (v : Visit) : Handling := do
  let direction ← v.field "direction"
  v.forScript do
    match Direction.parse? (direction.getD "") with
    | none => throw (.script .invalidRequest "Invalid reorder direction")
    | some direction =>
      let rules ← (Rules.reorder v.now rulesetId ruleId direction).orRefuse
        (.script .internalError "Failed to reorder rule")
      return .json 200 (reordered rules)

end Rulebook.Site
