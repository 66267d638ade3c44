import Rulebook.Page.Rulesets
import Rulebook.Rule.Kept
import Rulebook.Ruleset.Kept
import Rulebook.Site.Visit

/-!
# Working on rulesets

The pages of rulesets, the two forms, the deletion by a script, and the export, which needs no
login. A form is looked at only once it is known who sends it.
-/

namespace Rulebook.Site

/-- The list of rulesets. -/
def rulesetList (v : Visit) : Handling :=
  v.forUser fun user => do
    let listing ← Rulesets.list.orRefuse (.internal "Failed to fetch rulesets")
    return (Page.rulesets user listing.items).respond

/-- The form for a new ruleset. -/
def rulesetNew (v : Visit) : Handling := do
  let projectId ← v.field "project_id"
  v.forUser fun user => return (Page.newRuleset user projectId).respond

/-- The form for an existing ruleset. -/
def rulesetEdit (id : String) (v : Visit) : Handling :=
  v.forUser fun user => do
    let ruleset ← (Rulesets.get id).orRefuse (.internal "Failed to fetch ruleset")
    let rules ← (Rules.list id).orRefuse (.internal "Failed to fetch ruleset")
    return (Page.editRuleset user ruleset rules.items).respond

/-- The ruleset that a request submits. -/
def submittedRuleset (r : Http.Request) : Option RulesetDraft := do
  let pairs ← Http.Form.pairs? r
  let form ← (RulesetForm.ofPairs pairs).toOption
  form.draft.toOption

/-- What is done with the ruleset that a visit submits. -/
def withRuleset (v : Visit) (act : RulesetDraft → Handling) : Handling :=
  match submittedRuleset v.request with
  | some draft => act draft
  | none => throw (.page 400 "Invalid ruleset data")

/-- A ruleset submitted as a new one. -/
def rulesetCreate (v : Visit) : Handling :=
  v.forUser fun _ => withRuleset v fun draft => do
    let _ ← (Rulesets.create v.now draft).orRefuse (.internal "Failed to create ruleset")
    return .redirect "/rulesets"

/-- A ruleset submitted in place of an existing one. -/
def rulesetUpdate (id : String) (v : Visit) : Handling :=
  v.forUser fun _ => withRuleset v fun draft => do
    let _ ← (Rulesets.update v.now id draft).orRefuse (.internal "Failed to update ruleset")
    return .redirect "/rulesets"

/-- A ruleset deleted by a script. -/
def rulesetDelete (id : String) (v : Visit) : Handling :=
  v.forScript do
    (Rulesets.delete id).orRefuse (.script .internalError "Failed to delete ruleset")
    return .json 200 (Notice.mk "Ruleset deleted successfully").toJson

/-- The media type of exports. -/
def exportType : String :=
  "text/tab-separated-values; charset=utf-8"

/-- The export with a public name. -/
def «export» (hash : String) (_ : Visit) : Handling := do
  let failed := Refusal.internal "Failed to export ruleset"
  match ← (Rulesets.findByHash hash).orRefuse failed with
  | none => throw (.page 404 "Ruleset not found")
  | some ruleset =>
    let rules ← (Rules.list ruleset.id).orRefuse failed
    match Export.tsv rules.items with
    | .ok text => return .attachment exportType (Export.fileName ruleset.name) text
    | .error _ => throw failed

end Rulebook.Site
