import Rulebook.Ruleset.Basic
import Rulebook.Rule.Draft

/-!
# Submitted rulesets

The content a user submits for a ruleset: the name, which has to say something, and the project id
are kept without the blanks around them, the description as it is.
-/

namespace Rulebook

open Json (Decode Raw Record)

/-- The content of a ruleset, checked. -/
structure RulesetDraft where
  name : String
  description : String
  projectId : String
deriving DecidableEq

namespace RulesetDraft

/-- The checked content of what was submitted. -/
def of (name description projectId : String) : Except DraftFault RulesetDraft :=
  if Text.saysNothing name then .error .emptyName
  else .ok ⟨Text.trim name, description, Text.trim projectId⟩

/-- A ruleset with its content replaced. -/
def applyTo (d : RulesetDraft) (now : Time.Timestamp) (r : Ruleset) : Ruleset :=
  { r with
    name := d.name, description := d.description, projectId := d.projectId, updatedAt := now }

end RulesetDraft

/-- A submitted ruleset form. -/
structure RulesetForm where
  name : String
  description : String
  projectId : String
deriving DecidableEq

namespace RulesetForm

/-- A form read from a tree; only the name has to be there. -/
def read : Raw → Decode RulesetForm :=
  Record.read ["name", "description", "projectId"] fun r =>
    RulesetForm.mk <$> r.required "name" Raw.text <*> r.orElse "description" "" Raw.text
      <*> r.orElse "projectId" "" Raw.text

/-- A form read from its pairs: a known field may stand once, unknown ones are passed over. -/
def ofPairs (pairs : List (String × String)) : Decode RulesetForm :=
  read (.object (pairs.map fun (key, value) => (some key, .string (some value))))

/-- The checked content of a form. -/
def draft (f : RulesetForm) : Except DraftFault RulesetDraft :=
  RulesetDraft.of f.name f.description f.projectId

end RulesetForm

end Rulebook
