import Rulebook.Rule.Basic

/-!
# Submitted rules

The content a user submits for a rule. The name is kept without the blanks around it and has to say
something; conditions that name no property are dropped.
-/

namespace Rulebook

/-- Why submitted content is refused. -/
inductive DraftFault where
  | emptyName
deriving DecidableEq, Repr

/-- What is said about refused content. -/
def DraftFault.message : DraftFault → String
  | .emptyName => "name must not be empty"

/-- The content of a rule, checked. -/
structure RuleDraft where
  name : String
  description : String
  message : String
  conditions : List Condition
deriving DecidableEq

namespace RuleDraft

/-- The checked content of what was submitted. -/
def of (name description message : String) (conditions : List Condition) :
    Except DraftFault RuleDraft :=
  if Text.saysNothing name then .error .emptyName
  else .ok ⟨Text.trim name, description, message, Condition.clean conditions⟩

/-- A rule with its content replaced. -/
def applyTo (d : RuleDraft) (now : Time.Timestamp) (r : Rule) : Rule :=
  { r with
    name := d.name, description := d.description, message := d.message,
    conditions := d.conditions, updatedAt := now }

end RuleDraft

end Rulebook
