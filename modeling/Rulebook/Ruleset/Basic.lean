import Rulebook.Rule.Basic

/-!
# Rulesets

A ruleset is a named collection of rules attached to a project. Its rules are kept apart, one
document each; the list inside the ruleset's own document is carried along for documents of older
releases and is otherwise empty.
-/

namespace Rulebook

open Json (Decode Raw Record)

/-- A ruleset, with times of some type. -/
@[ext]
structure RulesetOf (τ : Type) where
  id : String
  name : String
  description : String
  projectId : String
  rules : List (RuleOf τ)
  createdAt : τ
  updatedAt : τ
deriving DecidableEq

namespace RulesetOf

variable {τ : Type}

/-- A ruleset as a value. -/
def write (writeTime : τ → Json) (r : RulesetOf τ) : Json :=
  .object [("createdAt", writeTime r.createdAt), ("description", .string r.description),
    ("id", .string r.id), ("name", .string r.name), ("projectId", .string r.projectId),
    ("rules", .array (r.rules.map (·.write writeTime))), ("updatedAt", writeTime r.updatedAt)]

/-- The fields of a ruleset in their declared order. -/
def fieldNames : List String :=
  ["id", "name", "description", "projectId", "rules", "createdAt", "updatedAt"]

/-- A ruleset read from a tree; only the name and the two times have to be there. -/
def readWith (readTime : Raw → Decode τ) : Raw → Decode (RulesetOf τ) :=
  Record.read fieldNames fun r =>
    RulesetOf.mk <$> r.orElse "id" "" Raw.text <*> r.required "name" Raw.text
      <*> r.orElse "description" "" Raw.text <*> r.orElse "projectId" "" Raw.text
      <*> r.orElse "rules" [] (Raw.list (RuleOf.readWith readTime))
      <*> r.required "createdAt" readTime <*> r.required "updatedAt" readTime

end RulesetOf

/-- A ruleset. -/
abbrev Ruleset := RulesetOf Time.Timestamp

namespace Ruleset

/-- A ruleset as a value. -/
def toJson (r : Ruleset) : Json :=
  r.write Time.Timestamp.toJson

/-- A ruleset read from a tree. -/
def read : Raw → Decode Ruleset :=
  RulesetOf.readWith Time.Timestamp.read

end Ruleset

end Rulebook
