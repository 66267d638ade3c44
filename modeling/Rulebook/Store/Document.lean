import Rulebook.Json.Basic

/-!
# Collections and documents

Documents are kept in collections: one of rulesets, one of user tokens, and one of rules for every
ruleset id. A collection is addressed by a path, and different collections have different paths.

A document is a JSON value under an id. A new document carries its own id in a field named `id`, so
that a reader of the body knows it too; a body that is no object has no room for one.
-/

namespace Rulebook

/-- A collection of documents. -/
inductive Collection where
  | rulesets
  | userTokens
  | rules (rulesetId : String)
deriving DecidableEq, Repr

namespace Collection

/-- The path of a collection. -/
def path : Collection → String
  | .rulesets => "rulesets"
  | .userTokens => "userTokens"
  | .rules id => "rulesets/" ++ id ++ "/rules"

/-- The part of a list between a given start and a given end. -/
def between? (first last cs : List Char) : Option (List Char) :=
  if first.isPrefixOf cs then
    let rest := cs.drop first.length
    if last.isSuffixOf rest then some (rest.take (rest.length - last.length)) else none
  else none

/-- The collection at a path. -/
def ofPath? (path : String) : Option Collection :=
  if path = "rulesets" then some .rulesets
  else if path = "userTokens" then some .userTokens
  else
    (between? "rulesets/".toList "/rules".toList path.toList).map fun id =>
      .rules (String.ofList id)

end Collection

/-- A document. -/
structure Document where
  id : String
  fields : Json

/-- A body with an id in its `id` field. -/
def Json.withId (fields : Json) (id : String) : Json :=
  match fields with
  | .object members => .object (insertMember "id" (.string id) members)
  | other => other

/-- A test on one field. -/
structure FieldFilter where
  field : String
  value : Json

/-- Whether a body has the wanted value in the field. -/
def FieldFilter.accepts (f : FieldFilter) (fields : Json) : Bool :=
  match fields.get? f.field with
  | some v => v.same f.value
  | none => false

end Rulebook
