import Rulebook.Listing
import Rulebook.Program
import Rulebook.Ruleset.Draft
import Rulebook.Ruleset.Export

/-!
# Rulesets in the store

What is done with the rulesets that are kept. Every operation is a program of one or two questions
to the store and passes its failures on as they are. An update reads the document first, so it
never makes one that was not there, and keeps all that a form cannot change.
-/

namespace Rulebook.Rulesets

/-- How the documents of the collection of rulesets are read. -/
def kind : DocumentKind Ruleset :=
  ⟨Ruleset.read, fun id r => { r with id := id }⟩

/-- The failure that says a ruleset's document does not read as a ruleset. -/
def malformed (id : String) : StoreError :=
  .malformedDocument .rulesets id

/-- The field that ties a ruleset to its project. -/
def projectField : String :=
  "projectId"

/-- The filter that passes the rulesets of a project. -/
def ofProjectFilter (projectId : String) : FieldFilter :=
  ⟨projectField, .string projectId⟩

/-- All rulesets, ascending by id. -/
def list : Attempt StoreError (Listing Ruleset) := do
  let docs ← Attempt.list .rulesets none
  return kind.listing docs

/-- The rulesets of one project, ascending by id. -/
def listOfProject (projectId : String) : Attempt StoreError (Listing Ruleset) := do
  let docs ← Attempt.list .rulesets (some (ofProjectFilter projectId))
  return kind.listing docs

/-- One ruleset. -/
def get (id : String) : Attempt StoreError Ruleset := do
  let doc ← Attempt.get .rulesets id
  match kind.ofDocument? doc with
  | some r => return r
  | none => throw (malformed id)

/-- The first ruleset whose export has the given public name. -/
def findByHash (hash : String) : Attempt StoreError (Option Ruleset) := do
  let listing ← list
  return listing.items.find? fun r => Export.hashOf r = hash

/-- A ruleset of submitted content, not yet kept under an id. -/
def fresh (now : Time.Timestamp) (draft : RulesetDraft) : Ruleset where
  id := ""
  name := draft.name
  description := draft.description
  projectId := draft.projectId
  rules := []
  createdAt := now
  updatedAt := now

/-- A new ruleset; the result carries its id. -/
def create (now : Time.Timestamp) (draft : RulesetDraft) : Attempt StoreError Ruleset := do
  let id ← Attempt.add .rulesets (fresh now draft).toJson
  return { fresh now draft with id := id }

/-- A ruleset with its content replaced. -/
def update (now : Time.Timestamp) (id : String) (draft : RulesetDraft) :
    Attempt StoreError Ruleset := do
  let old ← get id
  let new := draft.applyTo now old
  Attempt.set .rulesets id new.toJson
  return new

/-- A ruleset removed; its rules stay where they are. -/
def delete (id : String) : Attempt StoreError Unit :=
  Attempt.delete .rulesets id

end Rulebook.Rulesets
