import Rulebook.Listing
import Rulebook.Program
import Rulebook.Rule.Draft

/-!
# Rules in the store

What is done with the rules of a ruleset that are kept. A rule is appended by giving it a rank
above every other. A move swaps a rule with its neighbour and numbers all rules afresh from one,
in a single batch; a move past either end changes nothing.
-/

namespace Rulebook.Rules

/-- How the documents of a collection of rules are read. -/
def kind : DocumentKind Rule :=
  ⟨Rule.read, fun id r => { r with id := id }⟩

/-- The rules of a ruleset, by rank and then by id. -/
def list (rulesetId : String) : Attempt StoreError (Listing Rule) := do
  let docs ← Attempt.list (.rules rulesetId) none
  let listing := kind.listing docs
  return { listing with items := Rule.sort listing.items }

/-- One rule of a ruleset. -/
def get (rulesetId ruleId : String) : Attempt StoreError Rule := do
  let doc ← Attempt.get (.rules rulesetId) ruleId
  match kind.ofDocument? doc with
  | some r => return r
  | none => throw (.malformedDocument (.rules rulesetId) ruleId)

/-- The rank after the greatest of some ranks, counted from zero where there are none. -/
def rankAfter : List Rank → Rank
  | [] => Rank.zero.next
  | r :: rs => (rs.foldl (fun a b => if a.value < b.value then b else a) r).next

/-- A rule of submitted content, not yet kept under an id. -/
def fresh (now : Time.Timestamp) (order : Rank) (draft : RuleDraft) : Rule where
  id := ""
  name := draft.name
  description := draft.description
  conditions := draft.conditions
  message := draft.message
  order := order
  createdAt := now
  updatedAt := now

/-- A new rule at the end of a ruleset; the result carries its id. -/
def create (now : Time.Timestamp) (rulesetId : String) (draft : RuleDraft) :
    Attempt StoreError Rule := do
  let existing ← list rulesetId
  let rule := fresh now (rankAfter (existing.items.map (·.order))) draft
  let id ← Attempt.add (.rules rulesetId) rule.toJson
  return { rule with id := id }

/-- A rule with its content replaced. -/
def update (now : Time.Timestamp) (rulesetId ruleId : String) (draft : RuleDraft) :
    Attempt StoreError Rule := do
  let old ← get rulesetId ruleId
  let new := draft.applyTo now old
  Attempt.set (.rules rulesetId) ruleId new.toJson
  return new

/-- A rule removed. -/
def delete (rulesetId ruleId : String) : Attempt StoreError Unit :=
  Attempt.delete (.rules rulesetId) ruleId

/-- The place next to `position` in a direction, among `count` places. -/
def neighbour (position count : Nat) : Direction → Option Nat
  | .up => if position = 0 then none else some (position - 1)
  | .down => if position + 1 < count then some (position + 1) else none

/-- A list with two of its items swapped. -/
def swap {α : Type} (xs : List α) (i j : Nat) : List α :=
  match xs[i]?, xs[j]? with
  | some a, some b => (xs.set i b).set j a
  | _, _ => xs

/-- Rules numbered from one in their order. -/
def renumber (now : Time.Timestamp) (rules : List Rule) : List Rule :=
  rules.mapIdx fun i r => { r with order := Rank.clamp (Int.ofNat i + 1), updatedAt := now }

/-- A rule as a document. -/
def document (r : Rule) : Document :=
  ⟨r.id, r.toJson⟩

/-- A rule moved one place; the result is the rules in their order afterwards. -/
def reorder (now : Time.Timestamp) (rulesetId ruleId : String) (direction : Direction) :
    Attempt StoreError (List Rule) := do
  let listing ← list rulesetId
  let rules := listing.items
  match rules.findIdx? fun r => r.id = ruleId with
  | none => throw (.missing (.rules rulesetId) ruleId)
  | some position =>
    match neighbour position rules.length direction with
    | none => return rules
    | some other =>
      let moved := renumber now (swap rules position other)
      Attempt.setAll (.rules rulesetId) (moved.map document)
      return moved

end Rulebook.Rules
