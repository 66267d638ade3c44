import Rulebook.Proofs.Program.Outage
import Rulebook.Proofs.Rule.Sequence

/-!
# One call of the service

`Step.run` is the world after a call about rulesets or rules. A call touches one collection
(`Step.frame`), and it is carried out as if there were no outages, or not at all
(`Step.run_cases`).
-/

namespace Rulebook.Rules

variable (around : Surroundings) (w : World)

/-- A change asks about the rules of its ruleset only. -/
theorem Edit.only (now : Time.Timestamp) (rulesetId : String) (e : Edit) :
    (e.perform now rulesetId).Only (Call.About (.rules rulesetId)) := by
  cases e with
  | create draft => exact (only_create now rulesetId draft).bind fun _ => Attempt.only_pure _
  | update ruleId draft =>
    exact (only_update now rulesetId ruleId draft).bind fun _ => Attempt.only_pure _
  | delete ruleId => exact (only_delete rulesetId ruleId).bind fun _ => Attempt.only_pure _
  | move ruleId direction =>
    exact (only_reorder now rulesetId ruleId direction).bind fun _ => Attempt.only_pure _

/-- A change happens as without outages, or fails and changes nothing. -/
theorem Edit.allOrNothing (now : Time.Timestamp) (rulesetId : String) (e : Edit) :
    (e.perform now rulesetId).AllOrNothing := by
  cases e with
  | create draft => exact (allOrNothing_create now rulesetId draft).bind_pure _
  | update ruleId draft => exact (allOrNothing_update now rulesetId ruleId draft).bind_pure _
  | delete ruleId => exact (allOrNothing_delete rulesetId ruleId).bind_pure _
  | move ruleId direction =>
    exact (allOrNothing_reorder now rulesetId ruleId direction).bind_pure _

/-- A look at the rulesets changes nothing; any other call about them writes at most once. -/
theorem RulesetCall.looks_or_allOrNothing (now : Time.Timestamp) (call : RulesetCall) :
    (call.perform now).Only Call.Looks ∨ (call.perform now).AllOrNothing := by
  have hlooks : ∀ {α : Type} {p : Attempt StoreError α}, p.Only Call.Looks →
      (p >>= fun _ => pure ()).Only Call.Looks := fun h => h.bind fun _ => Attempt.only_pure _
  cases call with
  | create draft => exact .inr ((Rulesets.allOrNothing_create now draft).bind_pure _)
  | update id draft => exact .inr ((Rulesets.allOrNothing_update now id draft).bind_pure _)
  | delete id => exact .inr (Rulesets.allOrNothing_delete id)
  | get id => exact .inl (hlooks (Rulesets.views_get id).looks)
  | list => exact .inl (hlooks Rulesets.views_list.looks)
  | listOfProject projectId => exact .inl (hlooks (Rulesets.views_listOfProject projectId).looks)
  | findByHash hash => exact .inl (hlooks (Rulesets.views_findByHash hash).looks)

namespace Step

/-- The world after a call. -/
def run : Step → World
  | edit now rulesetId e => ((e.perform now rulesetId).runIn around w).2
  | ruleset now call => ((call.perform now).runIn around w).2

/-- The collection a call is about. -/
def collection : Step → Collection
  | edit _ rulesetId _ => .rules rulesetId
  | ruleset _ _ => .rulesets

/-- A call leaves all other collections alone. -/
theorem frame (step : Step) {c : Collection} (hc : step.collection ≠ c) :
    (step.run around w).store.shelf c = w.store.shelf c := by
  cases step with
  | edit now rulesetId e =>
    exact Program.shelf_of_only around
      ((e.only now rulesetId).mono fun _ h => h.written_ne hc) w
  | ruleset now call =>
    exact Program.shelf_of_only around
      ((call.only now).mono fun _ h => h.written_ne hc) w

/-- A call is carried out as without outages, or not at all. -/
theorem run_cases (step : Step) :
    step.run around w = step.run around.calm w ∨ step.run around w = w := by
  cases step with
  | edit now rulesetId e => exact (e.allOrNothing now rulesetId).world_cases around w
  | ruleset now call =>
    rcases call.looks_or_allOrNothing now with hlooks | hcall
    · exact .inr (Program.world_of_only around hlooks w)
    · exact hcall.world_cases around w

end Step

end Rulebook.Rules
