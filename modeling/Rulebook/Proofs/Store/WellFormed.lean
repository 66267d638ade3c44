import Rulebook.Proofs.Rule.Proper
import Rulebook.Proofs.Rule.Step
import Rulebook.Proofs.Ruleset.ReadBack
import Rulebook.Proofs.Store.Filled

/-!
# Well-formed stores

A store is well-formed when all its rulesets and rules are proper ones, none of which has been
changed after an instant, the ranks of the rules of a ruleset are positive, different and within a
bound, and every token is kept under the id of its owner. A call of the service with content as
forms let it through keeps a store well-formed (`Store.WellFormed.run`). The bound only moves when
a rule is made, so ranks do not run out before that many rules have been made.
-/

namespace Rulebook

/-! ## Calls with proper content -/

namespace Rules

/-- A change with content as forms let it through. -/
def Edit.Proper : Edit → Prop
  | create draft | update _ draft => draft.Proper
  | delete _ | move _ _ => True

/-- A call about rulesets with content as forms let it through. -/
def RulesetCall.Proper : RulesetCall → Prop
  | create draft | update _ draft => draft.Proper
  | delete _ | get _ | list | listOfProject _ | findByHash _ => True

/-- A call at a given time with content as forms let it through. -/
def Step.Proper (now : Time.Timestamp) : Step → Prop
  | edit time _ e => time = now ∧ e.Proper
  | ruleset time call => time = now ∧ call.Proper

variable {around : Surroundings} {w : World} {now : Time.Timestamp} {rulesetId : String}

/-- A change of proper content leaves proper rules only. -/
theorem Edit.Proper.filled {e : Edit} (he : e.Proper)
    (h : (w.store.shelf (.rules rulesetId)).Filled Rule.toJson (·.id) (Rule.Proper now)) :
    (((e.perform now rulesetId).runIn around.calm w).2.store.shelf (.rules rulesetId)).Filled
      Rule.toJson (·.id) (Rule.Proper now) := by
  cases e with
  | create draft =>
    obtain ⟨skipped, hlist⟩ := list_runIn_listed around w rulesetId
    rw [Edit.perform, Attempt.world_bind_pure, create_eq, Attempt.runIn_bind, hlist]
    exact h.make writes fun _ => RuleDraft.Proper.fresh he now _ _
  | update ruleId draft =>
    rw [Edit.perform, Attempt.world_bind_pure, update_eq]
    exact h.rewrite writes (fun _ => rfl) fun r hr => RuleDraft.Proper.applyTo he hr
  | delete ruleId =>
    rw [Edit.perform, Attempt.world_bind_pure]
    exact h.delete ruleId
  | move ruleId direction =>
    rw [Edit.perform, Attempt.world_bind_pure]
    rcases reorder_runIn_cases around w now rulesetId ruleId direction with
      ⟨out, hrun, -⟩ | ⟨moved, hperm, hrun⟩
    · rw [hrun]
      exact h
    · have hmoved : ∀ r ∈ moved, r.Proper now := by
        intro r hr
        obtain ⟨d, hd, hread⟩ := mem_listed.mp (hperm.mem_iff.mp hr)
        exact h.of_ofDocument? writes hd hread
      rw [hrun]
      change ((w.store.setAll (.rules rulesetId) _).shelf (.rules rulesetId)).Filled _ _ _
      rw [Store.setAll, Store.shelf_put_self]
      exact h.insertAll (Rule.Proper.renumber hmoved)

/-- A call with proper content leaves rulesets of a property only, if new rulesets of such content
have it and changed ones keep it. -/
theorem RulesetCall.Proper.filled_of {call : RulesetCall} (hcall : call.Proper)
    {P : Ruleset → Prop}
    (hmake : ∀ draft : RulesetDraft, draft.Proper → ∀ n,
      P { Rulesets.fresh now draft with id := around.supply.candidate n })
    (hchange : ∀ draft : RulesetDraft, draft.Proper → ∀ r, P r → P (draft.applyTo now r))
    (h : (w.store.shelf .rulesets).Filled Ruleset.toJson (·.id) P) :
    (((call.perform now).runIn around.calm w).2.store.shelf .rulesets).Filled
      Ruleset.toJson (·.id) P := by
  have hlooks : ∀ {α : Type} {p : Attempt StoreError α}, p.Only Call.Looks →
      (((p >>= fun _ => pure ()).runIn around.calm w).2.store.shelf .rulesets).Filled
        Ruleset.toJson (·.id) P := by
    intro α p hp
    have hworld : (p.runIn around.calm w).2 = w := Program.world_of_only _ hp w
    rw [Attempt.world_bind_pure, hworld]
    exact h
  cases call with
  | create draft =>
    rw [RulesetCall.perform, Attempt.world_bind_pure, Rulesets.create_eq]
    exact h.make Rulesets.writes (hmake draft hcall)
  | update id draft =>
    rw [RulesetCall.perform, Attempt.world_bind_pure, Rulesets.update_eq]
    exact h.rewrite Rulesets.writes (fun _ => rfl) (hchange draft hcall)
  | delete id => exact h.delete id
  | get id => exact hlooks (Rulesets.views_get id).looks
  | list => exact hlooks Rulesets.views_list.looks
  | listOfProject projectId => exact hlooks (Rulesets.views_listOfProject projectId).looks
  | findByHash hash => exact hlooks (Rulesets.views_findByHash hash).looks

/-- A call with proper content leaves proper rulesets only. -/
theorem RulesetCall.Proper.filled {call : RulesetCall} (hcall : call.Proper)
    (h : (w.store.shelf .rulesets).Filled Ruleset.toJson (·.id) (Ruleset.Proper now)) :
    (((call.perform now).runIn around.calm w).2.store.shelf .rulesets).Filled
      Ruleset.toJson (·.id) (Ruleset.Proper now) :=
  hcall.filled_of (fun _ hdraft _ => hdraft.fresh now _) (fun _ hdraft _ hr => hdraft.applyTo hr) h

end Rules

/-! ## The invariant -/

/-- All rulesets and rules are proper and not changed after `latest`, ranks are positive, different
and at most `bound`, and tokens are kept under the ids of their owners. -/
structure Store.WellFormed (bound : Nat) (latest : Time.Timestamp) (s : Store) : Prop where
  rulesets : (s.shelf .rulesets).Filled Ruleset.toJson (·.id) (Ruleset.Proper latest)
  rules : ∀ id, (s.shelf (.rules id)).Filled Rule.toJson (·.id) (Rule.Proper latest)
  ranked : ∀ id, ∃ rules, Rules.Ranked bound (s.shelf (.rules id)) rules
  tokens : (s.shelf .userTokens).Filled UserToken.toJson (·.owner.text) fun _ => True

namespace Store.WellFormed

variable {bound bound' : Nat} {latest now : Time.Timestamp} {s s' : Store} {w : World}

theorem empty (bound : Nat) (latest : Time.Timestamp) : Store.empty.WellFormed bound latest where
  rulesets := .empty
  rules _ := .empty
  ranked _ := ⟨[], .empty bound⟩
  tokens := .empty

/-- A greater bound and a later instant do as well. -/
theorem mono (h : s.WellFormed bound latest) (hbound : bound ≤ bound')
    (hlatest : latest.atMost now = true) : s.WellFormed bound' now where
  rulesets := h.rulesets.mono fun _ hr => hr.mono hlatest
  rules id := (h.rules id).mono fun _ hr => hr.mono hlatest
  ranked id := (h.ranked id).imp fun _ hr => hr.mono hbound
  tokens := h.tokens

/-- Only the shelves count, and those of tokens by themselves. -/
theorem congr (h : s.WellFormed bound latest)
    (hshelf : ∀ c, c ≠ .userTokens → s'.shelf c = s.shelf c)
    (htokens : (s'.shelf .userTokens).Filled UserToken.toJson (·.owner.text) fun _ => True) :
    s'.WellFormed bound latest where
  rulesets := by
    rw [hshelf _ (by simp)]
    exact h.rulesets
  rules id := by
    rw [hshelf _ (by simp)]
    exact h.rules id
  ranked id := by
    rw [hshelf _ (by simp)]
    exact h.ranked id
  tokens := htokens

/-- A call with proper content keeps a store well-formed. -/
theorem run (h : w.store.WellFormed bound now) (around : Surroundings) {step : Rules.Step}
    (hstep : step.Proper now) (hroom : bound + step.made ≤ 0x7fffffffffffffff) :
    (step.run around.calm w).store.WellFormed (bound + step.made) now := by
  have hframe : ∀ {c}, step.collection ≠ c →
      (step.run around.calm w).store.shelf c = w.store.shelf c := step.frame around.calm w
  have hkept := h.mono (Nat.le_add_right bound step.made) now.atMost_refl
  have htokens : ((step.run around.calm w).store.shelf .userTokens).Filled UserToken.toJson
      (·.owner.text) fun _ => True := by
    rw [hframe (by cases step <;> simp [Rules.Step.collection])]
    exact h.tokens
  cases step with
  | edit time rulesetId e =>
    obtain ⟨rfl, he⟩ := hstep
    have hother : ∀ c, c ≠ .rules rulesetId →
        ((Rules.Step.edit time rulesetId e).run around.calm w).store.shelf c = w.store.shelf c :=
      fun c hc => hframe hc.symm
    refine ⟨?_, fun id => ?_, fun id => ?_, htokens⟩
    · rw [hother _ (by simp)]
      exact hkept.rulesets
    · by_cases hid : id = rulesetId
      · subst hid
        exact he.filled (h.rules id)
      · rw [hother _ (by simpa using hid)]
        exact hkept.rules id
    · by_cases hid : id = rulesetId
      · subst hid
        obtain ⟨rules, hranked⟩ := h.ranked id
        obtain ⟨rules', hranked', -⟩ := (e.simulates around hranked hroom).ranked
        exact ⟨rules', hranked'⟩
      · rw [hother _ (by simpa using hid)]
        exact hkept.ranked id
  | ruleset time call =>
    obtain ⟨rfl, hcall⟩ := hstep
    refine ⟨hcall.filled h.rulesets, fun id => ?_, fun id => ?_, htokens⟩
    · rw [hframe (by simp [Rules.Step.collection])]
      exact hkept.rules id
    · rw [hframe (by simp [Rules.Step.collection])]
      exact hkept.ranked id

end Store.WellFormed

end Rulebook
