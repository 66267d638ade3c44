import Mathlib.Data.Fin.VecNotation
import Rulebook.Proofs.Ruleset.Editing

/-!
# Updates and deletions side by side

The calls of the service that update and delete one ruleset or one rule are calls on one document. A
document that is deleted while an update stands between its two questions comes back
(`Crowd.deletion_undone_by_late_update`); otherwise a deletion is final
(`Crowd.deletion_final_unless_update_pending`).
-/

namespace Rulebook

/-- Rulesets are changed by submitted content. -/
def Rulesets.editing : Editing Ruleset where
  kind := kind
  collection := .rulesets
  malformed := malformed
  write := Ruleset.toJson
  idOf := (·.id)
  changes := {f | ∃ (draft : RulesetDraft) (now : Time.Timestamp), f = draft.applyTo now}
  writes := writes
  idOf_change := by
    rintro _ ⟨draft, now, rfl⟩ v
    rfl
  absorbs := by
    rintro _ ⟨draft, now, rfl⟩ _ ⟨draft', now', rfl⟩ v
    rfl

/-- The rules of a ruleset are changed by submitted content. -/
def Rules.editing (rulesetId : String) : Editing Rule where
  kind := kind
  collection := .rules rulesetId
  malformed := .malformedDocument (.rules rulesetId)
  write := Rule.toJson
  idOf := (·.id)
  changes := {f | ∃ (draft : RuleDraft) (now : Time.Timestamp), f = draft.applyTo now}
  writes := writes
  idOf_change := by
    rintro _ ⟨draft, now, rfl⟩ v
    rfl
  absorbs := by
    rintro _ ⟨draft, now, rfl⟩ _ ⟨draft', now', rfl⟩ v
    rfl

namespace Writer

/-- A call updates or deletes one document. -/
def Edits (k : Writer) (c : Collection) (id : String) : Prop :=
  match k.writing with
  | .updateRuleset rulesetId _ | .deleteRuleset rulesetId => c = .rulesets ∧ rulesetId = id
  | .editRule rulesetId (.update ruleId _) | .editRule rulesetId (.delete ruleId) =>
    c = .rules rulesetId ∧ ruleId = id
  | _ => False

variable {k : Writer} {id : String}

/-- A call that updates or deletes a ruleset. -/
theorem Edits.ruleset (h : k.Edits .rulesets id) : Rulesets.editing.Edits id k.program ∧
    (k.Deletes → k.program = Rulesets.editing.deletion id) := by
  obtain ⟨now, writing⟩ := k
  cases writing with
  | createRuleset draft => exact h.elim
  | updateRuleset rulesetId draft =>
    obtain ⟨-, rfl⟩ := h
    have hprogram : (Writer.mk now (.updateRuleset rulesetId draft)).program =
        Rulesets.editing.update rulesetId (draft.applyTo now) :=
      program_updateRuleset now rulesetId draft
    exact ⟨hprogram ▸ .update ⟨draft, now, rfl⟩, fun hdeletes => hdeletes.elim⟩
  | deleteRuleset rulesetId =>
    obtain ⟨-, rfl⟩ := h
    have hprogram : (Writer.mk now (.deleteRuleset rulesetId)).program =
        Rulesets.editing.deletion rulesetId := by
      refine congrArg (Program.ask (.store (.delete .rulesets rulesetId))) (funext fun a => ?_)
      cases a <;> rfl
    exact ⟨hprogram ▸ .deletion, fun _ => hprogram⟩
  | editRule rulesetId e =>
    cases e with
    | update ruleId draft => cases h.1
    | delete ruleId => cases h.1
    | create draft => exact h.elim
    | move ruleId direction => exact h.elim

/-- A call that updates or deletes a rule. -/
theorem Edits.rule {rulesetId : String} (h : k.Edits (.rules rulesetId) id) :
    (Rules.editing rulesetId).Edits id k.program ∧
      (k.Deletes → k.program = (Rules.editing rulesetId).deletion id) := by
  obtain ⟨now, writing⟩ := k
  cases writing with
  | createRuleset draft => exact h.elim
  | updateRuleset otherId draft => cases h.1
  | deleteRuleset otherId => cases h.1
  | editRule otherId e =>
    cases e with
    | update ruleId draft =>
      obtain ⟨hc, rfl⟩ := h
      obtain rfl : rulesetId = otherId := by simpa using hc
      have hprogram : (Writer.mk now (.editRule rulesetId (.update ruleId draft))).program =
          (Rules.editing rulesetId).update ruleId (draft.applyTo now) :=
        program_updateRule now rulesetId ruleId draft
      exact ⟨hprogram ▸ .update ⟨draft, now, rfl⟩, fun hdeletes => hdeletes.elim⟩
    | delete ruleId =>
      obtain ⟨hc, rfl⟩ := h
      obtain rfl : rulesetId = otherId := by simpa using hc
      have hprogram : (Writer.mk now (.editRule rulesetId (.delete ruleId))).program =
          (Rules.editing rulesetId).deletion ruleId := by
        refine congrArg (Program.ask (.store (.delete (.rules rulesetId) ruleId)))
          (funext fun a => ?_)
        cases a <;> rfl
      exact ⟨hprogram ▸ .deletion, fun _ => hprogram⟩
    | create draft => exact h.elim
    | move ruleId direction => exact h.elim

/-- Nothing is updated or deleted among the tokens. -/
theorem not_edits_userTokens : ¬ k.Edits .userTokens id := by
  obtain ⟨now, writing⟩ := k
  cases writing with
  | editRule rulesetId e => cases e <;> simp [Edits]
  | _ => simp [Edits]

end Writer

namespace Crowd

variable {ι : Type}

/-- **A deletion is final unless an update is pending.** Any number of calls update and delete one
ruleset or one rule, in any order, as long as no deletion succeeds while an update stands between
its two questions. Once a deletion has succeeded the document stays missing, and every call that is
not done fails for this in its next step. At every moment the world and the results are those of the
calls that are done, one after the other. -/
theorem deletion_final_unless_update_pending [DecidableEq ι] (around : Surroundings) (w : World)
    (calls : ι → Writer) {c : Collection} {id : String} (hedits : ∀ i, (calls i).Edits c id)
    (schedule : List ι)
    (hundisturbed : (ofWriters w calls).Undisturbed around.calm schedule) (later : List ι) :
    let st := (ofWriters w calls).run around.calm schedule
    let st' := st.run around.calm later
    (∀ j, (calls j).Deletes → st.result? j = some (.ok id) →
      (st'.world.store.shelf c).get? id = none ∧ ∀ i, st.result? i = none →
        (st'.step around.calm i).result? i = some (.error (.missing c id))) ∧
    ∃ order, st.InOrder around.calm w (fun i => (calls i).program) order := by
  cases c with
  | rulesets =>
    obtain ⟨hfinal, horder⟩ := Editing.final_of_undisturbed
      (fun i => (hedits i).ruleset.1) hundisturbed later
    exact ⟨fun j hj => hfinal j ((hedits j).ruleset.2 hj), horder⟩
  | rules rulesetId =>
    obtain ⟨hfinal, horder⟩ := Editing.final_of_undisturbed
      (fun i => (hedits i).rule.1) hundisturbed later
    exact ⟨fun j hj => hfinal j ((hedits j).rule.2 hj), horder⟩
  | userTokens =>
    have hnone : ∀ i, Rulesets.editing.Edits id (calls i).program := fun i =>
      absurd (hedits i) Writer.not_edits_userTokens
    obtain ⟨-, horder⟩ := Editing.final_of_undisturbed hnone hundisturbed later
    exact ⟨fun j => absurd (hedits j) Writer.not_edits_userTokens, horder⟩

/-- An update is done before a ruleset is deleted, and another one has not begun: it fails. -/
theorem update_fails_after_deletion :
    let now : Time.Timestamp := ⟨⟨2024, 6, 1, by decide⟩, 12, 30, 0, 0, by decide⟩
    let around := Surroundings.plain ⟨⟨"u-1", by decide⟩, "Ada", "ada@example.com", none⟩
    let first : Ruleset := ⟨"r", "first", "a", "p", [], now, now⟩
    let w : World := { World.start with store := Store.empty.set .rulesets "r" first.toJson }
    let calls : Fin 3 → Writer := ![⟨now, .updateRuleset "r" ⟨"second", "b", "q"⟩⟩,
      ⟨now, .deleteRuleset "r"⟩, ⟨now, .updateRuleset "r" ⟨"third", "c", "s"⟩⟩]
    let st := (ofWriters w calls).run around.calm [0, 0, 1]
    (ofWriters w calls).Undisturbed around.calm [0, 0, 1] ∧ st.result? 1 = some (.ok "r") ∧
      (st.world.store.shelf .rulesets).get? "r" = none ∧
      (st.step around.calm 2).result? 2 = some (.error (.missing .rulesets "r")) := by
  intro now around first w calls st
  have hedits : ∀ i, (calls i).Edits .rulesets "r"
    | 0 | 1 | 2 => ⟨rfl, rfl⟩
  have hundisturbed : (ofWriters w calls).Undisturbed around.calm [0, 0, 1] := by
    simp only [Undisturbed]
    decide +kernel
  have hdeleted : st.result? 1 = some (.ok "r") := by decide +kernel
  have hwaiting : st.result? 2 = none := by decide +kernel
  have hdeletes : (calls 1).Deletes := trivial
  obtain ⟨hfinal, -⟩ := deletion_final_unless_update_pending around w calls hedits [0, 0, 1]
    hundisturbed []
  rw [run_nil] at hfinal
  obtain ⟨habsent, hfails⟩ := hfinal 1 hdeletes (by with_reducible exact hdeleted)
  refine ⟨hundisturbed, hdeleted, ?_, ?_⟩
  · with_reducible exact habsent
  · with_reducible exact hfails 2 hwaiting

/-- A ruleset is deleted while an update stands between its two questions. The update succeeds, and
the ruleset is there again; one call after the other, in either order, would have left none. -/
theorem deletion_undone_by_late_update :
    let now : Time.Timestamp := ⟨⟨2024, 6, 1, by decide⟩, 12, 30, 0, 0, by decide⟩
    let around := Surroundings.plain ⟨⟨"u-1", by decide⟩, "Ada", "ada@example.com", none⟩
    let first : Ruleset := ⟨"r", "first", "a", "p", [], now, now⟩
    let w : World := { World.start with store := Store.empty.set .rulesets "r" first.toJson }
    let calls : Fin 2 → Writer := ![⟨now, .updateRuleset "r" ⟨"second", "b", "q"⟩⟩,
      ⟨now, .deleteRuleset "r"⟩]
    let p := fun i => (calls i).program
    let st := (ofWriters w calls).run around.calm [0, 1]
    let st' := st.run around.calm [0]
    (∀ i, (calls i).Edits .rulesets "r") ∧
      st.result? 1 = some (.ok "r") ∧ (st.world.store.shelf .rulesets).ids = [] ∧
      st'.result? 0 = some (.ok "r") ∧ (st'.world.store.shelf .rulesets).ids = ["r"] ∧
      ((Program.inTurn around.calm w [p 0, p 1]).store.shelf .rulesets).ids = [] ∧
      ((Program.inTurn around.calm w [p 1, p 0]).store.shelf .rulesets).ids = [] := by
  intro now around first w calls p st st'
  have hedits : ∀ i, (calls i).Edits .rulesets "r"
    | 0 | 1 => ⟨rfl, rfl⟩
  refine ⟨hedits, ?_, ?_, ?_, ?_, ?_, ?_⟩ <;> decide +kernel

end Crowd

end Rulebook
