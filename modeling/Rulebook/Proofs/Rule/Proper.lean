import Rulebook.Proofs.Text.Blank
import Rulebook.Proofs.Time.Order
import Rulebook.Rule.Form
import Rulebook.Rule.Kept
import Rulebook.Ruleset.Kept

/-!
# What forms let through

A form yields a draft only if the name says something, and the draft has no blanks around the name,
no blanks around a project id, and only conditions that name a property and compare with a text
(`RuleDraft.proper_of_draft`, `RulesetDraft.proper_of_draft`). What is made of such drafts, and what
they are put into, is `Proper` too: times of change only move on with the clock.
-/

namespace Rulebook

/-- A name: it says something and has no blanks around it. -/
structure Text.IsName (s : String) : Prop where
  ne_empty : s ≠ ""
  trimmed : trim s = s

theorem Text.isName_trim {s : String} (h : saysNothing s = false) : IsName (trim s) :=
  ⟨trim_ne_empty h, trim_trim s⟩

/-- A condition that names a property and compares it with a text. -/
structure Condition.Proper (c : Condition) : Prop where
  named : Text.saysNothing c.propertyName = false
  text : ∃ s, c.value = .text s

/-! ## Rules -/

/-- The content of a rule as forms let it through. -/
structure RuleDraft.Proper (d : RuleDraft) : Prop where
  name : Text.IsName d.name
  conditions : ∀ c ∈ d.conditions, c.Proper

/-- The form of a rule lets proper content through only. -/
theorem RuleDraft.proper_of_draft {pairs : List (String × String)} {d : RuleDraft}
    (h : RuleForm.draft pairs = .ok d) : d.Proper := by
  unfold RuleForm.draft at h
  cases hcontent : RuleForm.Content.empty.addAll pairs with
  | error e => simp [hcontent] at h
  | ok content =>
    simp only [hcontent, RuleDraft.of] at h
    cases hname : Text.saysNothing content.name with
    | true => simp [hname] at h
    | false =>
      simp only [hname, Bool.false_eq_true, ↓reduceIte, Except.ok.injEq] at h
      subst h
      refine ⟨Text.isName_trim hname, fun c hc => ?_⟩
      obtain ⟨hrow, hproperty⟩ := List.mem_filter.mp hc
      obtain ⟨row, -, rfl⟩ := List.mem_map.mp hrow
      exact ⟨by simpa [Condition.namesProperty] using hproperty, row.2.value, rfl⟩

/-- A rule as it is kept: made of proper content, not changed before it was made, and not after an
instant. -/
structure Rule.Proper (latest : Time.Timestamp) (r : Rule) : Prop where
  name : Text.IsName r.name
  conditions : ∀ c ∈ r.conditions, c.Proper
  created : r.createdAt.atMost r.updatedAt = true
  updated : r.updatedAt.atMost latest = true

section

variable {latest now : Time.Timestamp} {r : Rule} {d : RuleDraft}

theorem Rule.Proper.mono (h : r.Proper latest) (hle : latest.atMost now = true) : r.Proper now :=
  { h with updated := Time.Timestamp.atMost_trans h.updated hle }

theorem RuleDraft.Proper.fresh (h : d.Proper) (now : Time.Timestamp) (order : Rank) (id : String) :
    Rule.Proper now { Rules.fresh now order d with id := id } :=
  ⟨h.name, h.conditions, now.atMost_refl, now.atMost_refl⟩

theorem RuleDraft.Proper.applyTo (h : d.Proper) (hr : r.Proper now) :
    (d.applyTo now r).Proper now :=
  ⟨h.name, h.conditions, Time.Timestamp.atMost_trans hr.created hr.updated, now.atMost_refl⟩

/-- A rule numbered afresh is as it was, and changed now. -/
theorem Rule.Proper.renumber {rules : List Rule} (h : ∀ r ∈ rules, r.Proper now) :
    ∀ r ∈ Rules.renumber now rules, r.Proper now := by
  intro r hr
  obtain ⟨i, hi, rfl⟩ := List.mem_iff_getElem.mp hr
  simp only [Rules.renumber, List.length_mapIdx] at hi
  have hold := h rules[i] (List.getElem_mem hi)
  simp only [Rules.renumber, List.getElem_mapIdx]
  exact ⟨hold.name, hold.conditions, Time.Timestamp.atMost_trans hold.created hold.updated,
    now.atMost_refl⟩

end

/-! ## Rulesets -/

/-- The content of a ruleset as forms let it through. -/
structure RulesetDraft.Proper (d : RulesetDraft) : Prop where
  name : Text.IsName d.name
  projectId : Text.trim d.projectId = d.projectId

/-- The form of a ruleset lets proper content through only. -/
theorem RulesetDraft.proper_of_draft {form : RulesetForm} {d : RulesetDraft}
    (h : form.draft = .ok d) : d.Proper := by
  unfold RulesetForm.draft RulesetDraft.of at h
  cases hname : Text.saysNothing form.name with
  | true => simp [hname] at h
  | false =>
    simp only [hname, Bool.false_eq_true, ↓reduceIte, Except.ok.injEq] at h
    subst h
    exact ⟨Text.isName_trim hname, Text.trim_trim form.projectId⟩

/-- A ruleset as it is kept: made of proper content, not changed before it was made, and not after
an instant. -/
structure Ruleset.Proper (latest : Time.Timestamp) (r : Ruleset) : Prop where
  name : Text.IsName r.name
  projectId : Text.trim r.projectId = r.projectId
  created : r.createdAt.atMost r.updatedAt = true
  updated : r.updatedAt.atMost latest = true

section

variable {latest now : Time.Timestamp} {r : Ruleset} {d : RulesetDraft}

theorem Ruleset.Proper.mono (h : r.Proper latest) (hle : latest.atMost now = true) :
    r.Proper now :=
  { h with updated := Time.Timestamp.atMost_trans h.updated hle }

theorem RulesetDraft.Proper.fresh (h : d.Proper) (now : Time.Timestamp) (id : String) :
    Ruleset.Proper now { Rulesets.fresh now d with id := id } :=
  ⟨h.name, h.projectId, now.atMost_refl, now.atMost_refl⟩

theorem RulesetDraft.Proper.applyTo (h : d.Proper) (hr : r.Proper now) :
    (d.applyTo now r).Proper now :=
  ⟨h.name, h.projectId, Time.Timestamp.atMost_trans hr.created hr.updated, now.atMost_refl⟩

end

end Rulebook
