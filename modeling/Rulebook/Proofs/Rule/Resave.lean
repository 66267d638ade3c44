import Rulebook.Proofs.Page.RuleForm
import Rulebook.Proofs.Rule.Form
import Rulebook.Proofs.Ruleset.Export
import Rulebook.Proofs.Ruleset.Update

/-!
# Saving a form as it is shown

The form of a rule shows the rule, and what it submits unchanged is the rule again, except that
every value has become the text that was shown of it (`Rule.resubmitted`). This is so in whatever
order the fields are sent, since no two of them set the same thing (`RuleForm.lastFor_unchanged`).
An export shows nothing else of a value, so it does not change (`Export.tsv_congr`), and a second
save finds texts only and changes nothing but the time.
-/

namespace Rulebook

/-- A condition with the text that is shown of its value in place of the value. -/
def Condition.retyped (c : Condition) : Condition :=
  { c with value := .text c.value.display }

/-- What the form of a rule submits as it is shown. -/
def Rule.resubmitted (r : Rule) : RuleDraft :=
  ⟨r.name, r.description, r.message, r.conditions.map Condition.retyped⟩

namespace RuleForm

/-! ## What a form sets -/

/-- The name a slot has on a form. -/
def Slot.key : Slot → String
  | .name => "name"
  | .description => "description"
  | .message => "message"
  | .condition index part => fieldName index part

/-- The row that a row of inputs makes. -/
def rowOf (c : Page.ConditionInputs) : Row :=
  ⟨c.propertyName, c.predicate, c.value⟩

/-- What the form of a rule shows in a slot. -/
def shownIn (r : Rule) : Slot → Option String
  | .name => some r.name
  | .description => some r.description
  | .message => some r.message
  | .condition index part =>
    (Page.conditionInputs (some r))[index]?.map fun c => (rowOf c).get part

variable {r : Rule} {index : Nat} {part : Part} {slot : Slot} {key value : String}
  {pairs : List (String × String)}

theorem names_fieldName (h : index < indexLimit) : Names (fieldName index part) index part := by
  refine ⟨String.ofList (Nat.toDigits 10 index), ⟨Nat.toDigits 10 index, .inl String.toList_ofList,
    Nat.toDigits_ne_nil, fun c => Nat.isDigit_of_mem_toDigits (by decide) (by decide),
    Nat.ofDigitChars_ten_toDigits, ?_⟩, rfl⟩
  unfold indexLimit at h
  omega

theorem mem_rowFields {c : Page.ConditionInputs} :
    (key, value) ∈ rowFields index c ↔
      ∃ part, (rowOf c).get part = value ∧ key = fieldName index part := by
  constructor
  · intro h
    simp only [rowFields, List.mem_cons, List.not_mem_nil, or_false, Prod.mk.injEq] at h
    rcases h with ⟨rfl, rfl⟩ | ⟨rfl, rfl⟩ | ⟨rfl, rfl⟩
    · exact ⟨.propertyName, rfl, rfl⟩
    · exact ⟨.predicate, rfl, rfl⟩
    · exact ⟨.value, rfl, rfl⟩
  · rintro ⟨part, rfl, rfl⟩
    cases part <;> simp [rowFields, rowOf, Row.get]

/-- The fields of a form are its slots that show something, under their names. -/
theorem mem_fieldsOf :
    (key, value) ∈ fieldsOf r ↔ ∃ slot, shownIn r slot = some value ∧ key = slot.key := by
  have hrows : (key, value) ∈ ((Page.conditionInputs (some r)).mapIdx rowFields).flatten ↔
      ∃ index part, shownIn r (.condition index part) = some value ∧
        key = fieldName index part := by
    simp only [List.mem_flatten, List.mem_mapIdx, shownIn, Option.map_eq_some_iff,
      List.getElem?_eq_some_iff]
    constructor
    · rintro ⟨_, ⟨index, hindex, rfl⟩, hmem⟩
      obtain ⟨part, hvalue, hkey⟩ := mem_rowFields.mp hmem
      exact ⟨index, part, ⟨_, ⟨hindex, rfl⟩, hvalue⟩, hkey⟩
    · rintro ⟨index, part, ⟨_, ⟨hindex, rfl⟩, hvalue⟩, hkey⟩
      exact ⟨_, ⟨index, hindex, rfl⟩, mem_rowFields.mpr ⟨part, hvalue, hkey⟩⟩
  simp only [fieldsOf, List.mem_append, hrows, List.mem_cons, List.not_mem_nil, or_false,
    Prod.mk.injEq]
  constructor
  · rintro (((⟨rfl, rfl⟩ | ⟨rfl, rfl⟩) | ⟨index, part, h⟩) | ⟨rfl, rfl⟩)
    · exact ⟨.name, rfl, rfl⟩
    · exact ⟨.description, rfl, rfl⟩
    · exact ⟨.condition index part, h⟩
    · exact ⟨.message, rfl, rfl⟩
  · rintro ⟨slot, hvalue, rfl⟩
    cases slot with
    | name => exact .inl (.inl (.inl ⟨rfl, (Option.some.inj hvalue).symm⟩))
    | description => exact .inl (.inl (.inr ⟨rfl, (Option.some.inj hvalue).symm⟩))
    | message => exact .inr ⟨rfl, (Option.some.inj hvalue).symm⟩
    | condition index part => exact .inl (.inr ⟨index, part, hvalue, rfl⟩)

/-! ## What a form submits unchanged -/

theorem length_conditionInputs (r : Rule) :
    (Page.conditionInputs (some r)).length = max 1 r.conditions.length := by
  unfold Page.conditionInputs
  cases hcs : r.conditions with
  | nil => simp [hcs]
  | cons c cs => simp [hcs]

/-- A single blank row makes no condition, and otherwise there is a row for each. -/
theorem clean_rows (hnamed : ∀ c ∈ r.conditions, c.namesProperty = true) :
    ((Page.conditionInputs (some r)).map fun c => (rowOf c).condition).filter
      (fun c => !Text.saysNothing c.propertyName) = r.conditions.map Condition.retyped := by
  unfold Page.conditionInputs
  cases hcs : r.conditions with
  | nil =>
    simp only [Option.map_some, hcs]
    decide
  | cons c cs =>
    simp only [Option.map_some, hcs]
    rw [List.map_map, List.filter_eq_self.mpr]
    · rfl
    · intro d hd
      obtain ⟨c', hc', rfl⟩ := List.mem_map.mp hd
      exact hnamed c' (hcs ▸ hc')

theorem lastFor_eq (hmem : ∃ p ∈ pairs, Addresses p.1 slot)
    (hall : ∀ p ∈ pairs, Addresses p.1 slot → p.2 = value) : lastFor slot pairs = value := by
  obtain ⟨p, hp, haddr⟩ := hmem
  have hne : pairsFor slot pairs ≠ [] :=
    List.ne_nil_of_mem (List.mem_filter.mpr ⟨hp, by simpa using haddr⟩)
  have hlast := List.mem_filter.mp (List.getLast_mem hne)
  rw [lastFor, List.getLast?_eq_getLast_of_ne_nil hne]
  exact hall _ hlast.1 (by simpa using hlast.2)

section Unchanged

variable (hcount : r.conditions.length ≤ indexLimit) (hperm : pairs.Perm (fieldsOf r))

include hcount

theorem addresses_key (h : shownIn r slot = some value) : Addresses slot.key slot := by
  cases slot with
  | name | description | message => rfl
  | condition index part =>
    obtain ⟨c, hc, -⟩ := Option.map_eq_some_iff.mp h
    obtain ⟨hindex, -⟩ := List.getElem?_eq_some_iff.mp hc
    rw [length_conditionInputs] at hindex
    exact names_fieldName (Nat.lt_of_lt_of_le hindex (Nat.max_le.mpr ⟨by decide, hcount⟩))

include hperm

theorem exists_slot (hp : (key, value) ∈ pairs) :
    ∃ slot, shownIn r slot = some value ∧ Addresses key slot := by
  obtain ⟨slot, hshown, rfl⟩ := mem_fieldsOf.mp (hperm.mem_iff.mp hp)
  exact ⟨slot, hshown, addresses_key hcount hshown⟩

theorem exists_pair (h : shownIn r slot = some value) :
    ∃ key, (key, value) ∈ pairs ∧ Addresses key slot :=
  ⟨slot.key, hperm.mem_iff.mpr (mem_fieldsOf.mpr ⟨slot, h, rfl⟩), addresses_key hcount h⟩

theorem lastFor_unchanged (slot : Slot) : lastFor slot pairs = (shownIn r slot).getD "" := by
  have hof : ∀ p ∈ pairs, Addresses p.1 slot → shownIn r slot = some p.2 := by
    intro p hp haddr
    obtain ⟨slot', hshown, haddr'⟩ := exists_slot hcount hperm hp
    rwa [haddr.unique haddr']
  cases hshown : shownIn r slot with
  | none => exact lastFor_eq_empty fun p hp haddr => nomatch hshown.symm.trans (hof p hp haddr)
  | some value =>
    obtain ⟨key, hmem, haddr⟩ := exists_pair hcount hperm hshown
    refine lastFor_eq ⟨_, hmem, haddr⟩ fun p hp haddr => ?_
    exact Option.some.inj ((hof p hp haddr).symm.trans hshown)

/-- The rows of inputs are the indices that are named. -/
theorem lt_length_iff :
    index < (Page.conditionInputs (some r)).length ↔
      ∃ p ∈ pairs, ∃ part, Names p.1 index part := by
  constructor
  · intro hindex
    have hshown : shownIn r (.condition index .value) =
        some (Page.conditionInputs (some r))[index].value := by
      rw [shownIn, List.getElem?_eq_getElem hindex]
      rfl
    obtain ⟨key, hmem, hnames⟩ := exists_pair hcount hperm hshown
    exact ⟨_, hmem, _, hnames⟩
  · rintro ⟨p, hp, part, hnames⟩
    obtain ⟨slot, hshown, haddr⟩ := exists_slot hcount hperm hp
    obtain rfl : slot = .condition index part := haddr.unique hnames
    obtain ⟨c, hc, -⟩ := Option.map_eq_some_iff.mp hshown
    exact (List.getElem?_eq_some_iff.mp hc).1

/-- The conditions of the indices are those of the rows of inputs. -/
theorem map_conditionAt :
    (List.range (Page.conditionInputs (some r)).length).map (conditionAt pairs) =
      (Page.conditionInputs (some r)).map fun c => (rowOf c).condition := by
  refine List.ext_getElem (by simp) fun i _ hi => ?_
  rw [List.length_map] at hi
  have hcell : ∀ part, lastFor (.condition i part) pairs =
      (rowOf (Page.conditionInputs (some r))[i]).get part := by
    intro part
    rw [lastFor_unchanged hcount hperm, shownIn, List.getElem?_eq_getElem hi]
    rfl
  rw [List.getElem_map, List.getElem_map, List.getElem_range, conditionAt, hcell, hcell, hcell]
  rfl

/-- A form that is sent as it is shown, in whatever order, is read as the rule it shows. -/
theorem draft_unchanged (hname : Text.saysNothing r.name = false)
    (htrim : Text.trim r.name = r.name)
    (hnamed : ∀ c ∈ r.conditions, c.namesProperty = true) : draft pairs = .ok r.resubmitted := by
  have hwell : ∀ p ∈ pairs, ¬ Malformed p.1 := by
    intro p hp hbad
    obtain ⟨slot, -, haddr⟩ := exists_slot hcount hperm hp
    exact (malformed_iff.mp hbad).2 slot haddr
  have hlast := lastFor_unchanged hcount hperm
  have hsubmits := Submits.rule hwell (by rwa [hlast]) List.pairwise_lt_range
    fun i => List.mem_range.trans (lt_length_iff hcount hperm)
  rw [map_conditionAt hcount hperm, clean_rows hnamed, hlast, hlast, hlast] at hsubmits
  simp only [shownIn, Option.getD_some, htrim] at hsubmits
  exact (submits_draft pairs).unique hsubmits

end Unchanged

end RuleForm

/-! ## What a save changes -/

namespace Rules

variable {around : Surroundings} {w : World} {rulesetId ruleId : String} {r : Rule}

theorem shown_resubmitted (r : Rule) (now : Time.Timestamp) :
    Export.ShownRule.of (r.resubmitted.applyTo now r) = Export.ShownRule.of r := by
  simp only [Export.ShownRule.of, RuleDraft.applyTo, Rule.resubmitted, List.map_map]
  rfl

/-- What was saved once is submitted again as it is. -/
theorem resubmitted_resubmitted (r : Rule) (now : Time.Timestamp) :
    (r.resubmitted.applyTo now r).resubmitted = r.resubmitted := by
  simp only [Rule.resubmitted, RuleDraft.applyTo, List.map_map]
  rfl

/-- An update with what the form of the rule submits keeps the export. -/
theorem update_resubmitted (hget : (get rulesetId ruleId).runIn around.calm w = (.ok r, w))
    (now : Time.Timestamp) :
    ∃ w' listing listing',
      (update now rulesetId ruleId r.resubmitted).runIn around.calm w =
        (.ok (r.resubmitted.applyTo now r), w') ∧
      (get rulesetId ruleId).runIn around.calm w' = (.ok (r.resubmitted.applyTo now r), w') ∧
      (list rulesetId).runIn around.calm w = (.ok listing, w) ∧
      (list rulesetId).runIn around.calm w' = (.ok listing', w') ∧
      Export.tsv listing'.items = Export.tsv listing.items := by
  have hreplaces : kind.ReplacesInPlace (.rules rulesetId) ruleId (list rulesetId)
      (update now rulesetId ruleId r.resubmitted) (r.resubmitted.applyTo now) around.calm w := by
    rw [update_eq]
    exact writes.replacesInPlace (r.resubmitted.applyTo now) (fun _ => rfl) (fun _ => rfl)
      (fun _ => rfl) (listsInPlace around w rulesetId ruleId fun _ => rfl)
  have hback : (update now rulesetId ruleId r.resubmitted).ReadBack around.calm w
      fun _ => get rulesetId ruleId := by
    rw [update_eq, get_eq]
    exact writes.readBack_rewrite fun _ => rfl
  rw [get_eq] at hget
  obtain ⟨-, fields, hfields, hread⟩ := DocumentKind.fetch_runIn_eq_ok_iff.mp hget
  obtain ⟨_, w', hupdate, -, -, -, -, ⟨before, after, skipped, hlist, hlist'⟩, -⟩ :=
    hreplaces.changed fields r hfields hread
  refine ⟨w', _, _, hupdate, hback _ _ hupdate, hlist, hlist', Export.tsv_congr ?_⟩
  simp only [List.map_append, List.map_cons, shown_resubmitted]

end Rules

/-- **Saving an unchanged form is harmless.** Take any rule whose name is trimmed and says something
and whose conditions name properties, as many as there are indices at most. The fields that its form
carries, in any order, are read as the rule itself, with the text that is shown of every value in
place of the value. Wherever the rule is kept, an update with that leaves the export of its ruleset
as it was, and after another one, from the form of the rule that is kept then, only the time of the
last change is another. -/
theorem unchanged_forms_save_harmlessly (user : User) (rulesetId : String) (rule : Rule)
    (hname : Text.saysNothing rule.name = false) (htrim : Text.trim rule.name = rule.name)
    (hnamed : ∀ c ∈ rule.conditions, c.namesProperty = true)
    (hcount : rule.conditions.length ≤ RuleForm.indexLimit) :
    let shown : Rule → List (String × String) := fun r =>
      Text.Html.fields (Page.ruleForm user rulesetId (some r)).render
    let draft : RuleDraft := ⟨rule.name, rule.description, rule.message,
      rule.conditions.map fun c => { c with value := .text c.value.display }⟩
    ∀ pairs, pairs.Perm (shown rule) →
      RuleForm.draft pairs = .ok draft ∧
      ∀ (around : Surroundings) (w : World) (ruleId : String),
        (Rules.get rulesetId ruleId).runIn around.calm w = (.ok rule, w) → ∀ now,
        let saved : Rule := { rule with conditions := draft.conditions, updatedAt := now }
        ∃ w' listing listing',
          (Rules.update now rulesetId ruleId draft).runIn around.calm w = (.ok saved, w') ∧
          (Rules.list rulesetId).runIn around.calm w = (.ok listing, w) ∧
          (Rules.list rulesetId).runIn around.calm w' = (.ok listing', w') ∧
          Export.tsv listing'.items = Export.tsv listing.items ∧
          ∀ again, again.Perm (shown saved) → ∀ later, ∃ draft' w'',
            RuleForm.draft again = .ok draft' ∧
            (Rules.update later rulesetId ruleId draft').runIn around.calm w' =
              (.ok { saved with updatedAt := later }, w'') ∧
            (Rules.get rulesetId ruleId).runIn around.calm w'' =
              (.ok { saved with updatedAt := later }, w'') := by
  intro shown draft pairs hpairs
  -- the page is read once; from here on only the fields of the rule matter
  have hshown : ∀ r, shown r = RuleForm.fieldsOf r := Page.fields_ruleForm user rulesetId
  have hdraft : RuleForm.draft pairs = .ok rule.resubmitted :=
    RuleForm.draft_unchanged hcount (hshown rule ▸ hpairs) hname htrim hnamed
  refine ⟨hdraft, fun around w ruleId hget now => ?_⟩
  intro saved
  obtain ⟨w', listing, listing', hupdate, hget', hlist, hlist', htsv⟩ :=
    Rules.update_resubmitted hget now
  refine ⟨w', listing, listing', hupdate, hlist, hlist', htsv, fun again hagain later => ?_⟩
  have hcount' : saved.conditions.length ≤ RuleForm.indexLimit :=
    Nat.le_trans (Nat.le_of_eq (List.length_map _)) hcount
  have hnamed' : ∀ c ∈ saved.conditions, c.namesProperty = true := by
    intro c hc
    obtain ⟨c, hc', rfl⟩ := List.mem_map.mp hc
    exact hnamed c hc'
  obtain ⟨w'', -, -, hupdate', hget'', -⟩ := Rules.update_resubmitted hget' later
  have hsame : saved.resubmitted = rule.resubmitted := Rules.resubmitted_resubmitted rule now
  rw [Rules.resubmitted_resubmitted] at hupdate' hget''
  have hdraft' := RuleForm.draft_unchanged hcount' (hshown saved ▸ hagain) hname htrim hnamed'
  rw [hsame] at hdraft'
  exact ⟨_, w'', hdraft', hupdate', hget''⟩

/-- A rule with a number and an empty value is saved twice, its fields sent backwards. -/
theorem typed_form_saves_harmlessly :
    let at12 : Time.Timestamp := ⟨⟨2024, 6, 1, by decide⟩, 12, 0, 0, 0, by decide⟩
    let at13 : Time.Timestamp := ⟨⟨2024, 6, 1, by decide⟩, 13, 0, 0, 0, by decide⟩
    let ada : User := ⟨⟨"u-1", by decide⟩, "Ada", "ada@example.com", none⟩
    let around := Surroundings.plain ada
    let rule : Rule := {
      id := "r-1", name := "Walls", description := "<all>", message := "too low"
      conditions :=
        [⟨"Height", "at least", .number (.int 3 (by decide))⟩, ⟨"Mark", "exists", .null⟩]
      order := Rank.zero, createdAt := at12, updatedAt := at12 }
    let w : World :=
      { World.start with store := Store.empty.set (.rules "a") "r-1" rule.toJson }
    let pairs := (Text.Html.fields (Page.ruleForm ada "a" (some rule)).render).reverse
    let draft : RuleDraft := ⟨"Walls", "<all>", "too low",
      [⟨"Height", "at least", .text "3"⟩, ⟨"Mark", "exists", .text ""⟩]⟩
    RuleForm.draft pairs = .ok draft ∧
      ∃ w', (Rules.update at13 "a" "r-1" draft).runIn around.calm w =
        (.ok { rule with conditions := draft.conditions, updatedAt := at13 }, w') := by
  intro at12 at13 ada around rule w pairs draft
  have hget : (Rules.get "a" "r-1").runIn around.calm w = (.ok rule, w) := by
    rw [Rules.get_eq]
    exact Rules.writes.fetch_of_insert rfl (Store.shelf_set_self _ _ _ _)
  obtain ⟨hdraft, hsave⟩ := unchanged_forms_save_harmlessly ada "a" rule (by decide) (by decide)
    (by decide) (by decide) pairs (List.reverse_perm _)
  obtain ⟨w', -, -, hupdate, -⟩ := hsave around w "r-1" hget at13
  exact ⟨hdraft, w', hupdate⟩

end Rulebook
