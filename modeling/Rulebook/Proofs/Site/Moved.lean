import Rulebook.Proofs.Rule.Move
import Rulebook.Proofs.Site.Download

/-!
# What is seen of a move

The edit page and the export of a ruleset are made from the listing of its rules
(`Site.shows_of_list`), so they show a move as soon as it is made. The main theorem says all of a
move in any store: what it returns, what is listed afterwards, what the pages show, and what is left
alone (`move_swaps_and_numbers`).
-/

namespace Rulebook

/-- The edit page and the export of a ruleset have these rules, in this order: every signed-in user
who opens the form of the ruleset, and everyone who follows its link, gets them. -/
def Site.Shows (around : Surroundings) (w : World) (rulesetId : String) (rules : List Rule) :
    Prop :=
  (∀ (v : Visit) (user : User) (ruleset : Ruleset), v.session.user? = some user →
    (Rulesets.get rulesetId).runIn around w = (.ok ruleset, w) →
    (rulesetEdit rulesetId v).runIn around w =
      (.ok (Page.editRuleset user ruleset rules).respond, w)) ∧
  ∀ (v : Visit) (hash : String) (ruleset : Ruleset), ruleset.id = rulesetId →
    (Rulesets.findByHash hash).runIn around w = (.ok (some ruleset), w) →
    ∃ text, Export.tsv rules = .ok text ∧
      («export» hash v).runIn around w =
        (.ok (.attachment exportType (Export.fileName ruleset.name) text), w)

/-- The pages of a ruleset are made from the listing of its rules. -/
theorem Site.shows_of_list {around : Surroundings} {w : World} {rulesetId : String}
    {rules : List Rule} {skipped : Nat}
    (hlist : (Rules.list rulesetId).runIn around w = (.ok ⟨rules, skipped⟩, w)) :
    Shows around w rulesetId rules := by
  constructor
  · intro v user ruleset huser hget
    simp only [rulesetEdit, Visit.forUser, huser, Attempt.orRefuse, Attempt.runIn_bind,
      Attempt.runIn_orFail, hget, hlist, Attempt.mapError_ok, Attempt.runIn_pure]
  · intro v hash ruleset hid hfind
    obtain ⟨text, htext, -⟩ := Export.exists_tsv rules
    subst hid
    refine ⟨text, htext, ?_⟩
    simp only [«export», Attempt.orRefuse, Attempt.runIn_bind, Attempt.runIn_orFail, hfind, hlist,
      htext, Attempt.mapError_ok, Attempt.runIn_pure]

/-- **A move swaps two neighbours and numbers all rules afresh, in any store**, as long as there are
not more rules than positive ranks, which no memory holds. A rule that is not listed cannot be moved,
and a move of the first rule up or of the last one down returns the listed rules; both leave the
world as it was. Any other move returns the listed rules with the rule and its neighbour swapped,
each ranked by its place from one on and changed at the time of the move, but otherwise the same.
This is the list from then on, with equally many documents left out, the edit page and the export
show it, and documents that are no rules and other collections are as they were. -/
theorem move_swaps_and_numbers (around : Surroundings) (w : World) (now : Time.Timestamp)
    (rulesetId ruleId : String) (direction : Direction)
    (hroom : (Rules.listed w.store rulesetId).length ≤ 0x7fffffffffffffff) :
    ∃ rules skipped, (Rules.list rulesetId).runIn around.calm w = (.ok ⟨rules, skipped⟩, w) ∧
      (ruleId ∉ rules.map (·.id) →
        (Rules.reorder now rulesetId ruleId direction).runIn around.calm w =
          (.error (.missing (.rules rulesetId) ruleId), w)) ∧
      (Rules.AtEnd rules ruleId direction →
        (Rules.reorder now rulesetId ruleId direction).runIn around.calm w = (.ok rules, w)) ∧
      (ruleId ∈ rules.map (·.id) → ¬ Rules.AtEnd rules ruleId direction →
        ∃ before a b after moved w', rules = before ++ a :: b :: after ∧
          (direction.mover a b).id = ruleId ∧
          (Rules.reorder now rulesetId ruleId direction).runIn around.calm w = (.ok moved, w') ∧
          Rules.Numbered now (before ++ b :: a :: after) moved ∧
          (Rules.list rulesetId).runIn around.calm w' = (.ok ⟨moved, skipped⟩, w') ∧
          Site.Shows around.calm w' rulesetId moved ∧
          (∀ d, Rules.kind.ofDocument? d = none →
            (d ∈ (w'.store.shelf (.rules rulesetId)).documents ↔
              d ∈ (w.store.shelf (.rules rulesetId)).documents)) ∧
          ∀ c, c ≠ .rules rulesetId → w'.store.shelf c = w.store.shelf c) := by
  refine ⟨_, _, Rules.list_runIn_ordered around w rulesetId, Rules.reorder_runIn_missing,
    Rules.reorder_runIn_atEnd, fun hmem hend => ?_⟩
  obtain ⟨before, a, b, after, hsplit, rfl⟩ := Rules.exists_split_of_not_atEnd hmem hend
  obtain ⟨w', hmove, hordered, hleftOut, hunread, helsewhere⟩ :=
    Rules.exists_reorder_split hsplit hroom around now direction
  have hlist := Rules.list_runIn_ordered around w' rulesetId
  rw [hordered, hleftOut] at hlist
  exact ⟨before, a, b, after, _, w', hsplit, rfl, hmove,
    Rules.numbered_renumber now ((Rules.swapped_perm hsplit).length_eq ▸ hroom), hlist,
    Site.shows_of_list hlist, hunread, helsewhere⟩

/-- The last of three rules without ranks is moved up, past a document that is no rule. -/
theorem move_swaps_unranked :
    let now : Time.Timestamp := ⟨⟨2024, 6, 1, by decide⟩, 12, 30, 0, 0, by decide⟩
    let around := Surroundings.plain ⟨⟨"u-1", by decide⟩, "Ada", "ada@example.com", none⟩
    let w : World := { World.start with store := Rules.unrankedStore }
    (Rules.listed w.store "a").length ≤ 0x7fffffffffffffff ∧
      ∃ moved w', (Rules.reorder now "a" "m" .up).runIn around.calm w = (.ok moved, w') ∧
        (Rules.list "a").runIn around.calm w' = (.ok ⟨moved, 1⟩, w') ∧
        Rules.Numbered now
          [Rules.unranked "b" "first", Rules.unranked "m" "third", Rules.unranked "d" "second"]
          moved := by
  intro now around w
  obtain ⟨rules, skipped, hlist, -, -, hmove⟩ :=
    move_swaps_and_numbers around w now "a" "m" .up Rules.length_listed_unrankedStore
  obtain ⟨rfl, rfl⟩ := Rules.list_unrankedStore hlist
  obtain ⟨before, a, b, after, moved, w', hsplit, hid, hrun, hnumbered, hlist', -⟩ :=
    hmove (by decide) (by simp [Rules.AtEnd, Rules.unranked])
  -- the last rule is moved, so the one in front of it is its neighbour
  rcases before with - | ⟨first, - | ⟨_, _⟩⟩
  · obtain ⟨rfl, rfl, rfl⟩ := hsplit
    exact absurd hid (by decide)
  · obtain ⟨rfl, rfl, rfl, rfl⟩ := hsplit
    exact ⟨Rules.length_listed_unrankedStore, moved, w', hrun, hlist', hnumbered⟩
  · have hlength := congrArg List.length hsplit
    simp only [List.length_append, List.length_cons, List.length_nil] at hlength
    omega

end Rulebook
