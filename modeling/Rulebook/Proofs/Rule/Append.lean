import Rulebook.Proofs.Rule.Ordered
import Rulebook.Proofs.Store.Change

/-!
# New rules stand at the end

A new rule gets the rank after the greatest one of the rules that are listed. Whatever else is on
the shelf, documents that are no rules, ranks that are missing, negative or equal, and wherever the
new id stands among the others, the rule is listed after all of them (`create_appends`).
-/

namespace Rulebook.Rules

variable (around : Surroundings) (w : World) (now : Time.Timestamp) (rulesetId : String)
  (draft : RuleDraft)

/-- A new rule is written under an id of the supply that was free, with the rank after those that
are listed. -/
theorem create_runIn :
    ∃ new next, (∃ n, new.id = around.supply.candidate n) ∧
      (∀ d ∈ (w.store.shelf (.rules rulesetId)).documents, d.id ≠ new.id) ∧
      new = { fresh now (rankAfter ((ordered w.store rulesetId).map (·.order))) draft with
        id := new.id } ∧
      (create now rulesetId draft).runIn around.calm w = (.ok new, { w with
        store := w.store.set (.rules rulesetId) new.id new.toJson, idsTried := next }) := by
  obtain ⟨id, next, hid, hfree, hmake⟩ := writes.make_runIn (.rules rulesetId) around w
    (fresh now (rankAfter ((ordered w.store rulesetId).map (·.order))) draft)
  refine ⟨kind.withId id (fresh now _ draft), next, hid, hfree, rfl, ?_⟩
  rw [create_eq, Attempt.runIn_bind, list_runIn_ordered]
  exact hmake

/-- As long as the listed ranks do not run out, a new rule with the submitted content is listed
after all rules that were there before, its rank greater than theirs; equally many documents are
left out, and no document but the new one differs. -/
theorem create_appends
    (hroom : ∀ r ∈ listed w.store rulesetId, r.order.value < 0x7fffffffffffffff) :
    ∃ rules skipped new w',
      (list rulesetId).runIn around.calm w = (.ok ⟨rules, skipped⟩, w) ∧
      (create now rulesetId draft).runIn around.calm w = (.ok new, w') ∧
      (list rulesetId).runIn around.calm w' = (.ok ⟨rules ++ [new], skipped⟩, w') ∧
      (new.name = draft.name ∧ new.description = draft.description ∧
        new.message = draft.message ∧ new.conditions = draft.conditions) ∧
      (new.createdAt = now ∧ new.updatedAt = now) ∧
      (∀ r ∈ rules, r.order.value < new.order.value) ∧
      (∃ n, new.id = around.supply.candidate n) ∧
      w.store.body? (Collection.rules rulesetId).path new.id = none ∧
      Store.ChangesAt (Collection.rules rulesetId).path new.id w.store w'.store := by
  obtain ⟨new, next, hsupplied, hfree, hnew, hcreate⟩ := create_runIn around w now rulesetId draft
  have hsame := ordered_perm w.store rulesetId
  have habove : ∀ r ∈ ordered w.store rulesetId, r.order.value < new.order.value := by
    intro r hr
    rw [hnew]
    refine lt_rankAfter (fun rank hrank => ?_) r.order (List.mem_map_of_mem hr)
    obtain ⟨q, hq, rfl⟩ := List.mem_map.mp hrank
    exact hroom q (hsame.mem_iff.mp hq)
  obtain ⟨hordered, hleftOut⟩ :=
    listing_set_new hfree fun r hr => habove r (hsame.mem_iff.mpr hr)
  refine ⟨_, _, new, _, list_runIn_ordered around w rulesetId, hcreate, ?_, ?_, ?_, habove,
    hsupplied, ?_, w.store.changesAt_set _ _ _⟩
  · rw [list_runIn_ordered, hordered, hleftOut]
  · rw [hnew]
    exact ⟨rfl, rfl, rfl, rfl⟩
  · rw [hnew]
    exact ⟨rfl, rfl⟩
  · rw [Store.body?_path]
    exact Shelf.get?_eq_none_iff.mpr hfree

/-- A rule made where there are three without ranks, with an id that stands before all others. -/
theorem create_appends_after_unranked :
    let now : Time.Timestamp := ⟨⟨2024, 6, 1, by decide⟩, 12, 30, 0, 0, by decide⟩
    let around := { Surroundings.plain ⟨⟨"u-1", by decide⟩, "Ada", "ada@example.com", none⟩ with
      supply := .startingWith [] "0" 3 }
    let w : World := { World.start with store := unrankedStore }
    (∀ r ∈ listed w.store "a", r.order.value < 0x7fffffffffffffff) ∧
      ∃ new w' rules, (create now "a" ⟨"fourth", "", "", []⟩).runIn around.calm w =
          (.ok new, w') ∧
        (list "a").runIn around.calm w' = (.ok ⟨rules, 1⟩, w') ∧
        rules.map (·.name) = ["first", "second", "third", "fourth"] := by
  intro now around w
  have hroom : ∀ r ∈ listed w.store "a", r.order.value < 0x7fffffffffffffff := by
    rw [listed_unrankedStore]
    decide
  obtain ⟨rules, skipped, new, w', hlist, hcreate, hlist', ⟨hname, -⟩, -⟩ :=
    create_appends around w now "a" ⟨"fourth", "", "", []⟩ hroom
  obtain ⟨rfl, rfl⟩ := list_unrankedStore hlist
  refine ⟨hroom, new, w', _, hcreate, hlist', ?_⟩
  rw [List.map_append, List.map_singleton, hname]
  rfl

end Rulebook.Rules
