import Rulebook.Proofs.Rule.Ordered

/-!
# Moves in any store

A move is looked at on the list of rules as it is shown, whatever documents and ranks are behind
it. A rule that is not shown cannot be moved (`reorder_runIn_missing`), at an end nothing happens
(`reorder_runIn_atEnd`), and otherwise the rule and its neighbour change places and all rules are
numbered afresh (`reorder_runIn_split`). The new ranks ascend along the list, so what is written is
what is shown afterwards (`exists_reorder_split`).
-/

namespace Rulebook

/-- Of two neighbours, the one that passes the other when it is moved in a direction. -/
def Direction.mover {α : Type} (first second : α) : Direction → α
  | .up => second
  | .down => first

theorem Direction.mover_opposite {α : Type} (d : Direction) (first second : α) :
    d.opposite.mover second first = d.mover first second := by
  cases d <;> rfl

theorem Direction.mover_map {α β : Type} (f : α → β) (d : Direction) (first second : α) :
    d.mover (f first) (f second) = f (d.mover first second) := by
  cases d <;> rfl

namespace Rules

/-- Whether a rule has no neighbour in a direction: it is the first one, or the last one. -/
def AtEnd (rules : List Rule) (ruleId : String) : Direction → Prop
  | .up => rules.head?.map (·.id) = some ruleId
  | .down => rules.getLast?.map (·.id) = some ruleId

/-- Rules that are those of another list, but ranked by their places, counted from one, and changed
at a given time. -/
def Numbered (now : Time.Timestamp) (rules numbered : List Rule) : Prop :=
  numbered.length = rules.length ∧
    ∀ i (hi : i < rules.length) (hi' : i < numbered.length),
      numbered[i].order.value = i + 1 ∧
        numbered[i] = { rules[i] with order := numbered[i].order, updatedAt := now }

theorem numbered_renumber (now : Time.Timestamp) {rules : List Rule}
    (hroom : rules.length ≤ 0x7fffffffffffffff) : Numbered now rules (renumber now rules) :=
  ⟨length_renumber now rules, fun i _ hi' =>
    ⟨order_renumber hi' hroom, by simp [renumber]⟩⟩

section Places

variable {rules xs ys : List Rule} {r : Rule} {ruleId : String} {d : Direction}

/-- A rule that is not at an end has a neighbour to change places with. -/
theorem exists_split_of_not_atEnd (hmem : ruleId ∈ rules.map (·.id))
    (hend : ¬ AtEnd rules ruleId d) :
    ∃ before a b after, rules = before ++ a :: b :: after ∧ (d.mover a b).id = ruleId := by
  obtain ⟨r, hr, rfl⟩ := List.mem_map.mp hmem
  obtain ⟨before, after, rfl⟩ := List.append_of_mem hr
  cases d with
  | up =>
    rcases List.eq_nil_or_concat before with rfl | ⟨before, a, rfl⟩
    · exact absurd rfl hend
    · exact ⟨before, a, r, after, by simp, rfl⟩
  | down =>
    cases after with
    | nil => exact absurd (by simp [AtEnd]) hend
    | cons b after => exact ⟨before, r, b, after, rfl, rfl⟩

/-- Where no id stands twice, the search for an id ends at its rule. -/
theorem findIdx?_split (hids : ((xs ++ r :: ys).map (·.id)).Nodup) :
    (xs ++ r :: ys).findIdx? (fun q => q.id = r.id) = some xs.length := by
  rw [List.map_append, List.nodup_append] at hids
  have hnone : xs.findIdx? (fun q => q.id = r.id) = none := by
    refine List.findIdx?_eq_none_iff.mpr fun q hq => ?_
    have hne := hids.2.2 q.id (List.mem_map_of_mem hq) r.id (by simp)
    simpa using hne
  simp [List.findIdx?_append, hnone, List.findIdx?_cons]

end Places

section Moves

variable {rulesetId ruleId : String} {around : Surroundings} {w : World} {now : Time.Timestamp}
  {direction : Direction} {before after : List Rule} {a b : Rule}

/-- A rule that is not shown cannot be moved. -/
theorem reorder_runIn_missing (h : ruleId ∉ (ordered w.store rulesetId).map (·.id)) :
    (reorder now rulesetId ruleId direction).runIn around.calm w =
      (.error (.missing (.rules rulesetId) ruleId), w) := by
  have hfind : (ordered w.store rulesetId).findIdx? (fun r => r.id = ruleId) = none := by
    refine List.findIdx?_eq_none_iff.mpr fun r hr => ?_
    simpa using fun heq => h (List.mem_map.mpr ⟨r, hr, heq⟩)
  rw [reorder, Attempt.runIn_bind, list_runIn_ordered]
  simp [hfind]

section Found

variable {i : Nat}
  (hfind : (ordered w.store rulesetId).findIdx? (fun r => r.id = ruleId) = some i)

include hfind

/-- A rule that is found stays if there is no place next to its own. -/
theorem reorder_runIn_stay
    (hnone : neighbour i (ordered w.store rulesetId).length direction = none) :
    (reorder now rulesetId ruleId direction).runIn around.calm w =
      (.ok (ordered w.store rulesetId), w) := by
  rw [reorder, Attempt.runIn_bind, list_runIn_ordered]
  simp only [hfind, hnone]
  rfl

/-- A rule that is found changes places with the one next to it. -/
theorem reorder_runIn_swap {j : Nat} {moved : List Rule}
    (hsome : neighbour i (ordered w.store rulesetId).length direction = some j)
    (hmoved : swap (ordered w.store rulesetId) i j = moved) :
    (reorder now rulesetId ruleId direction).runIn around.calm w =
      (.ok (renumber now moved), { w with
        store := w.store.setAll (.rules rulesetId) ((renumber now moved).map document) }) := by
  rw [reorder, Attempt.runIn_bind, list_runIn_ordered]
  simp only [hfind, hsome, hmoved]
  rfl

end Found

/-- At an end nothing happens. -/
theorem reorder_runIn_atEnd (h : AtEnd (ordered w.store rulesetId) ruleId direction) :
    (reorder now rulesetId ruleId direction).runIn around.calm w =
      (.ok (ordered w.store rulesetId), w) := by
  cases direction with
  | up =>
    obtain ⟨r, hhead, rfl⟩ := Option.map_eq_some_iff.mp h
    obtain ⟨after, hrules⟩ := List.head?_eq_some_iff.mp hhead
    exact reorder_runIn_stay (i := 0) (by simp [hrules, List.findIdx?_cons]) rfl
  | down =>
    obtain ⟨r, hlast, rfl⟩ := Option.map_eq_some_iff.mp h
    obtain ⟨before, hrules⟩ := List.getLast?_eq_some_iff.mp hlast
    have hids := ids_ordered_nodup w.store rulesetId
    rw [hrules] at hids
    have hfind := findIdx?_split hids
    rw [← hrules] at hfind
    exact reorder_runIn_stay hfind (by simp [neighbour, hrules])

/-- Of two rules in a row, the one that is moved passes the other. -/
theorem reorder_runIn_split (h : ordered w.store rulesetId = before ++ a :: b :: after) :
    (reorder now rulesetId (direction.mover a b).id direction).runIn around.calm w =
      (.ok (renumber now (before ++ b :: a :: after)), { w with
        store := w.store.setAll (.rules rulesetId)
          ((renumber now (before ++ b :: a :: after)).map document) }) := by
  have hids := ids_ordered_nodup w.store rulesetId
  cases direction with
  | up =>
    rw [h, List.append_cons] at hids
    have hfind := findIdx?_split hids
    rw [← List.append_cons, ← h, List.length_append, List.length_singleton] at hfind
    exact reorder_runIn_swap (j := before.length) hfind rfl (by rw [h, swap_previous])
  | down =>
    rw [h] at hids
    have hfind := findIdx?_split hids
    rw [← h] at hfind
    exact reorder_runIn_swap (j := before.length + 1) hfind (by simp [neighbour, h])
      (by rw [h, swap_next])

theorem swapped_perm (h : ordered w.store rulesetId = before ++ a :: b :: after) :
    (before ++ b :: a :: after).Perm (listed w.store rulesetId) := by
  refine ((List.Perm.swap a b after).append_left before).trans ?_
  rw [← h]
  exact ordered_perm _ _

/-- Of two rules in a row, the one that is moved passes the other, and all rules are numbered in
their new order. This is what is listed then, with equally many documents left out; documents that
are no rules and other collections are as they were. -/
theorem exists_reorder_split (h : ordered w.store rulesetId = before ++ a :: b :: after)
    (hroom : (listed w.store rulesetId).length ≤ 0x7fffffffffffffff) (around : Surroundings)
    (now : Time.Timestamp) (direction : Direction) :
    ∃ w', (reorder now rulesetId (direction.mover a b).id direction).runIn around.calm w =
        (.ok (renumber now (before ++ b :: a :: after)), w') ∧
      ordered w'.store rulesetId = renumber now (before ++ b :: a :: after) ∧
      leftOut w'.store rulesetId = leftOut w.store rulesetId ∧
      (∀ d, kind.ofDocument? d = none →
        (d ∈ (w'.store.shelf (.rules rulesetId)).documents ↔
          d ∈ (w.store.shelf (.rules rulesetId)).documents)) ∧
      ∀ c, c ≠ .rules rulesetId → w'.store.shelf c = w.store.shelf c := by
  have hperm := swapped_perm h
  have hids : ((renumber now (before ++ b :: a :: after)).map (·.id)).Perm
      ((listed w.store rulesetId).map (·.id)) := by
    rw [ids_renumber]
    exact hperm.map _
  exact ⟨_, reorder_runIn_split h, sort_listed_setAll now hperm hroom, leftOut_setAll hids,
    fun _ hunread => mem_setAll_of_unread hids hunread, fun _ hc => Store.shelf_put_ne _ _ hc⟩

end Moves

end Rules

end Rulebook
