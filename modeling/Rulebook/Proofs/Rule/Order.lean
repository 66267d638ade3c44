import Mathlib.Data.List.Nodup
import Rulebook.Rule.Kept

/-!
# The order of rules

Rules are listed by rank and then by id, which is a total order. So rules in order are the only
sorted form of their list if their ranks ascend strictly (`Rule.sort_eq_of_perm`), and also if no id
stands twice, whatever their ranks are (`Rule.sort_eq_of_ids`). A rank after the greatest of some
ranks lies above all of them as long as ranks do not run out (`Rules.lt_rankAfter`).
-/

namespace Rulebook

namespace Rule

theorem before_iff {r s : Rule} :
    before r s = true ↔
      r.order.value < s.order.value ∨ r.order.value = s.order.value ∧ ¬ s.id < r.id := by
  simp [before]

theorem before_trans (r s t : Rule) (hrs : before r s = true) (hst : before s t = true) :
    before r t = true := by
  rw [before_iff] at *
  rcases hrs with hrs | ⟨hrs, hids⟩
  · rcases hst with hst | ⟨hst, -⟩
    · exact .inl (Int.lt_trans hrs hst)
    · exact .inl (hst ▸ hrs)
  · rcases hst with hst | ⟨hst, hids'⟩
    · exact .inl (hrs ▸ hst)
    · exact .inr ⟨hrs.trans hst, String.not_lt.mpr
        (String.le_trans (String.not_lt.mp hids) (String.not_lt.mp hids'))⟩

theorem before_total (r s : Rule) : (before r s || before s r) = true := by
  rw [Bool.or_eq_true, before_iff, before_iff]
  rcases Int.lt_trichotomy r.order.value s.order.value with h | h | h
  · exact .inl (.inl h)
  · by_cases hid : s.id < r.id
    · exact .inr (.inr ⟨h.symm, String.lt_asymm hid⟩)
    · exact .inl (.inr ⟨h, hid⟩)
  · exact .inr (.inl h)

/-- Ranks that ascend strictly from each rule to every later one. -/
def Ascending (rules : List Rule) : Prop :=
  rules.Pairwise fun a b => a.order.value < b.order.value

theorem Ascending.ranks_nodup {rules : List Rule} (h : Ascending rules) :
    (rules.map (·.order.value)).Nodup := by
  rw [List.Nodup, List.pairwise_map]
  exact h.imp Int.ne_of_lt

/-- A list in order is the sorted form of its items, if no two of them stand before each other. -/
theorem sort_eq_of_antisymm {rules sorted : List Rule} (hperm : rules.Perm sorted)
    (hbefore : sorted.Pairwise fun a b => before a b = true)
    (hantisymm : ∀ a ∈ sorted, ∀ b ∈ sorted, before a b = true → before b a = true → a = b) :
    sort rules = sorted := by
  have hsorted : (sort rules).Pairwise fun a b => before a b = true :=
    List.pairwise_mergeSort before_trans before_total rules
  have hsame : (sort rules).Perm sorted := (List.mergeSort_perm _ _).trans hperm
  refine List.Perm.eq_of_pairwise ?_ hsorted hbefore hsame
  intro a b ha hb hab hba
  exact hantisymm a (hsame.mem_iff.mp ha) b hb hab hba

/-- Rules before each other have equal ranks and equal ids. -/
theorem eq_of_before {r s : Rule} (hrs : before r s = true) (hsr : before s r = true) :
    r.order.value = s.order.value ∧ r.id = s.id := by
  rw [before_iff] at hrs hsr
  have horder : r.order.value = s.order.value := by omega
  obtain ⟨-, hids⟩ := hrs.resolve_left (by omega)
  obtain ⟨-, hids'⟩ := hsr.resolve_left (by omega)
  exact ⟨horder, String.le_antisymm (String.not_lt.mp hids) (String.not_lt.mp hids')⟩

/-- Rules with strictly ascending ranks are the sorted form of every list of the same rules. -/
theorem sort_eq_of_perm {rules ranked : List Rule} (hperm : rules.Perm ranked)
    (hranked : Ascending ranked) : sort rules = ranked := by
  refine sort_eq_of_antisymm hperm (hranked.imp fun h => before_iff.mpr (.inl h)) ?_
  intro a ha b hb hab hba
  exact List.inj_on_of_nodup_map hranked.ranks_nodup ha hb (eq_of_before hab hba).1

/-- Rules in order are the sorted form of every list of the same rules if no id stands twice. -/
theorem sort_eq_of_ids {rules sorted : List Rule} (hperm : rules.Perm sorted)
    (hbefore : sorted.Pairwise fun a b => before a b = true)
    (hids : (sorted.map (·.id)).Nodup) : sort rules = sorted := by
  refine sort_eq_of_antisymm hperm hbefore ?_
  intro a ha b hb hab hba
  exact List.inj_on_of_nodup_map hids ha hb (eq_of_before hab hba).2

end Rule

namespace Rules

/-- The greatest rank of an accumulator and a list is above all of them. -/
theorem le_foldl_greatest (ranks : List Rank) (r : Rank) :
    ∀ s ∈ r :: ranks, s.value ≤
      (ranks.foldl (fun a b => if a.value < b.value then b else a) r).value := by
  induction ranks generalizing r with
  | nil => simp
  | cons q ranks ih =>
    intro s hs
    rw [List.foldl_cons]
    rw [List.mem_cons, List.mem_cons] at hs
    rcases hs with rfl | rfl | hs
    · refine Int.le_trans ?_ (ih _ _ List.mem_cons_self)
      split <;> omega
    · refine Int.le_trans ?_ (ih _ _ List.mem_cons_self)
      split <;> omega
    · exact ih _ s (List.mem_cons_of_mem _ hs)

theorem foldl_greatest_mem (ranks : List Rank) (r : Rank) :
    ranks.foldl (fun a b => if a.value < b.value then b else a) r ∈ r :: ranks := by
  induction ranks generalizing r with
  | nil => simp
  | cons q ranks ih =>
    rw [List.foldl_cons]
    by_cases hlt : r.value < q.value
    · rw [if_pos hlt]
      exact List.mem_cons_of_mem _ (ih q)
    · rw [if_neg hlt]
      rcases List.mem_cons.mp (ih r) with h | h
      · rw [h]
        exact List.mem_cons_self
      · exact List.mem_cons_of_mem _ (List.mem_cons_of_mem _ h)

variable {ranks : List Rank} {bound : Int}

/-- As long as ranks do not run out, the next one is above them all, whatever sign they have. -/
theorem lt_rankAfter (h : ∀ r ∈ ranks, r.value < 0x7fffffffffffffff) :
    ∀ r ∈ ranks, r.value < (rankAfter ranks).value := by
  cases ranks with
  | nil => simp
  | cons r ranks =>
    intro s hs
    have hgreatest := le_foldl_greatest ranks r s hs
    have hroom := h _ (foldl_greatest_mem ranks r)
    simp only [rankAfter, Rank.next, Rank.clamp]
    omega

/-- The next rank of ranks within a bound is above them and at most one above the bound. -/
theorem rankAfter_bounds (hpos : 0 ≤ bound) (hbound : bound < 0x7fffffffffffffff)
    (h : ∀ r ∈ ranks, 1 ≤ r.value ∧ r.value ≤ bound) :
    (∀ r ∈ ranks, r.value < (rankAfter ranks).value) ∧
      1 ≤ (rankAfter ranks).value ∧ (rankAfter ranks).value ≤ bound + 1 := by
  refine ⟨lt_rankAfter fun r hr => Int.lt_of_le_of_lt (h r hr).2 hbound, ?_⟩
  cases ranks with
  | nil =>
    simp only [rankAfter, Rank.zero, Rank.next, Rank.clamp]
    omega
  | cons r ranks =>
    obtain ⟨hone, hle⟩ := h _ (foldl_greatest_mem ranks r)
    simp only [rankAfter, Rank.next, Rank.clamp]
    omega

/-- A rank that is in range is not moved by clamping. -/
theorem clamp_value {n : Int} (h : Rank.InRange n) : (Rank.clamp n).value = n := by
  unfold Rank.InRange at h
  simp only [Rank.clamp]
  omega

end Rules

end Rulebook
