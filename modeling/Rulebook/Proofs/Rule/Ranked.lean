import Rulebook.Proofs.Rule.Order
import Rulebook.Proofs.Ruleset.RoundTrip
import Rulebook.Proofs.Store.Shelf

/-!
# Rules on a shelf

A shelf is `Ranked` by a list of rules when it holds the documents of exactly these rules and their
ranks ascend strictly along the list, from one on. The list is then what a listing shows
(`Ranked.sorted_listing`). Each of the four ways to write to the shelf keeps it ranked, by a list
that says what the write has done: a rule is appended, replaced, left out, or all of them are
numbered afresh in another order. Ranks and the length of the list stay within a bound that only
grows when a rule is appended, so ranks do not run out before that many rules have been made.
-/

namespace Rulebook.Rules

/-- A shelf that holds the documents of the rules of a list and no others, their ranks ascending
from one on, within a bound that also limits how many they are. -/
structure Ranked (bound : Nat) (s : Shelf) (rules : List Rule) : Prop where
  mem_iff : ∀ d, d ∈ s.documents ↔ d ∈ rules.map document
  ids_nodup : (rules.map (·.id)).Nodup
  ascending : Rule.Ascending rules
  positive : ∀ r ∈ rules, 1 ≤ r.order.value
  bounded : ∀ r ∈ rules, r.order.value ≤ bound
  length_le : rules.length ≤ bound

/-- The document of a rule reads as that rule. -/
theorem ofDocument?_document (r : Rule) : kind.ofDocument? (document r) = some r := by
  simp [DocumentKind.ofDocument?, document, kind, Rule.decode_toJson]

@[simp] theorem map_id_document (rules : List Rule) :
    (rules.map document).map (·.id) = rules.map (·.id) := by
  simp [document]

theorem length_renumber (now : Time.Timestamp) (rules : List Rule) :
    (renumber now rules).length = rules.length := by
  simp [renumber]

/-- Numbering afresh changes ranks and times of change only. -/
theorem map_renumber {α : Type} (f : Rule → α)
    (hf : ∀ (r : Rule) (order : Rank) (now : Time.Timestamp),
      f { r with order := order, updatedAt := now } = f r)
    (now : Time.Timestamp) (rules : List Rule) :
    (renumber now rules).map f = rules.map f := by
  refine List.ext_getElem (by simp [renumber]) fun i _ _ => ?_
  simp [renumber, hf]

theorem ids_renumber (now : Time.Timestamp) (rules : List Rule) :
    (renumber now rules).map (·.id) = rules.map (·.id) :=
  map_renumber (·.id) (fun _ _ _ => rfl) now rules

/-- The rank of a rule numbered afresh is its place, counted from one. -/
theorem order_renumber {now : Time.Timestamp} {rules : List Rule} {i : Nat}
    (hi : i < (renumber now rules).length) (hroom : rules.length ≤ 0x7fffffffffffffff) :
    (renumber now rules)[i].order.value = i + 1 := by
  rw [length_renumber] at hi
  simp only [renumber, List.getElem_mapIdx, Int.ofNat_eq_natCast]
  exact clamp_value (by unfold Rank.InRange; omega)

/-- Rules numbered afresh stand in the order of their ranks. -/
theorem ascending_renumber (now : Time.Timestamp) {rules : List Rule}
    (hroom : rules.length ≤ 0x7fffffffffffffff) : Rule.Ascending (renumber now rules) := by
  refine List.pairwise_iff_getElem.mpr fun i j hi hj hij => ?_
  rw [order_renumber hi hroom, order_renumber hj hroom]
  omega

namespace Ranked

variable {bound : Nat} {s : Shelf} {rules : List Rule} {r new : Rule} {id : String}

theorem empty (bound : Nat) : Ranked bound Shelf.empty [] where
  mem_iff d := by simp [Shelf.mem_empty]
  ids_nodup := List.nodup_nil
  ascending := List.Pairwise.nil
  positive := by simp
  bounded := by simp
  length_le := Nat.zero_le _

/-- A greater bound does as well. -/
theorem mono {bound' : Nat} (h : Ranked bound s rules) (hle : bound ≤ bound') :
    Ranked bound' s rules :=
  { h with
    bounded := fun r hr => Int.le_trans (h.bounded r hr) (by omega)
    length_le := Nat.le_trans h.length_le hle }

theorem documents_perm (h : Ranked bound s rules) : s.documents.Perm (rules.map document) := by
  have hnodup : (rules.map document).Nodup := by
    refine List.Nodup.of_map Document.id ?_
    rw [map_id_document]
    exact h.ids_nodup
  exact (List.perm_ext_iff_of_nodup s.documents_nodup hnodup).mpr h.mem_iff

/-- A listing shows the list itself and leaves nothing out. -/
theorem sorted_listing (h : Ranked bound s rules) :
    Rule.sort (kind.listing s.documents).items = rules ∧
      (kind.listing s.documents).skipped = 0 := by
  have hall : (rules.map document).filterMap kind.ofDocument? = rules := by
    rw [List.filterMap_map]
    simp [ofDocument?_document]
  constructor
  · refine Rule.sort_eq_of_perm ?_ h.ascending
    have hperm := h.documents_perm.filterMap kind.ofDocument?
    rwa [hall] at hperm
  · change s.documents.countP (fun d => (kind.ofDocument? d).isNone) = 0
    rw [List.countP_eq_zero]
    intro d hd
    obtain ⟨r, -, rfl⟩ := List.mem_map.mp ((h.mem_iff d).mp hd)
    simp [ofDocument?_document]

/-! ## Look-ups -/

theorem get?_of_mem (h : Ranked bound s rules) (hr : r ∈ rules) : s.get? r.id = some r.toJson :=
  Shelf.get?_eq_some_iff.mpr ((h.mem_iff _).mpr (List.mem_map_of_mem (f := document) hr))

theorem get?_eq_none (h : Ranked bound s rules) (hid : id ∉ rules.map (·.id)) :
    s.get? id = none := by
  rw [Shelf.get?_eq_none_iff]
  intro d hd heq
  obtain ⟨r, hr, rfl⟩ := List.mem_map.mp ((h.mem_iff d).mp hd)
  exact hid (List.mem_map.mpr ⟨r, hr, heq⟩)

/-- A rule is known by its id. -/
theorem eq_of_id_eq {r' : Rule} (h : Ranked bound s rules) (hr : r ∈ rules) (hr' : r' ∈ rules)
    (hid : r.id = r'.id) : r = r' :=
  List.inj_on_of_nodup_map h.ids_nodup hr hr' hid

/-- A rule whose document is on the shelf is one of the list. -/
theorem mem_of_document_mem (h : Ranked bound s rules) (hr : document r ∈ s.documents) :
    r ∈ rules := by
  obtain ⟨q, hq, heq⟩ := List.mem_map.mp ((h.mem_iff _).mp hr)
  have hread := ofDocument?_document q
  rw [heq, ofDocument?_document] at hread
  exact Option.some.inj hread ▸ hq

/-- A rule is known by its rank. -/
theorem eq_of_order_eq {q : Rule} (h : Ranked bound s rules) (hr : r ∈ rules) (hq : q ∈ rules)
    (horder : r.order = q.order) : r = q := by
  have hnodup : (rules.map (·.order.value)).Nodup :=
    List.pairwise_map.mpr (h.ascending.imp Int.ne_of_lt)
  exact List.inj_on_of_nodup_map hnodup hr hq (congrArg Rank.value horder)

/-! ## Writes -/

/-- A new rule of a rank above all others stands at the end. -/
theorem append (h : Ranked bound s rules) (hid : new.id ∉ rules.map (·.id))
    (habove : ∀ r ∈ rules, r.order.value < new.order.value) (hpos : 1 ≤ new.order.value)
    (hbound : new.order.value ≤ bound + 1) :
    Ranked (bound + 1) (s.insert new.id new.toJson) (rules ++ [new]) where
  mem_iff d := by
    rw [Shelf.mem_insert, List.map_append, List.mem_append, ← h.mem_iff, List.map_singleton,
      List.mem_singleton, or_comm]
    refine or_congr_left (and_iff_left_of_imp fun hd heq => ?_)
    obtain ⟨r, hr, rfl⟩ := List.mem_map.mp ((h.mem_iff d).mp hd)
    exact hid (List.mem_map.mpr ⟨r, hr, heq⟩)
  ids_nodup := by
    rw [List.map_append, List.map_singleton]
    exact List.nodup_append.mpr ⟨h.ids_nodup, List.nodup_singleton _, by
      intro a ha b hb heq
      rw [List.mem_singleton.mp hb] at heq
      exact hid (heq ▸ ha)⟩
  ascending := List.pairwise_append.mpr ⟨h.ascending, List.pairwise_singleton _ _, by
    intro a ha b hb
    rw [List.mem_singleton.mp hb]
    exact habove a ha⟩
  positive r hr := by
    rcases List.mem_append.mp hr with hr | hr
    · exact h.positive r hr
    · exact List.mem_singleton.mp hr ▸ hpos
  bounded r hr := by
    rcases List.mem_append.mp hr with hr | hr
    · have := h.bounded r hr
      omega
    · rw [List.mem_singleton.mp hr]
      exact_mod_cast hbound
  length_le := by
    have := h.length_le
    simp
    omega

/-- A list with the rule of a given id replaced. -/
def replace (new : Rule) (rules : List Rule) : List Rule :=
  rules.map fun r => if r.id = new.id then new else r

/-- A rule that keeps its id and rank keeps its place. -/
theorem set {old : Rule} (h : Ranked bound s rules) (new : Rule) (hold : old ∈ rules)
    (hid : new.id = old.id) (horder : new.order = old.order) :
    Ranked bound (s.insert new.id new.toJson) (replace new rules) := by
  have hsame : ∀ r ∈ rules, (if r.id = new.id then new else r).id = r.id ∧
      (if r.id = new.id then new else r).order = r.order := by
    intro r hr
    split
    · next heq =>
      have := h.eq_of_id_eq hr hold (heq.trans hid)
      subst this
      exact ⟨hid, horder⟩
    · exact ⟨rfl, rfl⟩
  have hmem : ∀ r', r' ∈ replace new rules ↔ r' = new ∨ r' ∈ rules ∧ r'.id ≠ new.id := by
    intro r'
    rw [replace, List.mem_map]
    constructor
    · rintro ⟨r, hr, rfl⟩
      split
      · exact .inl rfl
      · next hne => exact .inr ⟨hr, hne⟩
    · rintro (rfl | ⟨hr, hne⟩)
      · exact ⟨old, hold, if_pos hid.symm⟩
      · exact ⟨r', hr, if_neg hne⟩
  refine ⟨fun d => ?_, ?_, ?_, ?_, ?_, ?_⟩
  · rw [Shelf.mem_insert, h.mem_iff, List.mem_map, List.mem_map]
    constructor
    · rintro (rfl | ⟨⟨r, hr, rfl⟩, hne⟩)
      · exact ⟨new, (hmem _).mpr (.inl rfl), rfl⟩
      · exact ⟨r, (hmem _).mpr (.inr ⟨hr, hne⟩), rfl⟩
    · rintro ⟨r, hr, rfl⟩
      rcases (hmem r).mp hr with rfl | ⟨hr, hne⟩
      · exact .inl rfl
      · exact .inr ⟨⟨r, hr, rfl⟩, hne⟩
  · have hids : (replace new rules).map (·.id) = rules.map (·.id) := by
      rw [replace, List.map_map]
      exact List.map_congr_left fun r hr => (hsame r hr).1
    rw [hids]
    exact h.ids_nodup
  · refine List.pairwise_map.mpr (h.ascending.imp_of_mem fun {a b} ha hb hlt => ?_)
    rw [(hsame a ha).2, (hsame b hb).2]
    exact hlt
  · intro r hr
    obtain ⟨q, hq, rfl⟩ := List.mem_map.mp hr
    rw [(hsame q hq).2]
    exact h.positive q hq
  · intro r hr
    obtain ⟨q, hq, rfl⟩ := List.mem_map.mp hr
    rw [(hsame q hq).2]
    exact h.bounded q hq
  · rw [replace, List.length_map]
    exact h.length_le

/-- A rule taken away leaves the others in their order. -/
theorem erase (h : Ranked bound s rules) (id : String) :
    Ranked bound (s.erase id) (rules.filter (·.id ≠ id)) where
  mem_iff d := by
    rw [Shelf.mem_erase, h.mem_iff, List.mem_map, List.mem_map]
    constructor
    · rintro ⟨⟨r, hr, rfl⟩, hne⟩
      exact ⟨r, List.mem_filter.mpr ⟨hr, by simpa [document] using hne⟩, rfl⟩
    · rintro ⟨r, hr, rfl⟩
      obtain ⟨hr, hne⟩ := List.mem_filter.mp hr
      exact ⟨⟨r, hr, rfl⟩, by simpa [document] using hne⟩
  ids_nodup := h.ids_nodup.sublist (List.filter_sublist.map _)
  ascending := List.Pairwise.filter _ h.ascending
  positive r hr := h.positive r (List.mem_of_mem_filter hr)
  bounded r hr := h.bounded r (List.mem_of_mem_filter hr)
  length_le := Nat.le_trans (List.length_filter_le _ _) h.length_le

/-- All rules numbered afresh in any order stand in that order. -/
theorem setAll {moved : List Rule} (h : Ranked bound s rules) (hperm : moved.Perm rules)
    (hroom : bound ≤ 0x7fffffffffffffff) (now : Time.Timestamp) :
    Ranked bound (s.insertAll ((renumber now moved).map document)) (renumber now moved) := by
  have hids : (renumber now moved).map (·.id) = moved.map (·.id) := ids_renumber now moved
  have hnodup : ((renumber now moved).map (·.id)).Nodup :=
    hids ▸ (hperm.map _).symm.nodup h.ids_nodup
  have hlength : (renumber now moved).length ≤ bound := by
    rw [length_renumber, hperm.length_eq]
    exact h.length_le
  have hmoved : moved.length ≤ 0x7fffffffffffffff := by
    rw [length_renumber] at hlength
    exact Nat.le_trans hlength hroom
  have hrank : ∀ r ∈ renumber now moved, 1 ≤ r.order.value ∧ r.order.value ≤ bound := by
    intro r hr
    obtain ⟨i, hi, rfl⟩ := List.mem_iff_getElem.mp hr
    rw [order_renumber hi hmoved]
    omega
  refine ⟨fun d => ?_, hnodup, ascending_renumber now hmoved, fun r hr => (hrank r hr).1,
    fun r hr => (hrank r hr).2, hlength⟩
  rw [Shelf.mem_insertAll (by rwa [map_id_document]), map_id_document, hids]
  refine or_iff_left fun ⟨hd, hout⟩ => ?_
  -- every old document has the id of one that is written
  obtain ⟨r, hr, rfl⟩ := List.mem_map.mp ((h.mem_iff d).mp hd)
  exact hout (List.mem_map.mpr ⟨r, hperm.mem_iff.mpr hr, rfl⟩)

end Ranked

end Rulebook.Rules
