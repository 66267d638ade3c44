import Rulebook.Proofs.Ruleset.ReadBack
import Rulebook.Proofs.Store.Place

/-!
# The rules of a ruleset in their order

What a listing gives for any store, whatever documents and ranks it has: the documents that read as
rules, by rank and then by id (`ordered`), and how many others there are (`leftOut`). No id stands
twice, so each way to write to the store has one order that it can lead to: a new rule of a rank
above all others stands at the end (`listing_set_new`), and a rule that keeps its id and rank keeps
its place (`ordered_replace`). Documents that are no rules are left out as before when the rules are
written again (`leftOut_setAll`).
-/

namespace Rulebook.Rules

variable {s t : Store} {rulesetId : String} {around : Surroundings} {w : World}
  {now : Time.Timestamp}

/-- The rules a listing shows, in its order. -/
def ordered (s : Store) (rulesetId : String) : List Rule :=
  Rule.sort (listed s rulesetId)

/-- How many documents a listing of rules leaves out. -/
def leftOut (s : Store) (rulesetId : String) : Nat :=
  (kind.listing (s.list (.rules rulesetId) none)).skipped

theorem list_runIn_ordered (around : Surroundings) (w : World) (rulesetId : String) :
    (list rulesetId).runIn around.calm w =
      (.ok ⟨ordered w.store rulesetId, leftOut w.store rulesetId⟩, w) :=
  rfl

theorem ordered_perm (s : Store) (rulesetId : String) :
    (ordered s rulesetId).Perm (listed s rulesetId) :=
  List.mergeSort_perm _ _

theorem ids_ordered_nodup (s : Store) (rulesetId : String) :
    ((ordered s rulesetId).map (·.id)).Nodup :=
  ((ordered_perm s rulesetId).map _).symm.nodup (ids_listed_nodup s rulesetId)

theorem ordered_pairwise (s : Store) (rulesetId : String) :
    (ordered s rulesetId).Pairwise fun a b => Rule.before a b = true :=
  List.pairwise_mergeSort Rule.before_trans Rule.before_total _

/-- A list in order of the rules that are shown is the listing. -/
theorem ordered_eq {rules : List Rule} (hperm : (listed s rulesetId).Perm rules)
    (hbefore : rules.Pairwise fun a b => Rule.before a b = true) :
    ordered s rulesetId = rules :=
  Rule.sort_eq_of_ids hperm hbefore ((hperm.map _).nodup (ids_listed_nodup s rulesetId))

/-- One more rule, of a rank above all others, stands at the end. -/
theorem ordered_concat {new : Rule} (hperm : (listed t rulesetId).Perm (new :: listed s rulesetId))
    (habove : ∀ r ∈ listed s rulesetId, r.order.value < new.order.value) :
    ordered t rulesetId = ordered s rulesetId ++ [new] := by
  have hsame := ordered_perm s rulesetId
  refine ordered_eq ?_ (List.pairwise_append.mpr ⟨ordered_pairwise s rulesetId,
    List.pairwise_singleton _ _, fun r hr q hq => ?_⟩)
  · exact hperm.trans ((hsame.symm.cons new).trans (List.perm_append_singleton _ _).symm)
  · rw [List.mem_singleton.mp hq]
    exact Rule.before_iff.mpr (.inl (habove r (hsame.mem_iff.mp hr)))

/-- A rule written under a free id, of a rank above all others, stands at the end, and equally many
documents are left out. -/
theorem listing_set_new {new : Rule}
    (hfree : ∀ d ∈ (s.shelf (.rules rulesetId)).documents, d.id ≠ new.id)
    (habove : ∀ r ∈ listed s rulesetId, r.order.value < new.order.value) :
    ordered (s.set (.rules rulesetId) new.id new.toJson) rulesetId =
        ordered s rulesetId ++ [new] ∧
      leftOut (s.set (.rules rulesetId) new.id new.toJson) rulesetId = leftOut s rulesetId := by
  obtain ⟨hperm, hskipped⟩ :=
    DocumentKind.listing_insert_free hfree (ofDocument?_document new)
  rw [← Store.shelf_set_self] at hperm hskipped
  exact ⟨ordered_concat hperm habove, hskipped⟩

/-- A rule that keeps its id and rank keeps its place. -/
theorem ordered_replace {old new : Rule} {xs ys : List Rule}
    (hs : listed s rulesetId = xs ++ old :: ys) (ht : listed t rulesetId = xs ++ new :: ys)
    (hid : new.id = old.id) (horder : new.order = old.order) :
    ∃ before after, ordered s rulesetId = before ++ old :: after ∧
      ordered t rulesetId = before ++ new :: after := by
  have hsame := ordered_perm s rulesetId
  have hmem : old ∈ ordered s rulesetId := hsame.mem_iff.mpr (by simp [hs])
  obtain ⟨before, after, hsplit⟩ := List.append_of_mem hmem
  have hbefore := ordered_pairwise s rulesetId
  rw [hsplit] at hsame hbefore
  refine ⟨before, after, hsplit, ordered_eq ?_ ?_⟩
  · -- the other rules are the same ones
    have hothers : (xs ++ ys).Perm (before ++ after) := by
      refine List.Perm.cons_inv (a := old) ?_
      exact List.perm_middle.symm.trans ((hs ▸ hsame.symm).trans List.perm_middle)
    rw [ht]
    exact List.perm_middle.trans ((hothers.cons new).trans List.perm_middle.symm)
  · -- the order looks at ids and ranks only
    simp only [List.pairwise_append, List.pairwise_cons, List.mem_cons, Rule.before] at hbefore ⊢
    simpa [hid, horder] using hbefore

/-- Documents that are no rules stay what they are when the rules are written again. -/
theorem mem_setAll_of_unread {rules : List Rule} {d : Document}
    (hids : (rules.map (·.id)).Perm ((listed s rulesetId).map (·.id)))
    (hunread : kind.ofDocument? d = none) :
    d ∈ ((s.setAll (.rules rulesetId) (rules.map document)).shelf (.rules rulesetId)).documents ↔
      d ∈ (s.shelf (.rules rulesetId)).documents := by
  have hnodup : ((rules.map document).map (·.id)).Nodup := by
    rw [map_id_document]
    exact hids.symm.nodup (ids_listed_nodup s rulesetId)
  rw [Store.setAll, Store.shelf_put_self, Shelf.mem_insertAll hnodup, map_id_document]
  constructor
  · rintro (hd | ⟨hd, -⟩)
    · obtain ⟨r, -, rfl⟩ := List.mem_map.mp hd
      rw [ofDocument?_document] at hunread
      cases hunread
    · exact hd
  · intro hd
    refine .inr ⟨hd, fun hmem => ?_⟩
    -- the rule of this id would be read from this document
    obtain ⟨r, hr, hid⟩ := List.mem_map.mp (hids.mem_iff.mp hmem)
    obtain ⟨e, he, hread⟩ := mem_listed.mp hr
    have hsame : e = d := by
      refine List.inj_on_of_nodup_map (Shelf.ids_nodup _) he hd ?_
      rw [← writes.idOf_of_ofDocument? hread, hid]
    rw [hsame, hunread] at hread
    cases hread

/-- As many documents are left out when the rules are written again. -/
theorem leftOut_setAll {rules : List Rule}
    (hids : (rules.map (·.id)).Perm ((listed s rulesetId).map (·.id))) :
    leftOut (s.setAll (.rules rulesetId) (rules.map document)) rulesetId = leftOut s rulesetId :=
  DocumentKind.skipped_eq_of_unread fun _ hunread => mem_setAll_of_unread hids hunread

/-! ## Rules without ranks -/

/-- A rule as it is read from a document without a rank. -/
def unranked (id name : String) : Rule :=
  ⟨id, name, "", [], "", .zero, ⟨⟨2020, 1, 1, by decide⟩, 0, 0, 0, 0, by decide⟩,
    ⟨⟨2020, 1, 1, by decide⟩, 0, 0, 0, 0, by decide⟩⟩

/-- Three documents of rules that have no rank and name another id, and one that is no rule. -/
def unrankedStore : Store :=
  let old (name : String) : Json := .object [("createdAt", (unranked "" name).createdAt.toJson),
    ("id", .string "elsewhere"), ("name", .string name),
    ("updatedAt", (unranked "" name).updatedAt.toJson)]
  Store.empty.setAll (.rules "a")
    [⟨"m", old "third"⟩, ⟨"k", .null⟩, ⟨"d", old "second"⟩, ⟨"b", old "first"⟩]

theorem listed_unrankedStore : listed unrankedStore "a" =
    [unranked "b" "first", unranked "d" "second", unranked "m" "third"] := by
  decide +kernel

theorem length_listed_unrankedStore :
    (listed unrankedStore "a").length ≤ 0x7fffffffffffffff := by
  rw [listed_unrankedStore]
  decide

/-- Rules without ranks are listed by their ids. -/
theorem ordered_unrankedStore : ordered unrankedStore "a" =
    [unranked "b" "first", unranked "d" "second", unranked "m" "third"] :=
  ordered_eq (by rw [listed_unrankedStore]) (by decide)

theorem leftOut_unrankedStore : leftOut unrankedStore "a" = 1 := by
  decide +kernel

theorem list_unrankedStore {rules : List Rule} {skipped : Nat} {w' : World}
    (h : (list "a").runIn around.calm { World.start with store := unrankedStore } =
      (.ok ⟨rules, skipped⟩, w')) :
    [unranked "b" "first", unranked "d" "second", unranked "m" "third"] = rules ∧ 1 = skipped := by
  rw [list_runIn_ordered, ordered_unrankedStore, leftOut_unrankedStore, Prod.mk.injEq,
    Except.ok.injEq, Listing.mk.injEq] at h
  exact h.1

end Rulebook.Rules
