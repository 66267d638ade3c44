import Mathlib.Data.List.Perm.Basic
import Rulebook.Proofs.Rule.Ordered
import Rulebook.Proofs.Ruleset.Link

/-!
# Listing and fetching agree

A listing shows the documents that read and counts the others; a fetch gives a value for a document
that reads and fails for another one. Both read a document in the same way, and on a shelf no id
stands twice, so the two tell the same about every id (`DocumentKind.Accounted`). This is shown for
any kind of documents that writes what it reads, and for any order in which a listing puts its items
(`DocumentKind.Writes.accounted`): rulesets stand as they lie on the shelf, and rules are sorted.
-/

namespace Rulebook

/-- A program that fails with a failure of a kind and changes nothing. -/
def Attempt.FailsWith {α : Type} (around : Surroundings) (w : World) (p : Attempt StoreError α)
    (kind : String) : Prop :=
  ∃ e, p.runIn around w = (.error e, w) ∧ e.kind = kind

namespace DocumentKind

variable {α : Type}

/-- A document shows a value: its body reads as one, and its key takes the place of whatever id the
body has given. -/
def Shows (kind : DocumentKind α) (d : Document) (x : α) : Prop :=
  ∃ y, Json.decodeWith kind.read d.fields = .ok y ∧ x = kind.withId d.id y

/-- The documents of a collection, divided into those that read and those that do not: the items of
the listing are the values of the former, one for each and in the order required, its count is the
number of the latter, and a fetch finds the items and nothing else. -/
structure Accounted (kind : DocumentKind α) (c : Collection) (idOf : α → String)
    (before : α → α → Prop) (list : Attempt StoreError (Listing α))
    (get : String → Attempt StoreError α) (around : Surroundings) (w : World)
    (readable unreadable : List Document) (items : List α) : Prop where
  documents : (w.store.shelf c).documents.Perm (readable ++ unreadable)
  not_read : ∀ d ∈ unreadable, ∃ e, Json.decodeWith kind.read d.fields = .error e
  shown : List.Forall₂ (fun x d => kind.Shows d x ∧ idOf x = d.id) items readable
  listed : list.runIn around w = (.ok ⟨items, unreadable.length⟩, w)
  order : items.Pairwise before
  fetched : ∀ id x w', (get id).runIn around w = (.ok x, w') ↔ w' = w ∧ x ∈ items ∧ idOf x = id
  malformed : ∀ id, (get id).FailsWith around w "query" ↔ ∃ d ∈ unreadable, d.id = id
  missing : ∀ id, (get id).FailsWith around w "not_found" ↔
    ∀ d ∈ (w.store.shelf c).documents, d.id ≠ id

variable {kind : DocumentKind α} {write : α → Json} {idOf : α → String} {c : Collection}
  {around : Surroundings} {w : World} {d : Document} {docs : List Document} {id : String} {x : α}

theorem shows_iff : kind.Shows d x ↔ kind.ofDocument? d = some x := by
  rw [ofDocument?_eq_some_iff]
  exact exists_congr fun y => and_congr_right fun _ => eq_comm

/-- The items of a listing are the values of the documents that read, one for each. -/
theorem forall₂_items (h : kind.Writes write idOf) (docs : List Document) :
    List.Forall₂ (fun x d => kind.Shows d x ∧ idOf x = d.id) (kind.listing docs).items
      (docs.filter fun d => (kind.ofDocument? d).isSome) := by
  change List.Forall₂ _ (docs.filterMap kind.ofDocument?) _
  induction docs with
  | nil => exact .nil
  | cons d docs ih =>
    cases hread : kind.ofDocument? d with
    | none => rwa [List.filterMap_cons_none hread, List.filter_cons_of_neg (by simp [hread])]
    | some x =>
      rw [List.filterMap_cons_some hread, List.filter_cons_of_pos (by simp [hread])]
      exact .cons ⟨shows_iff.mpr hread, h.idOf_of_ofDocument? hread⟩ ih

/-- A fetch fails as malformed exactly for a document that does not read. -/
theorem fetch_failsWith_query_iff :
    (kind.fetch c (.malformedDocument c) id).FailsWith around.calm w "query" ↔
      ∃ d ∈ (w.store.shelf c).documents, kind.ofDocument? d = none ∧ d.id = id := by
  constructor
  · rintro ⟨e, hrun, hkind⟩
    rw [fetch_runIn, Prod.mk.injEq] at hrun
    cases hget : (w.store.shelf c).get? id with
    | none =>
      rw [hget, Except.error.injEq] at hrun
      rw [← hrun.1] at hkind
      exact absurd hkind (by simp [StoreError.missing, StoreError.kind])
    | some fields =>
      cases hread : kind.ofDocument? ⟨id, fields⟩ with
      | none => exact ⟨⟨id, fields⟩, Shelf.get?_eq_some_iff.mp hget, hread, rfl⟩
      | some x => simp [hget, hread] at hrun
  · rintro ⟨⟨id, fields⟩, hd, hread, rfl⟩
    refine ⟨.malformedDocument c id, ?_, rfl⟩
    simp only [fetch_runIn, Shelf.get?_eq_some_iff.mpr hd, hread]

/-- A fetch fails as missing exactly where there is no document. -/
theorem fetch_failsWith_notFound_iff :
    (kind.fetch c (.malformedDocument c) id).FailsWith around.calm w "not_found" ↔
      ∀ d ∈ (w.store.shelf c).documents, d.id ≠ id := by
  constructor
  · rintro ⟨e, hrun, hkind⟩ ⟨id, fields⟩ hd rfl
    rw [fetch_runIn, Shelf.get?_eq_some_iff.mpr hd, Prod.mk.injEq] at hrun
    cases hread : kind.ofDocument? ⟨id, fields⟩ with
    | none =>
      simp only [hread, Except.error.injEq] at hrun
      rw [← hrun.1] at hkind
      exact absurd hkind (by simp [StoreError.kind])
    | some x => simp [hread] at hrun
  · intro hfree
    refine ⟨.missing c id, ?_, rfl⟩
    rw [fetch_runIn, Shelf.get?_eq_none_iff.mpr hfree]

/-- Listing and fetching agree if the listing shows the values of all documents that read, in
whatever order. -/
theorem Writes.accounted (h : kind.Writes write idOf) {before : α → α → Prop}
    {list : Attempt StoreError (Listing α)} {items : List α}
    (hlist : list.runIn around.calm w =
      (.ok ⟨items, (kind.listing (w.store.shelf c).documents).skipped⟩, w))
    (hperm : items.Perm (kind.listing (w.store.shelf c).documents).items)
    (hbefore : items.Pairwise before) :
    ∃ readable unreadable, kind.Accounted c idOf before list
      (kind.fetch c (.malformedDocument c)) around.calm w readable unreadable items := by
  let docs := (w.store.shelf c).documents
  let unreadable := docs.filter fun d => (kind.ofDocument? d).isNone
  have hunreadable : ∀ d, d ∈ unreadable ↔ d ∈ docs ∧ kind.ofDocument? d = none := by
    simp [unreadable]
  -- the documents that read are put in the order of the items
  obtain ⟨readable, hshown, hreadable⟩ := List.perm_comp_forall₂ hperm (forall₂_items h docs)
  refine ⟨readable, unreadable, ?_, ?_, hshown, ?_, hbefore, ?_, ?_, ?_⟩
  · have hsplit := List.filter_append_perm (fun d => (kind.ofDocument? d).isSome) docs
    simp only [Option.not_isSome] at hsplit
    exact hsplit.symm.trans (hreadable.symm.append_right _)
  · exact fun d hd => ofDocument?_eq_none_iff.mp ((hunreadable d).mp hd).2
  · rw [hlist, ← List.countP_eq_length_filter]
    rfl
  · intro id x w'
    rw [fetch_runIn_eq_ok_iff, hperm.mem_iff, mem_items]
    refine and_congr_right fun _ => ?_
    constructor
    · rintro ⟨fields, hget, hread⟩
      exact ⟨⟨_, Shelf.get?_eq_some_iff.mp hget, hread⟩, h.idOf_of_ofDocument? hread⟩
    · rintro ⟨⟨d, hd, hread⟩, rfl⟩
      rw [h.idOf_of_ofDocument? hread]
      exact ⟨d.fields, Shelf.get?_eq_some_iff.mpr hd, hread⟩
  · intro id
    simp only [fetch_failsWith_query_iff, hunreadable, and_assoc]
    rfl
  · exact fun id => fetch_failsWith_notFound_iff

end DocumentKind

namespace Rulesets

/-- The items of a listing stand as their documents do. -/
theorem listed_pairwise (s : Store) : (listed s).Pairwise fun a b => a.id < b.id := by
  rw [← List.pairwise_map]
  exact (List.pairwise_map.mpr (s.shelf .rulesets).ascending).sublist (writes.ids_sublist _)

end Rulesets

namespace Rules

/-- No id stands twice, so rules of one rank ascend strictly. -/
theorem ordered_strict (s : Store) (rulesetId : String) :
    (ordered s rulesetId).Pairwise fun a b =>
      a.order.value < b.order.value ∨ a.order.value = b.order.value ∧ a.id < b.id := by
  have hids : (ordered s rulesetId).Pairwise fun a b => a.id ≠ b.id :=
    List.pairwise_map.mp (ids_ordered_nodup s rulesetId)
  refine (ordered_pairwise s rulesetId).imp₂ (fun a b hbefore hne => ?_) hids
  refine (Rule.before_iff.mp hbefore).imp_right fun ⟨hrank, hid⟩ => ⟨hrank, ?_⟩
  exact Shelf.lt_of_ne_of_not_lt hne hid

end Rules

/-- **Listing and fetching agree on every document.** In every store, for the rulesets and for the
rules of every ruleset, the documents are divided into those that the listing shows, one item for
each, and those that it counts. A fetch succeeds exactly with the item of its id, fails with a query
error exactly for a document that is counted, and with not found exactly where there is none. Every
item has the key of its document as its id; rulesets ascend by id, and rules by rank and then by
id. -/
theorem listing_and_fetching_agree (around : Surroundings) (w : World) :
    (∃ readable unreadable items, Rulesets.kind.Accounted .rulesets (·.id)
      (fun a b => a.id < b.id) Rulesets.list Rulesets.get around.calm w readable unreadable items) ∧
    ∀ rulesetId, ∃ readable unreadable items, Rules.kind.Accounted (.rules rulesetId) (·.id)
      (fun a b => a.order.value < b.order.value ∨ a.order.value = b.order.value ∧ a.id < b.id)
      (Rules.list rulesetId) (Rules.get rulesetId) around.calm w readable unreadable items := by
  refine ⟨?_, fun rulesetId => ?_⟩
  · have hget : Rulesets.get = Rulesets.kind.fetch .rulesets (.malformedDocument .rulesets) :=
      funext fun _ => Rulesets.get_eq
    have hlist : Rulesets.list.runIn around.calm w = (.ok ⟨Rulesets.listed w.store,
        (Rulesets.kind.listing (w.store.shelf .rulesets).documents).skipped⟩, w) := rfl
    obtain ⟨readable, unreadable, h⟩ :=
      Rulesets.writes.accounted hlist (.refl _) (Rulesets.listed_pairwise w.store)
    exact ⟨readable, unreadable, _, hget ▸ h⟩
  · have hget : Rules.get rulesetId =
        Rules.kind.fetch (.rules rulesetId) (.malformedDocument (.rules rulesetId)) :=
      funext fun _ => Rules.get_eq
    obtain ⟨readable, unreadable, h⟩ := Rules.writes.accounted
      (Rules.list_runIn_ordered around w rulesetId) (Rules.ordered_perm w.store rulesetId)
      (Rules.ordered_strict w.store rulesetId)
    exact ⟨readable, unreadable, _, hget ▸ h⟩

end Rulebook
