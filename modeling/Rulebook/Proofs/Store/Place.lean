import Rulebook.Proofs.Store.Kind
import Rulebook.Proofs.Store.Path

/-!
# Where a listing shows what is written

A body written under an id that is taken stands where the old one has stood, so a listing shows the
new value in the place of the old one (`DocumentKind.listing_insert`). A value written under a free
id is one more (`DocumentKind.listing_insert_free`). How many documents a listing leaves out depends
on these documents only (`DocumentKind.skipped_eq_of_unread`).
-/

namespace Rulebook

namespace Shelf

variable {s : Shelf} {id : String} {fields new : Json}

/-- A document takes the place of the one with its id. -/
theorem insertInto_of_mem {before after : List Document} {old doc : Document}
    (h : (before ++ old :: after).Pairwise fun a b => a.id < b.id) (hid : old.id = doc.id) :
    insertInto doc (before ++ old :: after) = before ++ doc :: after := by
  induction before with
  | nil => simp [insertInto, hid]
  | cons d before ih =>
    rw [List.cons_append, List.pairwise_cons] at h
    have hlt : d.id < doc.id := hid ▸ h.1 old (by simp)
    rw [List.cons_append, insertInto, if_neg (String.ne_of_lt hlt), if_neg (String.lt_asymm hlt),
      ih h.2, List.cons_append]

/-- A body under an id that is taken stands where the old one has stood. -/
theorem exists_place (h : s.get? id = some fields) (new : Json) :
    ∃ before after, s.documents = before ++ ⟨id, fields⟩ :: after ∧
      (s.insert id new).documents = before ++ ⟨id, new⟩ :: after := by
  obtain ⟨before, after, hdocs⟩ := List.append_of_mem (get?_eq_some_iff.mp h)
  refine ⟨before, after, hdocs, ?_⟩
  have hascending := s.ascending
  rw [hdocs] at hascending
  change insertInto ⟨id, new⟩ s.documents = _
  rw [hdocs]
  exact insertInto_of_mem hascending rfl

end Shelf

/-- Writing a body twice is writing it once. -/
theorem Store.set_set (s : Store) (c : Collection) (id : String) (fields : Json) :
    (s.set c id fields).set c id fields = s.set c id fields := by
  refine ext_body? fun path other => ?_
  rw [body?_set]
  split
  · next h => rw [body?_set, if_pos h]
  · rfl

/-- A document that is among several others may be set before them or after them. -/
theorem Store.setAll_set {s : Store} {c : Collection} {id : String} {fields new : Json}
    {docs docs' : List Document} (hnodup : (docs.map (·.id)).Nodup)
    (hids : docs'.map (·.id) = docs.map (·.id))
    (hdocs : ∀ d, d ∈ docs' ↔ d = ⟨id, new⟩ ∨ d ∈ docs ∧ d.id ≠ id) :
    (s.set c id fields).setAll c docs' = (s.setAll c docs).set c id new := by
  have hamong : id ∈ docs.map (·.id) :=
    hids ▸ List.mem_map_of_mem ((hdocs ⟨id, new⟩).mpr (.inl rfl))
  refine Store.ext_mem fun e d => ?_
  rw [mem_setAll (hids ▸ hnodup), mem_set, mem_set, mem_setAll hnodup, hids, hdocs]
  by_cases he : e = c
  · subst he
    simp only [true_and]
    constructor
    · rintro ((rfl | ⟨hd, hne⟩) | ⟨rfl | ⟨hd, hne⟩, hout⟩)
      · exact .inl rfl
      · exact .inr ⟨.inl hd, hne⟩
      · exact absurd hamong hout
      · exact .inr ⟨.inr ⟨hd, hout⟩, hne⟩
    · rintro (rfl | ⟨hd | ⟨hd, hout⟩, hne⟩)
      · exact .inl (.inl rfl)
      · exact .inl (.inr ⟨hd, hne⟩)
      · exact .inr ⟨.inr ⟨hd, hne⟩, hout⟩
  · simp [he]

namespace DocumentKind

variable {α : Type} {kind : DocumentKind α} {s t : Shelf} {docs docs' : List Document}
  {id : String} {fields new : Json} {x y : α}

/-- A listing shows the value of a document between those of the documents around it. -/
theorem listing_append_cons {before after : List Document} {d : Document}
    (hread : kind.ofDocument? d = some x) :
    kind.listing (before ++ d :: after) =
      ⟨(kind.listing before).items ++ x :: (kind.listing after).items,
        (kind.listing before).skipped + (kind.listing after).skipped⟩ := by
  simp [listing, List.filterMap_cons_some hread, hread]

/-- A value written in place of another one is shown where the other one was. -/
theorem listing_insert (hget : s.get? id = some fields)
    (hold : kind.ofDocument? ⟨id, fields⟩ = some x) (hnew : kind.ofDocument? ⟨id, new⟩ = some y) :
    ∃ xs ys skipped, kind.listing s.documents = ⟨xs ++ x :: ys, skipped⟩ ∧
      kind.listing (s.insert id new).documents = ⟨xs ++ y :: ys, skipped⟩ := by
  obtain ⟨before, after, hdocs, hinsert⟩ := Shelf.exists_place hget new
  exact ⟨_, _, _, by rw [hdocs, listing_append_cons hold],
    by rw [hinsert, listing_append_cons hnew]⟩

/-- Listings of the same documents show the same values and leave out equally many. -/
theorem listing_perm (h : docs.Perm docs') :
    (kind.listing docs).items.Perm (kind.listing docs').items ∧
      (kind.listing docs).skipped = (kind.listing docs').skipped :=
  ⟨h.filterMap _, h.countP_eq _⟩

/-- A value written under a free id is shown with the others, and nothing more is left out. -/
theorem listing_insert_free (hfree : ∀ d ∈ s.documents, d.id ≠ id)
    (hnew : kind.ofDocument? ⟨id, new⟩ = some y) :
    (kind.listing (s.insert id new).documents).items.Perm
        (y :: (kind.listing s.documents).items) ∧
      (kind.listing (s.insert id new).documents).skipped =
        (kind.listing s.documents).skipped := by
  have hperm : (s.insert id new).documents.Perm (⟨id, new⟩ :: s.documents) :=
    Shelf.insert_perm hfree
  have hcons : kind.listing (⟨id, new⟩ :: s.documents) =
      ⟨y :: (kind.listing s.documents).items, (kind.listing s.documents).skipped⟩ := by
    simp [listing, List.filterMap_cons_some hnew, hnew]
  obtain ⟨hitems, hskipped⟩ : (kind.listing (s.insert id new).documents).items.Perm
      (kind.listing (⟨id, new⟩ :: s.documents)).items ∧ _ := listing_perm hperm
  rw [hcons] at hitems hskipped
  exact ⟨hitems, hskipped⟩

/-- Two shelves with the same documents that are no values have equally many of them. -/
theorem skipped_eq_of_unread
    (h : ∀ d, kind.ofDocument? d = none → (d ∈ s.documents ↔ d ∈ t.documents)) :
    (kind.listing s.documents).skipped = (kind.listing t.documents).skipped := by
  change s.documents.countP _ = t.documents.countP _
  rw [List.countP_eq_length_filter, List.countP_eq_length_filter]
  refine congrArg List.length (Shelf.filter_eq_of_mem_iff fun d hd => h d ?_)
  exact Option.isNone_iff_eq_none.mp hd

end DocumentKind

end Rulebook
