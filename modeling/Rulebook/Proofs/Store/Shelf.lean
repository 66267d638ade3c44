import Mathlib.Data.List.Nodup
import Rulebook.Store.Basic

/-!
# What a shelf holds

A shelf is known by its members: since no id stands twice, a look-up finds a body exactly when the
document is a member, and each operation is described by the members it leaves.
-/

namespace Rulebook.Shelf

variable {s : Shelf} {d e doc : Document} {ds : List Document} {id : String} {fields : Json}

theorem ids_nodup_of_ascending (h : ds.Pairwise fun a b => a.id < b.id) :
    (ds.map (·.id)).Nodup := by
  rw [List.Nodup, List.pairwise_map]
  exact h.imp String.ne_of_lt

/-- No id stands twice on a shelf. -/
theorem ids_nodup (s : Shelf) : (s.documents.map (·.id)).Nodup :=
  ids_nodup_of_ascending s.ascending

theorem documents_nodup (s : Shelf) : s.documents.Nodup :=
  List.Nodup.of_map _ s.ids_nodup

theorem mem_insertInto (h : ds.Pairwise fun a b => a.id < b.id) :
    d ∈ insertInto doc ds ↔ d = doc ∨ d ∈ ds ∧ d.id ≠ doc.id := by
  induction ds with
  | nil => simp [insertInto]
  | cons e es ih =>
    rw [List.pairwise_cons] at h
    have hother : ∀ f ∈ es, f.id ≠ e.id := fun f hf heq =>
      String.lt_irrefl _ (heq ▸ h.1 f hf)
    unfold insertInto
    split
    · next heq =>
      -- the old document goes, and no other has its id
      simp only [List.mem_cons]
      constructor
      · rintro (rfl | hd)
        · exact .inl rfl
        · exact .inr ⟨.inr hd, heq ▸ hother d hd⟩
      · rintro (rfl | ⟨rfl | hd, hne⟩)
        · exact .inl rfl
        · exact absurd heq hne
        · exact .inr hd
    · next hne =>
      split
      · next hlt =>
        -- all that follows has a greater id
        have hne' : ∀ f ∈ e :: es, f.id ≠ doc.id := by
          intro f hf heq
          rcases List.mem_cons.mp hf with rfl | hf
          · exact hne heq
          · exact String.lt_irrefl _ (String.lt_trans (heq ▸ h.1 f hf) hlt)
        rw [List.mem_cons]
        exact or_congr_right ⟨fun hd => ⟨hd, hne' d hd⟩, And.left⟩
      · rw [List.mem_cons, ih h.2, List.mem_cons]
        constructor
        · rintro (rfl | rfl | ⟨hd, hd'⟩)
          · exact .inr ⟨.inl rfl, hne⟩
          · exact .inl rfl
          · exact .inr ⟨.inr hd, hd'⟩
        · rintro (rfl | ⟨rfl | hd, hd'⟩)
          · exact .inr (.inl rfl)
          · exact .inl rfl
          · exact .inr (.inr ⟨hd, hd'⟩)

theorem mem_empty : d ∉ empty.documents := by
  simp [empty]

theorem mem_insert :
    d ∈ (s.insert id fields).documents ↔ d = ⟨id, fields⟩ ∨ d ∈ s.documents ∧ d.id ≠ id :=
  mem_insertInto s.ascending

/-- A document under a free id joins the others. -/
theorem insert_perm (h : ∀ d ∈ s.documents, d.id ≠ id) :
    (s.insert id fields).documents.Perm (⟨id, fields⟩ :: s.documents) := by
  have hnew : (⟨id, fields⟩ : Document) ∉ s.documents := fun hmem => h _ hmem rfl
  refine (List.perm_ext_iff_of_nodup (documents_nodup _)
    (List.nodup_cons.mpr ⟨hnew, s.documents_nodup⟩)).mpr fun d => ?_
  rw [mem_insert, List.mem_cons]
  exact or_congr_right (and_iff_left_of_imp (h d))

/-- A document under a free id is one more. -/
theorem length_insert (h : ∀ d ∈ s.documents, d.id ≠ id) :
    (s.insert id fields).documents.length = s.documents.length + 1 :=
  (insert_perm h).length_eq

theorem mem_erase : d ∈ (s.erase id).documents ↔ d ∈ s.documents ∧ d.id ≠ id := by
  simp [erase]

/-- Several documents with different ids take the places of those with their ids. -/
theorem mem_insertAll {docs : List Document} (h : (docs.map (·.id)).Nodup) :
    d ∈ (s.insertAll docs).documents ↔
      d ∈ docs ∨ d ∈ s.documents ∧ d.id ∉ docs.map (·.id) := by
  induction docs generalizing s with
  | nil => simp [insertAll]
  | cons doc docs ih =>
    rw [List.map_cons, List.nodup_cons] at h
    change d ∈ ((s.insert doc.id doc.fields).insertAll docs).documents ↔ _
    rw [ih h.2, mem_insert, List.mem_cons, List.map_cons, List.mem_cons]
    constructor
    · rintro (hd | ⟨rfl | ⟨hd, hne⟩, hout⟩)
      · exact .inl (.inr hd)
      · exact .inl (.inl rfl)
      · exact .inr ⟨hd, not_or.mpr ⟨hne, hout⟩⟩
    · rintro ((rfl | hd) | ⟨hd, hout⟩)
      · exact .inr ⟨.inl rfl, h.1⟩
      · exact .inl hd
      · exact .inr ⟨.inr ⟨hd, (not_or.mp hout).1⟩, (not_or.mp hout).2⟩

/-- What a filter passes was there. -/
theorem mem_of_select {filter : Option FieldFilter} (h : d ∈ s.select filter) :
    d ∈ s.documents := by
  cases filter with
  | none => exact h
  | some f => exact List.mem_of_mem_filter h

theorem find?_eq_some_iff (h : (ds.map (·.id)).Nodup) :
    find? id ds = some fields ↔ ⟨id, fields⟩ ∈ ds := by
  induction ds with
  | nil => simp [find?]
  | cons d ds ih =>
    rw [List.map_cons, List.nodup_cons] at h
    unfold find?
    split
    · next heq =>
      subst heq
      constructor
      · rintro hf
        rw [Option.some.injEq] at hf
        exact hf ▸ List.mem_cons_self
      · intro hm
        rcases List.mem_cons.mp hm with hm | hm
        · rw [← hm]
        · exact absurd (List.mem_map_of_mem hm) h.1
    · next hne =>
      rw [ih h.2, List.mem_cons]
      exact ⟨.inr, fun hm => hm.resolve_left fun heq => hne (congrArg Document.id heq).symm⟩

/-- A look-up finds exactly the members. -/
theorem get?_eq_some_iff : s.get? id = some fields ↔ ⟨id, fields⟩ ∈ s.documents :=
  find?_eq_some_iff s.ids_nodup

/-- A look-up finds nothing exactly where the id is free. -/
theorem get?_eq_none_iff : s.get? id = none ↔ ∀ d ∈ s.documents, d.id ≠ id := by
  constructor
  · intro h d hd heq
    subst heq
    rw [get?_eq_some_iff.mpr hd] at h
    exact Option.some_ne_none _ h
  · intro h
    cases hg : s.get? id with
    | none => rfl
    | some fields => exact absurd rfl (h _ (get?_eq_some_iff.mp hg))

/-- A look-up after an insertion finds what was inserted, or what was there. -/
theorem get?_insert (s : Shelf) (id other : String) (fields : Json) :
    (s.insert id fields).get? other = if other = id then some fields else s.get? other := by
  by_cases h : other = id
  · subst h
    rw [if_pos rfl, get?_eq_some_iff, mem_insert]
    exact .inl rfl
  · rw [if_neg h]
    refine Option.ext fun found => ?_
    rw [get?_eq_some_iff, get?_eq_some_iff, mem_insert]
    constructor
    · rintro (heq | ⟨hmem, -⟩)
      · exact absurd (congrArg Document.id heq) h
      · exact hmem
    · exact fun hmem => .inr ⟨hmem, h⟩

/-- The documents of a shelf that satisfy a test are known by their members. -/
theorem filter_eq_of_mem_iff {a b : Shelf} {test : Document → Bool}
    (h : ∀ d, test d → (d ∈ a.documents ↔ d ∈ b.documents)) :
    a.documents.filter test = b.documents.filter test := by
  have hperm : (a.documents.filter test).Perm (b.documents.filter test) := by
    refine (List.perm_ext_iff_of_nodup (a.documents_nodup.filter _)
      (b.documents_nodup.filter _)).mpr fun d => ?_
    rw [List.mem_filter, List.mem_filter]
    exact and_congr_left (h d)
  have hasymm : ∀ d e, d ∈ a.documents.filter test → e ∈ b.documents.filter test →
      d.id < e.id → e.id < d.id → d = e := by
    intro d e _ _ hde hed
    exact absurd (String.lt_trans hde hed) (String.lt_irrefl _)
  exact hperm.eq_of_pairwise hasymm (a.ascending.filter _) (b.ascending.filter _)

end Rulebook.Shelf

/-- What is set stands on its shelf. -/
theorem Rulebook.Store.shelf_set_self (s : Store) (c : Collection) (id : String) (fields : Json) :
    (s.set c id fields).shelf c = (s.shelf c).insert id fields :=
  s.shelf_put_self c _

/-- After one document is set there are that document and all others. -/
theorem Rulebook.Store.mem_set {s : Store} {c e : Collection} {id : String} {fields : Json}
    {d : Document} : d ∈ ((s.set c id fields).shelf e).documents ↔
      (e = c ∧ d = ⟨id, fields⟩) ∨ d ∈ (s.shelf e).documents ∧ ¬ (e = c ∧ d.id = id) := by
  by_cases he : e = c
  · subst he
    rw [shelf_set_self, Shelf.mem_insert]
    simp
  · rw [set, shelf_put_ne _ _ he]
    simp [he]

/-- After several documents are set there are these and all others. -/
theorem Rulebook.Store.mem_setAll {s : Store} {c e : Collection} {docs : List Document}
    (h : (docs.map (·.id)).Nodup) {d : Document} :
    d ∈ ((s.setAll c docs).shelf e).documents ↔
      (e = c ∧ d ∈ docs) ∨ d ∈ (s.shelf e).documents ∧ ¬ (e = c ∧ d.id ∈ docs.map (·.id)) := by
  by_cases he : e = c
  · subst he
    rw [setAll, shelf_put_self, Shelf.mem_insertAll h]
    simp
  · rw [setAll, shelf_put_ne _ _ he]
    simp [he]

theorem Rulebook.Store.get?_setAll_of_not_mem {s : Store} {c : Collection} {id : String}
    {docs : List Document} (hnodup : (docs.map (·.id)).Nodup) (h : id ∉ docs.map (·.id)) :
    ((s.setAll c docs).shelf c).get? id = (s.shelf c).get? id := by
  refine Option.ext fun fields => ?_
  rw [Shelf.get?_eq_some_iff, Shelf.get?_eq_some_iff, mem_setAll hnodup]
  constructor
  · rintro (⟨-, hd⟩ | ⟨hd, -⟩)
    · exact absurd (List.mem_map_of_mem hd) h
    · exact hd
  · exact fun hd => .inr ⟨hd, fun hmem => h hmem.2⟩
