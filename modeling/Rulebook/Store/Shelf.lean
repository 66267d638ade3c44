import Rulebook.Store.Document

/-!
# Shelves

The documents of one collection, strictly ascending by id. Ids compare by their code points, which
is also the order of their UTF-8 bytes. Because the order is part of the type, two shelves that
answer every look-up alike are equal as lists.
-/

namespace Rulebook

/-- Documents strictly ascending by id. -/
structure Shelf where
  documents : List Document
  ascending : documents.Pairwise fun a b => a.id < b.id

namespace Shelf

/-- The shelf that holds nothing. -/
def empty : Shelf :=
  ⟨[], .nil⟩

/-- The body under an id in a list of documents. -/
def find? (id : String) : List Document → Option Json
  | [] => none
  | d :: ds => if d.id = id then some d.fields else find? id ds

/-- The body under an id. -/
def get? (s : Shelf) (id : String) : Option Json :=
  find? id s.documents

/-- Whether an id is taken. -/
def holds (s : Shelf) (id : String) : Bool :=
  s.documents.any fun d => d.id = id

/-- The ids that are taken. -/
def ids (s : Shelf) : List String :=
  s.documents.map (·.id)

/-- A list of documents with one of them put in its place. -/
def insertInto (doc : Document) : List Document → List Document
  | [] => [doc]
  | d :: ds =>
    if d.id = doc.id then doc :: ds
    else if doc.id < d.id then doc :: d :: ds
    else d :: insertInto doc ds

/-- What stands before everything stands before everything after one insertion too. -/
theorem forall_mem_insertInto {p : Document → Prop} {doc : Document} {ds : List Document}
    (hd : p doc) (h : ∀ d ∈ ds, p d) : ∀ d ∈ insertInto doc ds, p d := by
  induction ds with
  | nil => simpa [insertInto] using hd
  | cons e es ih =>
    have he : p e := h e (by simp)
    have hes : ∀ d ∈ es, p d := fun d hm => h d (by simp [hm])
    unfold insertInto
    split
    · simpa using ⟨hd, hes⟩
    · split
      · simpa using ⟨hd, he, hes⟩
      · simpa using ⟨he, ih hes⟩

/-- Of two different ids one stands before the other. -/
theorem lt_of_ne_of_not_lt {a b : String} (hne : b ≠ a) (h : ¬ a < b) : b < a := by
  apply Classical.byContradiction
  intro h'
  exact hne (String.le_antisymm (String.not_lt.mp h) (String.not_lt.mp h'))

/-- Insertion keeps the order. -/
theorem ascending_insertInto (doc : Document) {ds : List Document}
    (h : ds.Pairwise fun a b => a.id < b.id) :
    (insertInto doc ds).Pairwise fun a b => a.id < b.id := by
  induction ds with
  | nil => simp [insertInto]
  | cons e es ih =>
    rw [List.pairwise_cons] at h
    unfold insertInto
    split
    · next heq =>
      rw [List.pairwise_cons]
      exact ⟨fun d hd => heq ▸ h.1 d hd, h.2⟩
    · next hne =>
      split
      · next hlt =>
        rw [List.pairwise_cons, List.pairwise_cons]
        refine ⟨?_, h⟩
        intro d hd
        rcases List.mem_cons.mp hd with rfl | hd
        · exact hlt
        · exact String.lt_trans hlt (h.1 d hd)
      · next hlt =>
        rw [List.pairwise_cons]
        exact ⟨forall_mem_insertInto (p := fun d => e.id < d.id) (lt_of_ne_of_not_lt hne hlt) h.1,
          ih h.2⟩

/-- The shelf with a body under an id, in place of any that was there. -/
def insert (s : Shelf) (id : String) (fields : Json) : Shelf :=
  ⟨insertInto ⟨id, fields⟩ s.documents, ascending_insertInto _ s.ascending⟩

/-- The shelf without an id. -/
def erase (s : Shelf) (id : String) : Shelf :=
  ⟨s.documents.filter fun d => d.id ≠ id, s.ascending.filter _⟩

/-- The shelf after several insertions, the first one first. -/
def insertAll (s : Shelf) (docs : List Document) : Shelf :=
  docs.foldl (fun s d => s.insert d.id d.fields) s

/-- The documents that pass a filter, in order. -/
def select (s : Shelf) (filter : Option FieldFilter) : List Document :=
  match filter with
  | none => s.documents
  | some f => s.documents.filter fun d => f.accepts d.fields

end Shelf

end Rulebook
