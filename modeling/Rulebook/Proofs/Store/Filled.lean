import Rulebook.Proofs.Store.Kind

/-!
# Shelves of one kind of values

A shelf is `Filled` with values of some property when every document on it is the document of such a
value, under the value's id. Each way to write keeps a shelf filled as long as what is written has
the property, and so do the programs that make, change and remove a value. On a filled shelf every
document reads.
-/

namespace Rulebook

/-- Every document is that of a value with a property, under the id of the value. -/
def Shelf.Filled {α : Type} (write : α → Json) (idOf : α → String) (P : α → Prop) (s : Shelf) :
    Prop :=
  ∀ d ∈ s.documents, ∃ x, d = ⟨idOf x, write x⟩ ∧ P x

namespace Shelf.Filled

variable {α : Type} {write : α → Json} {idOf : α → String} {P Q : α → Prop} {s : Shelf}
  {c : Collection} {around : Surroundings} {w : World}

theorem empty : Shelf.empty.Filled write idOf P :=
  fun _ hd => absurd hd Shelf.mem_empty

theorem mono (h : s.Filled write idOf P) (hPQ : ∀ x, P x → Q x) : s.Filled write idOf Q :=
  fun d hd => (h d hd).imp fun x hx => ⟨hx.1, hPQ x hx.2⟩

theorem insert (h : s.Filled write idOf P) {x : α} (hx : P x) :
    (s.insert (idOf x) (write x)).Filled write idOf P := by
  intro d hd
  rcases Shelf.mem_insert.mp hd with rfl | ⟨hd, -⟩
  · exact ⟨x, rfl, hx⟩
  · exact h d hd

theorem erase (h : s.Filled write idOf P) (id : String) : (s.erase id).Filled write idOf P :=
  fun d hd => h d (Shelf.mem_erase.mp hd).1

theorem insertAll (h : s.Filled write idOf P) {xs : List α} (hxs : ∀ x ∈ xs, P x) :
    (s.insertAll (xs.map fun x => ⟨idOf x, write x⟩)).Filled write idOf P := by
  induction xs generalizing s with
  | nil => exact h
  | cons x xs ih =>
    exact ih (h.insert (hxs x List.mem_cons_self)) fun y hy => hxs y (List.mem_cons_of_mem _ hy)

variable {kind : DocumentKind α}

/-- A document on a filled shelf reads as a value with the property. -/
theorem ofDocument? (h : s.Filled write idOf P) (hw : kind.Writes write idOf) {d : Document}
    (hd : d ∈ s.documents) : ∃ x, kind.ofDocument? d = some x ∧ P x := by
  obtain ⟨x, rfl, hx⟩ := h d hd
  exact ⟨x, hw.ofDocument?_self rfl, hx⟩

/-- What is shown of a filled shelf has the property. -/
theorem of_ofDocument? (h : s.Filled write idOf P) (hw : kind.Writes write idOf) {d : Document}
    {x : α} (hd : d ∈ s.documents) (hx : kind.ofDocument? d = some x) : P x := by
  obtain ⟨y, hy, hP⟩ := h.ofDocument? hw hd
  rw [hx] at hy
  exact Option.some.inj hy ▸ hP

/-! ## Programs -/

/-- A value that is made joins the others. -/
theorem make (h : (w.store.shelf c).Filled write idOf P) (hw : kind.Writes write idOf) {x : α}
    (hx : ∀ n, P (kind.withId (around.supply.candidate n) x)) :
    (((kind.make c write x).runIn around.calm w).2.store.shelf c).Filled write idOf P := by
  obtain ⟨id, next, ⟨n, rfl⟩, -, hrun⟩ := hw.make_runIn c around w x
  rw [hrun]
  change ((w.store.put c _).shelf c).Filled write idOf P
  rw [Store.shelf_put_self]
  have hinsert := h.insert (hx n)
  rwa [hw.idOf_withId] at hinsert

/-- A value that is changed takes the place of the one it was. -/
theorem rewrite (h : (w.store.shelf c).Filled write idOf P) (hw : kind.Writes write idOf)
    {malformed : String → StoreError} {change : α → α} {id : String}
    (hid : ∀ x, idOf (change x) = idOf x) (hchange : ∀ x, P x → P (change x)) :
    (((kind.rewrite c malformed write change id).runIn around.calm w).2.store.shelf c).Filled
      write idOf P := by
  rcases hrun : (kind.rewrite c malformed write change id).runIn around.calm w with ⟨e | x, w'⟩
  · rw [DocumentKind.world_of_rewrite_error hrun]
    exact h
  · obtain ⟨old, hfetch, rfl, rfl⟩ := (DocumentKind.rewrite_runIn_eq_ok_iff change).mp hrun
    obtain ⟨-, fields, hget, hread⟩ := DocumentKind.fetch_runIn_eq_ok_iff.mp hfetch
    have hold : P old := h.of_ofDocument? hw (Shelf.get?_eq_some_iff.mp hget) hread
    have hkey : idOf (change old) = id := (hid old).trans (hw.idOf_of_ofDocument? hread)
    change ((w.store.put c _).shelf c).Filled write idOf P
    rw [Store.shelf_put_self, ← hkey]
    exact h.insert (hchange old hold)

/-- The other values stay when one is removed. -/
theorem delete (h : (w.store.shelf c).Filled write idOf P) (id : String) :
    (((Attempt.delete c id).runIn around.calm w).2.store.shelf c).Filled write idOf P := by
  cases hget : (w.store.shelf c).get? id with
  | none =>
    rw [Attempt.runIn_calm_delete_of_none around w hget]
    exact h
  | some fields =>
    rw [Attempt.runIn_calm_delete_of_some around w hget]
    change ((w.store.put c _).shelf c).Filled write idOf P
    rw [Store.shelf_put_self]
    exact h.erase id

end Shelf.Filled

end Rulebook
