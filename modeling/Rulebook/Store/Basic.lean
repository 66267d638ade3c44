import Rulebook.Store.Error
import Rulebook.Store.Shelf
import Rulebook.Store.Supply

/-!
# The store

The store keeps a shelf for every collection, almost all of them empty. Its six operations are
here as plain functions: four that read or change documents in place, one that adds a document
under an id nobody has used in the collection, and one that lists a collection in the order of its
ids.
-/

namespace Rulebook

/-- All documents, a shelf for every collection. -/
structure Store where
  shelf : Collection → Shelf

namespace Store

/-- The store that holds nothing. -/
def empty : Store :=
  ⟨fun _ => Shelf.empty⟩

/-- The store with one shelf replaced. -/
def put (s : Store) (c : Collection) (shelf : Shelf) : Store :=
  ⟨fun d => if d = c then shelf else s.shelf d⟩

/-- The shelf just put is found. -/
@[simp] theorem shelf_put_self (s : Store) (c : Collection) (x : Shelf) :
    (s.put c x).shelf c = x := by
  simp [put]

/-- Other shelves are where they were. -/
@[simp] theorem shelf_put_ne (s : Store) {c d : Collection} (x : Shelf) (h : d ≠ c) :
    (s.put c x).shelf d = s.shelf d := by
  simp [put, h]

/-- The document under an id. -/
def get (s : Store) (c : Collection) (id : String) : Except StoreError Document :=
  match (s.shelf c).get? id with
  | some fields => .ok ⟨id, fields⟩
  | none => .error (.missing c id)

/-- The store with a body under an id, in place of any that was there. -/
def set (s : Store) (c : Collection) (id : String) (fields : Json) : Store :=
  s.put c ((s.shelf c).insert id fields)

/-- The store without a document that has to be there. -/
def delete (s : Store) (c : Collection) (id : String) : Except StoreError Store :=
  match (s.shelf c).get? id with
  | some _ => .ok (s.put c ((s.shelf c).erase id))
  | none => .error (.missing c id)

/-- The documents of a collection that pass a filter, ascending by id. -/
def list (s : Store) (c : Collection) (filter : Option FieldFilter) : List Document :=
  (s.shelf c).select filter

/-- The store with several documents set, the first one first. -/
def setAll (s : Store) (c : Collection) (docs : List Document) : Store :=
  s.put c ((s.shelf c).insertAll docs)

/-- The store with a new document that carries its id, the id, and the next place in the supply. -/
def add (s : Store) (supply : IdSupply) (start : Nat) (c : Collection) (fields : Json) :
    Store × String × Nat :=
  let place := supply.firstFree (s.shelf c).ids start
  let id := supply.candidate place
  (s.set c id (fields.withId id), id, place + 1)

end Store

end Rulebook
