import Rulebook.Store.Document
import Rulebook.Json.Reading

/-!
# Listings

The documents of a collection, read as values of one type. Documents that do not read as such are
left out and counted, so every document is accounted for. The key of a document is the id of its
value, whatever the body says.
-/

namespace Rulebook

/-- Values read from a collection, and the number of documents left out. -/
structure Listing (α : Type) where
  items : List α
  skipped : Nat

/-- How the documents of a collection are read: the body as a tree, and the key put into the
value. -/
structure DocumentKind (α : Type) where
  read : Json.Raw → Json.Decode α
  withId : String → α → α

namespace DocumentKind

/-- The value of a document, if its body reads as one. -/
def ofDocument? {α : Type} (kind : DocumentKind α) (d : Document) : Option α :=
  match Json.decodeWith kind.read d.fields with
  | .ok x => some (kind.withId d.id x)
  | .error _ => none

/-- The listing of documents, in their order. -/
def listing {α : Type} (kind : DocumentKind α) (docs : List Document) : Listing α :=
  ⟨docs.filterMap kind.ofDocument?, docs.countP fun d => (kind.ofDocument? d).isNone⟩

end DocumentKind

end Rulebook
