import Rulebook.Store.Document

/-!
# What can go wrong with the store

A document is missing, the store cannot be reached, or an operation on it fails. A document that is
there but does not read as what it should be counts as a failed operation.
-/

namespace Rulebook

/-- A failure of the store or of reading what it holds. -/
inductive StoreError where
  | notFound (path id : String)
  | connection (message : String)
  | query (message : String)
  | malformedDocument (collection : Collection) (id : String)
  | malformedToken (userId : String)
deriving DecidableEq, Repr

namespace StoreError

/-- The failure that says a document of a collection is missing. -/
def missing (c : Collection) (id : String) : StoreError :=
  .notFound c.path id

/-- Whether a document is missing. -/
def isNotFound : StoreError → Bool
  | .notFound _ _ => true
  | _ => false

/-- The name of the kind of a failure. -/
def kind : StoreError → String
  | .notFound _ _ => "not_found"
  | .connection _ => "connection"
  | .query _ | .malformedDocument _ _ | .malformedToken _ => "query"

/-- What failed, for failed operations. -/
def queryText : StoreError → String
  | .malformedDocument c id => "document " ++ c.path ++ "/" ++ id ++ " is malformed"
  | .malformedToken userId => "token record for user " ++ userId ++ " is malformed"
  | .notFound _ _ => ""
  | .connection message | .query message => message

/-- The text of a failure. -/
def message : StoreError → String
  | .notFound path id => "document " ++ path ++ "/" ++ id ++ " not found"
  | .connection message => "document store connection failed: " ++ message
  | e => "document store query failed: " ++ e.queryText

end StoreError

end Rulebook
