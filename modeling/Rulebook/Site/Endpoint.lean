import Rulebook.Http.Target

/-!
# Endpoints

An endpoint is what a request asks for, with the ids its path names. A path matches segment by
segment; a parameter is one segment that is not empty. The word `search` and the word `new` are
taken before an id of that name.
-/

namespace Rulebook

/-- What a request asks for. -/
inductive Endpoint where
  | ready
  | live
  | loginStart
  | loginCallback
  | logout
  | home
  | projectSearch
  | projects
  | project (id : String)
  | rulesets
  | rulesetNew
  | rulesetEdit (id : String)
  | rulesetCreate
  | rulesetUpdate (id : String)
  | rulesetDelete (id : String)
  | ruleNew (rulesetId : String)
  | ruleEdit (rulesetId ruleId : String)
  | ruleCreate (rulesetId : String)
  | ruleUpdate (rulesetId ruleId : String)
  | ruleDelete (rulesetId ruleId : String)
  | ruleReorder (rulesetId ruleId : String)
  | export (hash : String)
deriving DecidableEq, Repr

namespace Endpoint

/-- An endpoint with a parameter taken from a segment. -/
def with1 (make : String → Endpoint) (segment : String) : Option Endpoint :=
  if segment = "" then none else some (make (Http.parameter segment))

/-- An endpoint with parameters taken from two segments. -/
def with2 (make : String → String → Endpoint) (first second : String) : Option Endpoint :=
  if first = "" ∨ second = "" then none
  else some (make (Http.parameter first) (Http.parameter second))

/-- What a `GET` of the segments of a path asks for. -/
def ofGet : List String → Option Endpoint
  | ["health", "ready"] => some .ready
  | ["health", "live"] => some .live
  | ["auth", "init"] => some .loginStart
  | ["auth", "callback"] => some .loginCallback
  | ["logout"] => some .logout
  | [""] => some .home
  | ["projects", "search"] => some .projectSearch
  | ["projects"] => some .projects
  | ["projects", id] => with1 .project id
  | ["rulesets"] => some .rulesets
  | ["rulesets", "new"] => some .rulesetNew
  | ["rulesets", id, "edit"] => with1 .rulesetEdit id
  | ["rulesets", id, "rules", "new"] => with1 .ruleNew id
  | ["rulesets", id, "rules", rule, "edit"] => with2 .ruleEdit id rule
  | ["r", hash, "tsv"] => with1 .export hash
  | _ => none

/-- What a `POST` to the segments of a path asks for. -/
def ofPost : List String → Option Endpoint
  | ["rulesets"] => some .rulesetCreate
  | ["rulesets", id] => with1 .rulesetUpdate id
  | ["rulesets", id, "rules"] => with1 .ruleCreate id
  | ["rulesets", id, "rules", rule] => with2 .ruleUpdate id rule
  | ["api", "rulesets", id, "rules", rule, "reorder"] => with2 .ruleReorder id rule
  | _ => none

/-- What a `DELETE` of the segments of a path asks for. -/
def ofDelete : List String → Option Endpoint
  | ["api", "rulesets", id] => with1 .rulesetDelete id
  | ["api", "rulesets", id, "rules", rule] => with2 .ruleDelete id rule
  | _ => none

/-- What a request with a method and a path asks for, if there is such a thing. -/
def find? (method : String) (path : List Char) : Option Endpoint :=
  match Http.segments path with
  | "" :: segments =>
    if method = "GET" then ofGet segments
    else if method = "POST" then ofPost segments
    else if method = "DELETE" then ofDelete segments
    else none
  | _ => none

end Endpoint

end Rulebook
