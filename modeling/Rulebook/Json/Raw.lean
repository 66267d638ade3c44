import Rulebook.Json.Basic

/-!
# Values as written

A `Raw` tree is a text after its grammar has been checked and before its values are read. It still
holds what a value cannot: members in their written order with repeated names, and places that have
no value, namely a number too great for a double, a text with half a surrogate pair, and a list or
object nested too deep. Such a place is a fault only for the reader that needs it, so members nobody
asks for are never looked into. Where the grammar of the text is broken, the tree ends, and what
stands around that place ends with a mark.
-/

namespace Rulebook.Json

/-- A tree as written; `none` marks what has no value, and `broken` where the text broke off. -/
inductive Raw where
  | null
  | bool (value : Bool)
  | number (value : Option Number)
  | string (value : Option String)
  | array (items : List Raw)
  | object (members : List (Option String × Raw))
  | tooDeep
  | broken

namespace Raw

mutual

/-- The value a tree stands for: of repeated names the last one counts. -/
def value? : Raw → Option Json
  | .null => some .null
  | .bool b => some (.bool b)
  | .number n => n.map .number
  | .string s => s.map .string
  | .array items => (values? items).map .array
  | .object members => (memberValues? members).map Json.ofMembers
  | .tooDeep => none
  | .broken => none

/-- The values of a list of trees. -/
def values? : List Raw → Option (List Json)
  | [] => some []
  | x :: xs =>
    match value? x, values? xs with
    | some v, some vs => some (v :: vs)
    | _, _ => none

/-- The values of members, in their written order. -/
def memberValues? : List (Option String × Raw) → Option (List (String × Json))
  | [] => some []
  | (k, x) :: xs =>
    match k, value? x, memberValues? xs with
    | some k, some v, some vs => some ((k, v) :: vs)
    | _, _, _ => none

end

end Raw

mutual

/-- A value seen as a tree. -/
def raw : Json → Raw
  | .null => .null
  | .bool b => .bool b
  | .number n => .number (some n)
  | .string s => .string (some s)
  | .array items => .array (rawItems items)
  | .object members => .object (rawMembers members)

/-- Items seen as trees. -/
def rawItems : List Json → List Raw
  | [] => []
  | x :: xs => raw x :: rawItems xs

/-- Members seen as trees. -/
def rawMembers : List (String × Json) → List (Option String × Raw)
  | [] => []
  | (k, x) :: xs => (some k, raw x) :: rawMembers xs

end

end Rulebook.Json
