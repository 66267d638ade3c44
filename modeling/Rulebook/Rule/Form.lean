import Rulebook.Rule.Draft

/-!
# The rule form

A rule form is a list of name and value pairs. Conditions come as fields named by an index and one
of three field names in square brackets. The last value of a field counts, indices are numbers, so
differently written ones may be the same, and conditions stand in the order of their indices. A
name that begins like a condition field but is none makes the whole form invalid.
-/

namespace Rulebook

/-- Why a rule form is refused. -/
inductive FormFault where
  | malformedCondition (key : String)
  | draft (fault : DraftFault)
deriving DecidableEq, Repr

/-- What is said about a refused form. -/
def FormFault.message : FormFault → String
  | .malformedCondition key => "malformed condition field '" ++ key ++ "'"
  | .draft fault => fault.message

namespace RuleForm

/-- The part of a condition a field sets. -/
inductive Part where
  | propertyName
  | predicate
  | value
deriving DecidableEq, Repr

/-- The name of a part. -/
def Part.name : Part → String
  | .propertyName => "propertyName"
  | .predicate => "predicate"
  | .value => "value"

/-- The part of a name. -/
def Part.of? (cs : List Char) : Option Part :=
  [Part.propertyName, .predicate, .value].find? fun p => p.name.toList = cs

/-- The rest of `cs` after a given start. -/
def after? : List Char → List Char → Option (List Char)
  | [], cs => some cs
  | _ :: _, [] => none
  | p :: ps, c :: cs => if p = c then after? ps cs else none

/-- The greatest index plus one. -/
def indexLimit : Nat :=
  0x10000000000000000

/-- An index: one or more digits after an optional plus sign, below the limit. -/
def index? (cs : List Char) : Option Nat :=
  let digits := (after? ['+'] cs).getD cs
  if digits ≠ [] ∧ digits.all Char.isDigit ∧ Json.Number.naturalOf digits < indexLimit then
    some (Json.Number.naturalOf digits)
  else none

/-- The two sides of the first `][`. -/
def splitBrackets? : List Char → Option (List Char × List Char)
  | [] => none
  | c :: rest =>
    match after? [']', '['] (c :: rest) with
    | some right => some ([], right)
    | none => (splitBrackets? rest).map fun (left, right) => (c :: left, right)

/-- The index and part a condition field names. -/
def field? (key : String) : Option (Nat × Part) := do
  let rest ← after? "conditions[".toList key.toList
  let (indexText, rest) ← splitBrackets? rest
  let name ← (after? [']'] rest.reverse).map List.reverse
  let index ← index? indexText
  let part ← Part.of? name
  return (index, part)

/-- Whether a name begins like a condition field. -/
def looksLikeCondition (key : String) : Bool :=
  (after? "conditions".toList key.toList).isSome

/-- A condition in the making, all texts. -/
structure Row where
  propertyName : String
  predicate : String
  value : String
deriving DecidableEq

/-- A row nobody has written to. -/
def Row.empty : Row :=
  ⟨"", "", ""⟩

/-- A row with one part replaced. -/
def Row.set (r : Row) (part : Part) (s : String) : Row :=
  match part with
  | .propertyName => { r with propertyName := s }
  | .predicate => { r with predicate := s }
  | .value => { r with value := s }

/-- The condition of a row; its value is a text. -/
def Row.condition (r : Row) : Condition :=
  ⟨r.propertyName, r.predicate, .text r.value⟩

/-- Rows in the order of their indices, with one part of one row replaced. -/
def setRow (index : Nat) (part : Part) (s : String) : List (Nat × Row) → List (Nat × Row)
  | [] => [(index, Row.empty.set part s)]
  | (i, r) :: rest =>
    if i = index then (i, r.set part s) :: rest
    else if index < i then (index, Row.empty.set part s) :: (i, r) :: rest
    else (i, r) :: setRow index part s rest

/-- What has been read of a form. -/
structure Content where
  name : String
  description : String
  message : String
  rows : List (Nat × Row)
deriving DecidableEq

/-- A form of which nothing has been read. -/
def Content.empty : Content :=
  ⟨"", "", "", []⟩

/-- One more pair. -/
def Content.add (c : Content) (key value : String) : Except FormFault Content :=
  if key = "name" then .ok { c with name := value }
  else if key = "description" then .ok { c with description := value }
  else if key = "message" then .ok { c with message := value }
  else if looksLikeCondition key then
    match field? key with
    | some (index, part) => .ok { c with rows := setRow index part value c.rows }
    | none => .error (.malformedCondition key)
  else .ok c

/-- The pairs read one after the other. -/
def Content.addAll (c : Content) : List (String × String) → Except FormFault Content
  | [] => .ok c
  | (key, value) :: rest =>
    match c.add key value with
    | .ok c => c.addAll rest
    | .error e => .error e

/-- The rule a form submits. -/
def draft (pairs : List (String × String)) : Except FormFault RuleDraft :=
  match Content.empty.addAll pairs with
  | .error e => .error e
  | .ok c =>
    match RuleDraft.of c.name c.description c.message (c.rows.map (·.2.condition)) with
    | .ok d => .ok d
    | .error e => .error (.draft e)

end RuleForm

end Rulebook
