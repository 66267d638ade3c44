import Rulebook.Json.Reading
import Rulebook.Text.Blank

/-!
# Conditions

A condition compares a property of a building element with a value by some predicate. Conditions are
kept as they were written and never evaluated here. The value keeps its JSON kind; its display form
is what exports and forms show.
-/

namespace Rulebook

open Json (Decode Raw Record)

/-- The value a condition compares with. -/
inductive ConditionValue where
  | null
  | bool (value : Bool)
  | number (value : Json.Number)
  | text (value : String)
deriving DecidableEq

namespace ConditionValue

/-- What is shown of a value; null shows nothing. -/
def display : ConditionValue → String
  | .null => ""
  | .bool true => "true"
  | .bool false => "false"
  | .number n => String.ofList n.render
  | .text s => s

/-- A value as JSON. -/
def toJson : ConditionValue → Json
  | .null => .null
  | .bool b => .bool b
  | .number n => .number n
  | .text s => .string s

/-- A value read from a tree; a list or an object is none. -/
def read : Raw → Decode ConditionValue
  | .null => .ok .null
  | .bool b => .ok (.bool b)
  | .number (some n) => .ok (.number n)
  | .string (some s) => .ok (.text s)
  | _ => .error .shape

end ConditionValue

/-- A condition of a rule. -/
structure Condition where
  propertyName : String
  predicate : String
  value : ConditionValue
deriving DecidableEq

namespace Condition

/-- A condition as a value. -/
def toJson (c : Condition) : Json :=
  .object [("predicate", .string c.predicate), ("propertyName", .string c.propertyName),
    ("value", c.value.toJson)]

/-- A condition read from a tree; every field may be missing. -/
def read : Raw → Decode Condition :=
  Record.read ["propertyName", "predicate", "value"] fun r =>
    Condition.mk <$> r.orElse "propertyName" "" Raw.text <*> r.orElse "predicate" "" Raw.text
      <*> r.orElse "value" .null ConditionValue.read

/-- Whether a condition names a property. -/
def namesProperty (c : Condition) : Bool :=
  !Text.saysNothing c.propertyName

/-- The conditions that name a property. -/
def clean (cs : List Condition) : List Condition :=
  cs.filter namesProperty

end Condition

end Rulebook
