import Rulebook.Rule.Condition
import Rulebook.User

/-!
# Rules

A rule is a named check: conditions, a message for elements that fail it, and a rank that orders it
among the rules of its ruleset. Ranks are integers of 64 bits; rules kept by older releases may have
none, and then rank zero.
-/

namespace Rulebook

open Json (Decode Raw Record)

/-- The integers of 64 bits. -/
def Rank.InRange (n : Int) : Prop :=
  -0x8000000000000000 ≤ n ∧ n ≤ 0x7fffffffffffffff

instance (n : Int) : Decidable (Rank.InRange n) := by
  unfold Rank.InRange; infer_instance

/-- The place of a rule among the rules of its ruleset. -/
structure Rank where
  value : Int
  inRange : Rank.InRange value
deriving DecidableEq

namespace Rank

/-- The nearest rank to an integer. -/
def clamp (n : Int) : Rank :=
  ⟨max (-0x8000000000000000) (min n 0x7fffffffffffffff), by unfold InRange; omega⟩

/-- The rank of rules that have none. -/
def zero : Rank :=
  clamp 0

/-- The next rank; the greatest one is its own successor. -/
def next (r : Rank) : Rank :=
  clamp (r.value + 1)

/-- A rank as a value. -/
def toJson (r : Rank) : Json :=
  .number (.int r.value (by
    have h := r.inRange
    unfold InRange at h
    unfold Json.IntRange
    omega))

/-- A rank read from a tree. -/
def read : Raw → Decode Rank
  | .number (some (.int n _)) => if h : InRange n then .ok ⟨n, h⟩ else .error .shape
  | _ => .error .shape

end Rank

/-- A rule of a ruleset, with times of some type. -/
@[ext]
structure RuleOf (τ : Type) where
  id : String
  name : String
  description : String
  conditions : List Condition
  message : String
  order : Rank
  createdAt : τ
  updatedAt : τ
deriving DecidableEq

namespace RuleOf

variable {τ : Type}

/-- A rule as a value. -/
def write (writeTime : τ → Json) (r : RuleOf τ) : Json :=
  .object [("conditions", .array (r.conditions.map Condition.toJson)),
    ("createdAt", writeTime r.createdAt), ("description", .string r.description),
    ("id", .string r.id), ("message", .string r.message), ("name", .string r.name),
    ("order", r.order.toJson), ("updatedAt", writeTime r.updatedAt)]

/-- The fields of a rule in their declared order. -/
def fieldNames : List String :=
  ["id", "name", "description", "conditions", "message", "order", "createdAt", "updatedAt"]

/-- A rule read from a tree; only the name and the two times have to be there. -/
def readWith (readTime : Raw → Decode τ) : Raw → Decode (RuleOf τ) :=
  Record.read fieldNames fun r =>
    RuleOf.mk <$> r.orElse "id" "" Raw.text <*> r.required "name" Raw.text
      <*> r.orElse "description" "" Raw.text
      <*> r.orElse "conditions" [] (Raw.list Condition.read)
      <*> r.orElse "message" "" Raw.text <*> r.orElse "order" Rank.zero Rank.read
      <*> r.required "createdAt" readTime <*> r.required "updatedAt" readTime

end RuleOf

/-- A rule of a ruleset. -/
abbrev Rule := RuleOf Time.Timestamp

namespace Rule

/-- A rule as a value. -/
def toJson (r : Rule) : Json :=
  r.write Time.Timestamp.toJson

/-- A rule read from a tree. -/
def read : Raw → Decode Rule :=
  RuleOf.readWith Time.Timestamp.read

/-- Rank first, then id. -/
def before (r s : Rule) : Bool :=
  r.order.value < s.order.value || (r.order.value == s.order.value && !decide (s.id < r.id))

/-- Rules in the order of their ranks, ties broken by id. -/
def sort (rules : List Rule) : List Rule :=
  rules.mergeSort before

end Rule

/-- Which way a rule is moved. -/
inductive Direction where
  | up
  | down
deriving DecidableEq, Repr

namespace Direction

/-- The name of a direction. -/
def name : Direction → String
  | .up => "up"
  | .down => "down"

/-- The other direction. -/
def opposite : Direction → Direction
  | .up => .down
  | .down => .up

/-- A direction as a value. -/
def toJson (d : Direction) : Json :=
  .string d.name

/-- A direction read from a tree. -/
def read : Raw → Decode Direction :=
  Raw.choice [("up", .up), ("down", .down)]

/-- The direction a text names, in either case of the ASCII letters. -/
def parse? (s : String) : Option Direction :=
  let cs := s.toList.map Char.toLower
  if cs = "up".toList then some .up else if cs = "down".toList then some .down else none

/-- What is said about a text that names no direction. -/
def unknownMessage (s : String) : String :=
  "invalid reorder direction '" ++ s ++ "'; expected up|down"

end Direction

end Rulebook
