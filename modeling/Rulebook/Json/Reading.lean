import Rulebook.Json.Parser

/-!
# Reading records

How a tree becomes a value of a record type. A record is written as an object of its fields, or as a
list of them in their declared order. Members nobody declared are passed over; a declared member may
stand once. Each field says what becomes of it when it is missing. Of several faults the one that
stands first in the tree is reported, a missing field after all others; so a fault that stands
before the place where a text is no longer JSON is reported rather than that.
-/

namespace Rulebook.Json

/-- Why a tree is not the value it should be: it has the wrong shape, or a rule of its type is
broken. -/
inductive DecodeError where
  | shape
  | emptyUserId
  | paddedUserId
  | blankMessage
deriving DecidableEq, Repr

/-- The outcome of reading a whole tree. -/
abbrev Decode (α : Type) := Except DecodeError α

/-- A fault with its place among the members or items of a record. -/
structure Fault where
  position : Nat
  cause : DecodeError

/-- The outcome of reading some fields of a record. -/
def Reading (α : Type) := Except Fault α

namespace Reading

/-- Both readings; of two faults the earlier one. -/
def seq {α β : Type} (f : Reading (α → β)) (x : Reading α) : Reading β :=
  match f, x with
  | .ok f, .ok x => .ok (f x)
  | .error a, .ok _ => .error a
  | .ok _, .error b => .error b
  | .error a, .error b => .error (if b.position < a.position then b else a)

instance : Applicative Reading where
  pure x := .ok x
  seq f x := Reading.seq f (x ())

/-- The outcome without the place of the fault. -/
def outcome {α : Type} : Reading α → Decode α
  | .ok x => .ok x
  | .error f => .error f.cause

end Reading

/-- A record laid open: its declared fields with their places, the number of its members, whether
it was written as an object, and a fault of its own. -/
structure Record where
  fields : List (String × Nat × Raw)
  size : Nat
  named : Bool
  flaw : Option Fault

namespace Record

/-- The declared members from a place on, given those already met. -/
def scan (names : List String) (position : Nat) (met : List (String × Nat × Raw)) :
    List (Option String × Raw) → List (String × Nat × Raw) × Option Fault
  | [] => (met, none)
  | (none, _) :: _ => (met, some ⟨position, .shape⟩)
  | (some key, x) :: rest =>
    if key ∈ names then
      if met.any (·.1 == key) then (met, some ⟨position, .shape⟩)
      else scan names (position + 1) ((key, position, x) :: met) rest
    else scan names (position + 1) met rest

/-- The items of a list under the declared names in turn. -/
def assign (position : Nat) : List String → List Raw → List (String × Nat × Raw) × Option Fault
  | _, [] => ([], none)
  | [], _ :: _ => ([], some ⟨position, .shape⟩)
  | name :: names, x :: xs =>
    let (fields, flaw) := assign (position + 1) names xs
    ((name, position, x) :: fields, flaw)

/-- A tree laid open as a record with the given fields. -/
def «open» (names : List String) : Raw → Decode Record
  | .object members =>
    let (fields, flaw) := scan names 0 [] members
    .ok ⟨fields, members.length, true, flaw⟩
  | .array items =>
    let (fields, flaw) := assign 0 names items
    .ok ⟨fields, items.length, false, flaw⟩
  | _ => .error .shape

/-- The field of a name with its place. -/
def find? (r : Record) (name : String) : Option (Nat × Raw) :=
  (r.fields.find? (·.1 == name)).map (·.2)

/-- A field that is there, read by `read`. -/
def readAt {α : Type} (read : Raw → Decode α) (field : Nat × Raw) : Reading α :=
  match read field.2 with
  | .ok x => .ok x
  | .error e => .error ⟨field.1, e⟩

/-- The fault of a missing field. -/
def missing (r : Record) : Fault :=
  ⟨r.size, .shape⟩

/-- A field that has to be there. -/
def required {α : Type} (r : Record) (name : String) (read : Raw → Decode α) : Reading α :=
  match r.find? name with
  | some field => readAt read field
  | none => .error r.missing

/-- A field that has a value of its own when it is missing. -/
def orElse {α : Type} (r : Record) (name : String) (absent : α) (read : Raw → Decode α) :
    Reading α :=
  match r.find? name with
  | some field => readAt read field
  | none => .ok absent

/-- A field that an object may leave out and a list may not. -/
def nullable {α : Type} (r : Record) (name : String) (read : Raw → Decode (Option α)) :
    Reading (Option α) :=
  match r.find? name with
  | some field => readAt read field
  | none => if r.named then .ok none else .error r.missing

/-- The fault of the record itself, if it has one. -/
def sound (r : Record) : Reading Unit :=
  match r.flaw with
  | some f => .error f
  | none => .ok ()

/-- A record read field by field. -/
def read {α : Type} (names : List String) (build : Record → Reading α) (tree : Raw) : Decode α :=
  match «open» names tree with
  | .error e => .error e
  | .ok r => ((fun x _ => x) <$> build r <*> r.sound).outcome

end Record

namespace Raw

/-- A text. -/
def text : Raw → Decode String
  | .string (some s) => .ok s
  | _ => .error .shape

/-- A truth value. -/
def truth : Raw → Decode Bool
  | .bool b => .ok b
  | _ => .error .shape

/-- An integer between two bounds; a double is none, whatever its value. -/
def integer (least greatest : Int) : Raw → Decode Int
  | .number (some (.int n _)) => if least ≤ n ∧ n ≤ greatest then .ok n else .error .shape
  | _ => .error .shape

/-- A signed integer of 64 bits. -/
def int64 : Raw → Decode Int :=
  integer (-0x8000000000000000) 0x7fffffffffffffff

/-- An unsigned integer of 64 bits. -/
def nat64 (tree : Raw) : Decode Nat :=
  (integer 0 0xffffffffffffffff tree).map Int.toNat

/-- Null, or what `read` reads. -/
def optional {α : Type} (read : Raw → Decode α) : Raw → Decode (Option α)
  | .null => .ok none
  | tree => (read tree).map some

/-- Every tree of a list, the first fault first. -/
def each {α : Type} (read : Raw → Decode α) : List Raw → Decode (List α)
  | [] => .ok []
  | x :: xs =>
    match read x with
    | .error e => .error e
    | .ok v => (each read xs).map (v :: ·)

/-- A list of values. -/
def list {α : Type} (read : Raw → Decode α) : Raw → Decode (List α)
  | .array items => each read items
  | _ => .error .shape

/-- Any value. -/
def any (tree : Raw) : Decode Json :=
  match tree.value? with
  | some v => .ok v
  | none => .error .shape

/-- One of a list of names, written as a text, or as an object that binds it to null. -/
def choice {α : Type} (names : List (String × α)) : Raw → Decode α
  | .string (some s) => pick s
  | .object [(some s, .null)] => pick s
  | _ => .error .shape
where
  pick (s : String) : Decode α :=
    match names.lookup s with
    | some x => .ok x
    | none => .error .shape

end Raw

/-- A text read by `read`. -/
def decodeText {α : Type} (read : Raw → Decode α) (s : String) : Decode α :=
  let (tree, isWhole) := Raw.scan s
  match read tree with
  | .error e => .error e
  | .ok x => if isWhole then .ok x else .error .shape

/-- A value of a document read by `read`. -/
def decodeWith {α : Type} (read : Raw → Decode α) (v : Json) : Decode α :=
  read v.raw

end Rulebook.Json
