import Rulebook.Json.Number

/-!
# JSON values

The value of a document. The members of an object stand in the order of their names and each name
stands once: `insertMember` keeps that order, and every encoder of this library writes its members
in it, so equal objects are equal lists.
-/

namespace Rulebook

/-- A JSON value. -/
inductive Json where
  | null
  | bool (value : Bool)
  | number (value : Json.Number)
  | string (value : String)
  | array (items : List Json)
  | object (members : List (String × Json))

namespace Json

instance : Inhabited Json := ⟨.null⟩

mutual

/-- Equality of values, numbers compared as numbers. -/
def same : Json → Json → Bool
  | .null, .null => true
  | .bool a, .bool b => a == b
  | .number a, .number b => a.same b
  | .string a, .string b => a == b
  | .array xs, .array ys => sameItems xs ys
  | .object xs, .object ys => sameMembers xs ys
  | _, _ => false

/-- Equality of lists, item by item. -/
def sameItems : List Json → List Json → Bool
  | [], [] => true
  | x :: xs, y :: ys => same x y && sameItems xs ys
  | _, _ => false

/-- Equality of members, name by name. -/
def sameMembers : List (String × Json) → List (String × Json) → Bool
  | [], [] => true
  | (k, x) :: xs, (l, y) :: ys => k == l && same x y && sameMembers xs ys
  | _, _ => false

end

/-- A natural below `2 ^ 64` as a value. -/
def ofNat (n : Nat) : Json :=
  .number (.ofNat n)

/-- A text, or null where there is none. -/
def ofText? : Option String → Json
  | none => .null
  | some s => .string s

/-- The member named `key`. -/
def memberOf (key : String) : List (String × Json) → Option Json
  | [] => none
  | (k, v) :: rest => if k = key then some v else memberOf key rest

/-- The member of an object named `key`; other values have no members. -/
def get? (v : Json) (key : String) : Option Json :=
  match v with
  | .object members => memberOf key members
  | _ => none

/-- The members with `key` bound to `value`, in the order of the names. -/
def insertMember (key : String) (value : Json) : List (String × Json) → List (String × Json)
  | [] => [(key, value)]
  | (k, v) :: rest =>
    if k = key then (key, value) :: rest
    else if key < k then (key, value) :: (k, v) :: rest
    else (k, v) :: insertMember key value rest

/-- An object of the given members, the last of equal names. -/
def ofMembers (members : List (String × Json)) : Json :=
  .object (members.foldl (fun acc m => insertMember m.1 m.2 acc) [])

/-- Looking up the name just bound finds its value. -/
theorem memberOf_insertMember (key : String) (value : Json) (ms : List (String × Json)) :
    memberOf key (insertMember key value ms) = some value := by
  induction ms with
  | nil => simp [insertMember, memberOf]
  | cons m ms ih =>
    obtain ⟨k, v⟩ := m
    by_cases h : k = key
    · simp [insertMember, memberOf, h]
    · by_cases h' : key < k
      · simp [insertMember, memberOf, h, h']
      · simp [insertMember, memberOf, h, h', ih]

end Json

end Rulebook
