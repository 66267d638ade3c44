import Rulebook.Json.Number

/-!
# Network addresses

An address is four bytes or eight groups of 16 bits. Four bytes are written as decimal numbers
with points between them. Groups are written in hexadecimal with colons between them; one run of
zero groups may be left out, and the last two groups may be written as four bytes.
-/

namespace Rulebook

/-- An address of a network interface. -/
inductive IpAddress where
  | v4 (a b c d : UInt8)
  | v6 (groups : List UInt16) (eight : groups.length = 8)
deriving DecidableEq, Repr

namespace IpAddress

/-- The address that stands for every interface. -/
def anyInterface : IpAddress :=
  .v4 0 0 0 0

/-! ## Reading -/

/-- A decimal number up to 255 without leading zeros. -/
def byte? (cs : List Char) : Option Nat :=
  let n := Json.Number.naturalOf cs
  if cs ≠ [] ∧ cs.all Char.isDigit ∧ cs.length ≤ 3 ∧ (cs.head? = some '0' → cs.length = 1) ∧ n ≤ 255
  then some n else none

/-- Four bytes with points between them. -/
def bytes? (cs : List Char) : Option (List Nat) :=
  (cs.splitOn '.').mapM byte? |>.filter fun bytes => bytes.length = 4

/-- The value of a hexadecimal digit. -/
def hexDigit? (c : Char) : Option Nat :=
  if c.isDigit then some (c.toNat - '0'.toNat)
  else if c.toLower ∈ ['a', 'b', 'c', 'd', 'e', 'f'] then some (c.toLower.toNat - 'a'.toNat + 10)
  else none

/-- A group of one to four hexadecimal digits. -/
def group? (cs : List Char) : Option Nat :=
  if 1 ≤ cs.length ∧ cs.length ≤ 4 then
    (cs.mapM hexDigit?).map fun digits => digits.foldl (fun n d => n * 16 + d) 0
  else none

/-- Groups, the last of which may be four bytes. -/
def groupsWithTail? : List (List Char) → Option (List Nat)
  | [] => some []
  | [last] =>
    match bytes? last with
    | some bytes =>
      some [bytes.getD 0 0 * 256 + bytes.getD 1 0, bytes.getD 2 0 * 256 + bytes.getD 3 0]
    | none => (group? last).map ([·])
  | part :: rest => do
    let group ← group? part
    let groups ← groupsWithTail? rest
    return group :: groups

/-- The parts between colons; an empty text has none. -/
def parts (cs : List Char) : List (List Char) :=
  if cs.isEmpty then [] else cs.splitOn ':'

/-- The two sides of the first double colon. -/
def aroundGap? : List Char → Option (List Char × List Char)
  | ':' :: ':' :: rest => some ([], rest)
  | c :: rest => (aroundGap? rest).map fun (before, after) => (c :: before, after)
  | [] => none

/-- Eight groups; a double colon stands for the zeros that are missing, one at least. -/
def groups? (cs : List Char) : Option (List Nat) :=
  match aroundGap? cs with
  | none => (groupsWithTail? (parts cs)).filter fun groups => groups.length = 8
  | some (before, after) => do
    let head ← (parts before).mapM group?
    let tail ← groupsWithTail? (parts after)
    let gap := 8 - (head.length + tail.length)
    if gap = 0 then none else some (head ++ List.replicate gap 0 ++ tail)

/-- The address a text is. -/
def read? (s : String) : Option IpAddress :=
  match bytes? s.toList with
  | some [a, b, c, d] => some (.v4 a.toUInt8 b.toUInt8 c.toUInt8 d.toUInt8)
  | _ =>
    match groups? s.toList with
    | some groups =>
      let groups := groups.map Nat.toUInt16
      if h : groups.length = 8 then some (.v6 groups h) else none
    | none => none

/-! ## Writing -/

/-- Four bytes with points between them. -/
def renderBytes (bytes : List Nat) : String :=
  ".".intercalate (bytes.map toString)

/-- Groups in hexadecimal with colons between them. -/
def renderGroups (groups : List Nat) : String :=
  ":".intercalate (groups.map fun group => String.ofList (Nat.toDigits 16 group))

/-- The number of zeros a list starts with. -/
def zerosAhead (groups : List Nat) : Nat :=
  (groups.takeWhile (· = 0)).length

/-- The start and length of the longest run of zeros, the first of several. -/
def longestGap (groups : List Nat) : Nat × Nat :=
  (List.range groups.length).foldl
    (fun best start =>
      let run := zerosAhead (groups.drop start)
      if best.2 < run then (start, run) else best)
    (0, 0)

/-- Eight groups, with the longest run of two or more zeros left out. -/
def renderV6 (groups : List Nat) : String :=
  if groups.take 6 = [0, 0, 0, 0, 0, 0xffff] then
    "::ffff:" ++ renderBytes ((groups.drop 6).flatMap fun group => [group / 256, group % 256])
  else
    let (start, run) := longestGap groups
    if 1 < run then
      renderGroups (groups.take start) ++ "::" ++ renderGroups (groups.drop (start + run))
    else renderGroups groups

/-- An address with the number of a socket. -/
def renderWithSocket (address : IpAddress) (socket : Nat) : String :=
  match address with
  | .v4 a b c d => renderBytes [a.toNat, b.toNat, c.toNat, d.toNat] ++ ":" ++ toString socket
  | .v6 groups _ => "[" ++ renderV6 (groups.map UInt16.toNat) ++ "]:" ++ toString socket

end IpAddress

end Rulebook
