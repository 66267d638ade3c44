import Rulebook.Packing.Bits

/-!
# Prefix codes

A prefix code gives bits to symbols so that no symbol's bits start with those of another. It is a
tree, and it can be given by the lengths of its codes alone: shorter codes come before longer ones,
and those of one length are in the order of their symbols.
-/

namespace Rulebook.Packing

/-- A prefix code: the symbols below a zero and below a one. -/
inductive PrefixCode where
  | empty
  | symbol (n : Nat)
  | node (zero one : PrefixCode)

namespace PrefixCode

/-- The code of the given bits for a symbol put into a tree. -/
def put (n : Nat) : List Bool → PrefixCode → PrefixCode
  | [], _ => .symbol n
  | b :: bits, tree =>
    let (zero, one) :=
      match tree with
      | .node zero one => (zero, one)
      | _ => (.empty, .empty)
    if b then .node zero (put n bits one) else .node (put n bits zero) one

/-- The lowest bits of a number, the highest of them first. -/
def highFirst (length n : Nat) : List Bool :=
  ((List.range length).map n.testBit).reverse

/-- Symbols with the lengths of their codes, in the order of the codes, put into a tree. The next
code and its length come first. -/
def assign (code length : Nat) (tree : PrefixCode) : List (Nat × Nat) → PrefixCode
  | [] => tree
  | (l, n) :: rest =>
    let code := code * Nat.pow 2 (l - length)
    assign (code + 1) l (put n (highFirst l code) tree) rest

/-- Whether a symbol comes before another one: by the lengths of their codes, then by themselves. -/
def isBefore (a b : Nat × Nat) : Bool :=
  a.1 < b.1 || (a.1 = b.1 && a.2 ≤ b.2)

/-- The prefix code of symbols, each after the length of its code. A single symbol may have no
bits. -/
def ofPairs (pairs : List (Nat × Nat)) : PrefixCode :=
  assign 0 0 .empty (pairs.mergeSort isBefore)

/-- The symbols that have a code, each after its length; zero is for none. -/
def pairsOf (lengths : List Nat) : List (Nat × Nat) :=
  lengths.zipIdx.filter (·.1 ≠ 0)

/-- The prefix code whose symbols have codes of the given lengths; zero is for none. -/
def ofLengths (lengths : List Nat) : PrefixCode :=
  ofPairs (pairsOf lengths)

/-- How much of all bit sequences the codes of some lengths start, in parts of `2 ^ 15`. -/
def share (lengths : List Nat) : Nat :=
  (lengths.map fun l => if l = 0 then 0 else Nat.pow 2 (15 - l)).foldl (· + ·) 0

/-- The next symbol. -/
def read : PrefixCode → Unpack Nat
  | .empty => throw .wrong
  | .symbol n => return n
  | .node zero one => do
    match ← Unpack.bit with
    | true => one.read
    | false => zero.read

end PrefixCode

end Rulebook.Packing
