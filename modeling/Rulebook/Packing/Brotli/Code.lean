import Rulebook.Packing.PrefixCode

/-!
# Codes of symbols

The codes of symbols are data too. The symbols of a code of up to four symbols stand there
themselves. Otherwise the lengths of all codes stand there as symbols of a code whose lengths stand
there first; they are over as soon as the codes leave no bits without a symbol.
-/

namespace Rulebook.Packing.Brotli

/-- How many bits a number has. -/
def width (n : Nat) : Nat :=
  if n = 0 then 0 else n.log2 + 1

/-- An alphabet: how many symbols there is room for, and how many of them may occur. -/
structure Alphabet where
  room : Nat
  count : Nat

/-- The alphabet whose symbols may all occur. -/
def Alphabet.all (count : Nat) : Alphabet :=
  ⟨count, count⟩

/-- A symbol that stands there itself. -/
def symbolOf (a : Alphabet) : Unpack Nat := do
  let n ← Unpack.number (width (a.room - 1))
  if a.count ≤ n then throw .wrong
  return n

/-- The lengths of the codes of a code of one to four symbols. -/
def fewLengths : Nat → Unpack (List Nat)
  | 1 => return [0]
  | 2 => return [1, 1]
  | 3 => return [1, 2, 2]
  | _ => return if ← Unpack.bit then [1, 2, 3, 3] else [2, 2, 2, 2]

/-- A code of symbols that stand there themselves. -/
def fewSymbols (a : Alphabet) : Unpack PrefixCode := do
  let count := 1 + (← Unpack.number 2)
  let symbols ← (List.replicate count a).mapM symbolOf
  if ¬ symbols.Nodup then throw .wrong
  return .ofPairs ((← fewLengths count).zip symbols)

/-- The order in which the lengths of the code of lengths stand. -/
def lengthOrder : List Nat :=
  [1, 2, 3, 4, 0, 5, 17, 6, 16, 7, 8, 9, 10, 11, 12, 13, 14, 15]

/-- The code of the lengths of the code of lengths. -/
def lengthCode : PrefixCode :=
  .node (.node (.symbol 0) (.symbol 3))
    (.node (.symbol 4) (.node (.symbol 2) (.node (.symbol 1) (.symbol 5))))

/-- The code of lengths, its symbols in some order, with those it already has and how many parts of
32 are left. A single symbol has no bits. -/
def codeOfLengths : List Nat → Nat → List (Nat × Nat) → Unpack PrefixCode
  | [], _, [(_, n)] => return .symbol n
  | [], _, _ => throw .wrong
  | symbol :: order, left, met => do
    let length ← lengthCode.read
    if length = 0 then codeOfLengths order left met
    else
      let part := 32 / Nat.pow 2 length
      if left < part then throw .wrong
      else if left = part then return .ofPairs ((length, symbol) :: met)
      else codeOfLengths order (left - part) ((length, symbol) :: met)

/-- The lengths that are known, the last one first, how many there are, and the last one that is not
zero. The lengths before may be a run of one that is repeated. -/
structure Lengths where
  met : List Nat
  count : Nat
  last : Nat
  repeated : Nat
  run : Nat

namespace Lengths

/-- No lengths; the last one counts as eight. -/
def none : Lengths :=
  ⟨[], 0, 8, 0, 0⟩

/-- One more length. -/
def push (s : Lengths) (length : Nat) : Lengths :=
  ⟨length :: s.met, s.count + 1, if length = 0 then s.last else length, s.repeated, 0⟩

/-- More of one length. A run that goes on is as long as a number in the base of `2 ^ bits` says
whose digits are three above those that stand there. -/
def pushRun (s : Lengths) (length bits more : Nat) : Lengths :=
  let before := if length = s.repeated then s.run else 0
  let run := (before - 2) * Nat.pow 2 bits + more + 3
  let count := run - before
  ⟨List.replicate count length ++ s.met, s.count + count, s.last, length, run⟩

/-- How much of all bit sequences the codes start, in parts of `2 ^ 15`. -/
def share (s : Lengths) : Nat :=
  PrefixCode.share s.met

/-- The next lengths. -/
def next (code : PrefixCode) (s : Lengths) : Unpack Lengths := do
  match ← code.read with
  | 16 => return s.pushRun s.last 2 (← Unpack.number 2)
  | 17 => return s.pushRun 0 3 (← Unpack.number 3)
  | length => return s.push length

/-- All lengths of an alphabet. The first number bounds the steps. -/
def all (code : PrefixCode) (count : Nat) : Nat → Lengths → Unpack Lengths
  | 0, _ => throw .wrong
  | fuel + 1, s => do
    if s.share = 0x8000 then return s
    else if count ≤ s.count then throw .wrong
    else
      let s ← s.next code
      if count < s.count then throw .wrong
      all code count fuel s

end Lengths

/-- The next code of an alphabet. -/
def codeOf (a : Alphabet) : Unpack PrefixCode := do
  match ← Unpack.number 2 with
  | 1 => fewSymbols a
  | skipped =>
    let lengths ← codeOfLengths (lengthOrder.drop skipped) 32 []
    let s ← Lengths.all lengths a.count (a.count + 1) .none
    return .ofLengths s.met.reverse

end Rulebook.Packing.Brotli
