import Rulebook.Packing.Brotli.Code

/-!
# Blocks of symbols

The symbols of one kind are divided into blocks, and each block has a type. Which code a symbol has
depends on the type of its block, and for some kinds on a context too: a map has the number of the
code for each type and context.
-/

namespace Rulebook.Packing.Brotli

/-- The least value of a symbol and the number of bits that are added to it. -/
abbrev Span := Nat × Nat

/-- The value of a symbol. -/
def valueOf (spans : List Span) (symbol : Nat) : Unpack Nat :=
  match spans[symbol]? with
  | some (least, extra) => return least + (← Unpack.number extra)
  | none => throw .wrong

/-- The lengths of blocks. -/
def blockLengths : List Span :=
  [(1, 2), (5, 2), (9, 2), (13, 2), (17, 3), (25, 3), (33, 3), (41, 3), (49, 4), (65, 4), (81, 4),
    (97, 4), (113, 5), (145, 5), (177, 5), (209, 5), (241, 6), (305, 6), (369, 7), (497, 8),
    (753, 9), (1265, 10), (2289, 11), (4337, 12), (8433, 13), (16625, 24)]

/-- A number from 0 to 255. -/
def smallNumber : Unpack Nat := do
  if ← Unpack.bit then
    let extra ← Unpack.number 3
    return Nat.pow 2 extra + (← Unpack.number extra)
  else return 0

/-- The blocks of one kind of symbols: how many types there are, the codes of types and lengths, the
type of the block at hand and of the one before it, and how many symbols of the block are left. -/
structure Blocks where
  types : Nat
  typeCode : PrefixCode
  lengthCode : PrefixCode
  current : Nat
  before : Nat
  left : Nat

namespace Blocks

/-- The blocks of a kind, as they are announced. If there is only one type, there is only one
block. -/
def ahead : Unpack Blocks := do
  let types := 1 + (← smallNumber)
  if types = 1 then return ⟨1, .empty, .empty, 0, 1, 0⟩
  else
    let typeCode ← codeOf (.all (types + 2))
    let lengthCode ← codeOf (.all 26)
    return ⟨types, typeCode, lengthCode, 0, 1, ← valueOf blockLengths (← lengthCode.read)⟩

/-- The next type, from a symbol: that before, the one after the current one, or any. -/
def typeOf (b : Blocks) (symbol : Nat) : Nat :=
  let type :=
    match symbol with
    | 0 => b.before
    | 1 => b.current + 1
    | n + 2 => n
  if b.types ≤ type then type - b.types else type

/-- The blocks as they are for the next symbol. -/
def next (b : Blocks) : Unpack Blocks := do
  if b.types = 1 then return b
  else if b.left ≠ 0 then return { b with left := b.left - 1 }
  else
    let type := b.typeOf (← b.typeCode.read)
    let length ← valueOf blockLengths (← b.lengthCode.read)
    return { b with current := type, before := b.current, left := length - 1 }

end Blocks

/-- The entries of a map of some size, the last one first are those that are there. Symbols up to
the number of run symbols are runs of zeros. The first number bounds the steps. -/
def mapEntries (code : PrefixCode) (runs size : Nat) : Nat → List Nat → Unpack (List Nat)
  | 0, _ => throw .wrong
  | fuel + 1, met => do
    if met.length = size then return met.reverse
    else if size < met.length then throw .wrong
    else
      let n ← code.read
      if n = 0 then mapEntries code runs size fuel (0 :: met)
      else if runs < n then mapEntries code runs size fuel ((n - runs) :: met)
      else
        let count := Nat.pow 2 n + (← Unpack.number n)
        mapEntries code runs size fuel (List.replicate count 0 ++ met)

/-- Entries given by their places in a list from which each is moved to its head. -/
def moveToFront : List Nat → List Nat → List Nat
  | _, [] => []
  | order, place :: places =>
    let n := order[place]?.getD 0
    n :: moveToFront (n :: order.eraseIdx place) places

/-- The numbers of codes by type and context, and how many codes there are. -/
structure ContextMap where
  codes : Nat
  entries : Array Nat

/-- The next map of some size. -/
def contextMap (size : Nat) : Unpack ContextMap := do
  let codes := 1 + (← smallNumber)
  if codes = 1 then return ⟨1, Array.replicate size 0⟩
  else
    let runs ← if ← Unpack.bit then pure (1 + (← Unpack.number 4)) else pure 0
    let code ← codeOf (.all (codes + runs))
    let entries ← mapEntries code runs size (size + 1) []
    let entries := if ← Unpack.bit then moveToFront (List.range 256) entries else entries
    return ⟨codes, entries.toArray⟩

end Rulebook.Packing.Brotli
