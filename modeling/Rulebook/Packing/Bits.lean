/-!
# Packed data

Packed data is read as bits, the lowest of each byte first, and unpacked into bytes. Unpacking may
stop before its end, and what it has made so far is kept then. It makes no more bytes than asked
for.
-/

namespace Rulebook.Packing

/-- Why unpacking stops before its end: the bits are used up, or they stand for nothing. -/
inductive Stop where
  | used
  | wrong
deriving DecidableEq, Repr

/-- The bits that are left, how many were taken, the bytes made so far, and how many there may
be. -/
structure Unpacking where
  bits : List Bool
  taken : Nat
  bytes : Array UInt8
  limit : Nat

/-- A step of unpacking. -/
abbrev Unpack (α : Type) :=
  EStateM Stop Unpacking α

/-- The bits of a byte, the lowest first. -/
def bitsOfByte (b : UInt8) : List Bool :=
  (List.range 8).map b.toNat.testBit

namespace Unpack

/-- Unpacking carried out on some bytes. -/
def on {α : Type} (limit : Nat) (packed : List UInt8) (u : Unpack α) :
    EStateM.Result Stop Unpacking α :=
  u.run ⟨packed.flatMap bitsOfByte, 0, #[], limit⟩

/-- The next bit. -/
def bit : Unpack Bool := do
  let s ← get
  match s.bits with
  | [] => throw .used
  | b :: rest =>
    set { s with bits := rest, taken := s.taken + 1 }
    return b

/-- The number of the next bits, the lowest first. -/
def number : Nat → Unpack Nat
  | 0 => return 0
  | count + 1 => do
    let b ← bit
    return b.toNat + 2 * (← number count)

/-- The number of the bits that are left of a byte of which some were taken. -/
def toByte : Unpack Nat := do
  number ((8 - (← get).taken % 8) % 8)

/-- The next bytes. -/
def bytes : Nat → Unpack (List UInt8)
  | 0 => return []
  | count + 1 => do
    let b ← number 8
    return b.toUInt8 :: (← bytes count)

/-- Whether all bits were taken. -/
def isAtEnd : Unpack Bool :=
  return (← get).bits.isEmpty

/-- A byte made. -/
def emit (b : UInt8) : Unpack Unit := do
  let s ← get
  if s.limit ≤ s.bytes.size then throw .wrong
  set { s with bytes := s.bytes.push b }

/-- Bytes made. -/
def emitAll (bs : List UInt8) : Unpack Unit :=
  bs.forM emit

/-- How many bytes were made. -/
def made : Unpack Nat :=
  return (← get).bytes.size

/-- The byte that was made some places ago; before the first one stand zeros. -/
def ago (distance : Nat) : Unpack UInt8 := do
  let bs := (← get).bytes
  return if distance ≤ bs.size then (bs[bs.size - distance]?).getD 0 else 0

/-- Bytes made again, from some places ago on. -/
def repeatFrom (distance : Nat) : Nat → Unpack Unit
  | 0 => return ()
  | count + 1 => do
    emit (← ago distance)
    repeatFrom distance count

/-- The next bytes made as they are. -/
def stored : Nat → Unpack Unit
  | 0 => return ()
  | count + 1 => do
    emit (← number 8).toUInt8
    stored count

end Unpack

end Rulebook.Packing
