import Rulebook.Packing.Brotli.Command

/-!
# Brotli data

The data starts with how far back copies reach. Then there are blocks: bytes as they are, bytes that
do not count, or commands that make bytes. The data may end early, and its bytes so far count then.
-/

namespace Rulebook.Packing.Brotli

/-- How far back copies reach, as a number of bits, and whether the distances are those of large
data. -/
structure Window where
  bits : Nat
  isLarge : Bool

/-- The window of large data. -/
def largeWindow : Unpack Window := do
  if ← Unpack.bit then throw .wrong
  let bits ← Unpack.number 6
  if bits < 10 ∨ 30 < bits then throw .wrong
  return ⟨bits, true⟩

/-- The window at the head of the data. -/
def window : Unpack Window := do
  if ← Unpack.bit then
    match ← Unpack.number 3 with
    | 0 =>
      match ← Unpack.number 3 with
      | 0 => return ⟨17, false⟩
      | 1 => largeWindow
      | n => return ⟨8 + n, false⟩
    | n => return ⟨17 + n, false⟩
  else return ⟨16, false⟩

/-- The rest of a byte of which some bits were taken. It has to be zeros. -/
def padding : Unpack Unit := do
  if (← Unpack.toByte) ≠ 0 then throw .wrong

/-- The alphabet of distances. Large data has more of them, but no distance above `2 ^ 31 - 4`. -/
def distanceAlphabet (w : Window) (direct lowBits : Nat) : Alphabet :=
  let scale := Nat.pow 2 lowBits
  let greatest (n : Nat) : Nat :=
    let high := n / scale
    let extra := high / 2 + 1
    ((3 + high % 2) * Nat.pow 2 extra - 5) * scale + n % scale + direct + 1
  if w.isLarge then
    let far := (List.range (124 * scale)).takeWhile fun n => greatest n ≤ 0x7FFFFFFC
    ⟨16 + direct + 124 * scale, 16 + direct + far.length⟩
  else .all (16 + direct + 48 * scale)

/-- Codes of one alphabet. -/
def codes (count : Nat) (a : Alphabet) : Unpack (Array PrefixCode) := do
  return ((← (List.replicate count a).mapM codeOf)).toArray

/-- Commands that make a number of bytes, with their codes before them. -/
def coded (w : Window) (recent : Recent) (size : Nat) : Unpack Recent := do
  let literalBlocks ← Blocks.ahead
  let commandBlocks ← Blocks.ahead
  let distanceBlocks ← Blocks.ahead
  let lowBits ← Unpack.number 2
  let direct := (← Unpack.number 4) * Nat.pow 2 lowBits
  let modes ← (List.replicate literalBlocks.types 2).mapM Unpack.number
  let literalMap ← contextMap (literalBlocks.types * 64)
  let distanceMap ← contextMap (distanceBlocks.types * 4)
  let literals ← codes literalMap.codes (.all 256)
  let commandCodes ← codes commandBlocks.types (.all 704)
  let distances ← codes distanceMap.codes (distanceAlphabet w direct lowBits)
  let coding : Coding :=
    { modes := (modes.map ContextMode.ofNumber).toArray
      literalMap := literalMap.entries
      distanceMap := distanceMap.entries
      literals, distances, direct, lowBits
      commands := commandCodes
      reach := Nat.pow 2 w.bits - 16 }
  let fuel := size + (← get).bits.length + 1
  commands coding fuel ⟨literalBlocks, commandBlocks, distanceBlocks, recent⟩ size

/-- A number of some digits in the base of `2 ^ bits`, the lowest first, and one more. The highest
of more digits than `few` is not zero. -/
def sizeOf (bits few digits : Nat) : Unpack Nat := do
  let ds ← (List.replicate digits bits).mapM Unpack.number
  if few < digits ∧ ds.getLast? = some 0 then throw .wrong
  return ds.foldr (fun d n => d + Nat.pow 2 bits * n) 0 + 1

/-- Bytes that do not count. -/
def skipped : Unpack Unit := do
  if ← Unpack.bit then throw .wrong
  let digits ← Unpack.number 2
  let size ← if digits = 0 then pure 0 else sizeOf 8 1 digits
  padding
  discard (Unpack.bytes size)

/-- A block, and the last distances after it. -/
def block (w : Window) (recent : Recent) (isLast : Bool) : Unpack Recent := do
  match ← Unpack.number 2 with
  | 3 =>
    skipped
    return recent
  | n =>
    let size ← sizeOf 4 4 (4 + n)
    let isPlain ← if isLast then pure false else Unpack.bit
    if isPlain then
      padding
      Unpack.stored size
      return recent
    else coded w recent size

/-- All blocks up to the last one, which may be empty. The first number bounds the steps. -/
def blocks (w : Window) : Nat → Recent → Unpack Unit
  | 0, _ => throw .wrong
  | fuel + 1, recent => do
    let isLast ← Unpack.bit
    let isEmpty ← if isLast then Unpack.bit else pure false
    if isEmpty then padding
    else
      let recent ← block w recent isLast
      if isLast then padding else blocks w fuel recent

/-- The data up to the end of its last byte. -/
def unpack : Unpack Unit := do
  let w ← window
  blocks w ((← get).bits.length + 1) .start

/-- The bytes that packed ones stand for. Nothing may follow them. -/
def unpack? (limit : Nat) (packed : List UInt8) : Option (List UInt8) :=
  match Unpack.on limit packed unpack with
  | .ok _ s => if s.bits.isEmpty then some s.bytes.toList else none
  | .error .used s => some s.bytes.toList
  | .error .wrong _ => none

end Rulebook.Packing.Brotli
