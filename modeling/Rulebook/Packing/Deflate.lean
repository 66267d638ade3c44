import Rulebook.Packing.PrefixCode

/-!
# Deflated data

Deflated data is a row of blocks. A block holds its bytes as they are, or as symbols: a byte, the
end of the block, or the length of a run of bytes that was made before and how long ago. The codes
of the symbols are fixed or stand at the head of the block. Two wrappings tell how the data is
packed and end with a checksum: `Zlib` is the short one, and `Gzip` that of a file.
-/

namespace Rulebook.Packing.Deflate

/-- The least value of a symbol and the number of bits that are added to it. -/
abbrev Span := Nat × Nat

/-- The lengths of runs, by their symbols from 257 on. -/
def lengths : List Span :=
  [(3, 0), (4, 0), (5, 0), (6, 0), (7, 0), (8, 0), (9, 0), (10, 0), (11, 1), (13, 1), (15, 1),
    (17, 1), (19, 2), (23, 2), (27, 2), (31, 2), (35, 3), (43, 3), (51, 3), (59, 3), (67, 4),
    (83, 4), (99, 4), (115, 4), (131, 5), (163, 5), (195, 5), (227, 5), (258, 0)]

/-- The distances of runs, by their symbols. -/
def distances : List Span :=
  [(1, 0), (2, 0), (3, 0), (4, 0), (5, 1), (7, 1), (9, 2), (13, 2), (17, 3), (25, 3), (33, 4),
    (49, 4), (65, 5), (97, 5), (129, 6), (193, 6), (257, 7), (385, 7), (513, 8), (769, 8),
    (1025, 9), (1537, 9), (2049, 10), (3073, 10), (4097, 11), (6145, 11), (8193, 12), (12289, 12),
    (16385, 13), (24577, 13)]

/-- The value of a symbol. -/
def value (spans : List Span) (symbol : Nat) : Unpack Nat :=
  match spans[symbol]? with
  | some (least, extra) => return least + (← Unpack.number extra)
  | none => throw .wrong

/-- The codes of a block: of bytes and lengths, and of distances. -/
structure Codes where
  main : PrefixCode
  distance : PrefixCode

/-- The fixed codes. -/
def fixedCodes : Codes :=
  ⟨.ofLengths (List.replicate 144 8 ++ List.replicate 112 9 ++ List.replicate 24 7 ++
      List.replicate 8 8), .ofLengths (List.replicate 32 5)⟩

/-- A code, if its lengths leave no bits without a symbol; that of at most one symbol may. -/
def codeOf (lengths : List Nat) : Unpack PrefixCode :=
  if PrefixCode.share lengths = 0x8000 ∨ (lengths.filter (· ≠ 0)).length ≤ 1 then
    return .ofLengths lengths
  else throw .wrong

/-- The order in which the lengths of the code of lengths stand. -/
def lengthOrder : List Nat :=
  [16, 17, 18, 0, 8, 7, 9, 6, 10, 5, 11, 4, 12, 3, 13, 2, 14, 1, 15]

/-- The next lengths, some of them repeated, until there are as many as wanted. The last one first
are those that are there. The first number bounds the steps. -/
def codeLengths (code : PrefixCode) (count : Nat) : Nat → List Nat → Unpack (List Nat)
  | 0, _ => throw .wrong
  | fuel + 1, met => do
    if met.length = count then return met.reverse
    else if count < met.length then throw .wrong
    else
      match ← code.read with
      | 16 =>
        match met with
        | [] => throw .wrong
        | l :: _ => codeLengths code count fuel (List.replicate (3 + (← Unpack.number 2)) l ++ met)
      | 17 => codeLengths code count fuel (List.replicate (3 + (← Unpack.number 3)) 0 ++ met)
      | 18 => codeLengths code count fuel (List.replicate (11 + (← Unpack.number 7)) 0 ++ met)
      | l => codeLengths code count fuel (l :: met)

/-- The codes at the head of a block. -/
def codesAhead : Unpack Codes := do
  let mainCount := 257 + (← Unpack.number 5)
  let distanceCount := 1 + (← Unpack.number 5)
  let orderCount := 4 + (← Unpack.number 4)
  let given ← (List.replicate orderCount 3).mapM Unpack.number
  let placed := lengthOrder.zip given
  let sizes := (List.range 19).map fun n => (placed.lookup n).getD 0
  if PrefixCode.share sizes ≠ 0x8000 then throw .wrong
  let count := mainCount + distanceCount
  let all ← codeLengths (.ofLengths sizes) count (count + 1) []
  return ⟨← codeOf (all.take mainCount), ← codeOf (all.drop mainCount)⟩

/-- Symbols up to the end of a block. The first number bounds the steps. -/
def symbols (codes : Codes) : Nat → Unpack Unit
  | 0 => throw .wrong
  | fuel + 1 => do
    let n ← codes.main.read
    if n < 256 then
      Unpack.emit n.toUInt8
      symbols codes fuel
    else if n = 256 then return ()
    else
      let length ← value lengths (n - 257)
      let distance ← value distances (← codes.distance.read)
      Unpack.repeatFrom distance length
      symbols codes fuel

/-- A block that holds its bytes as they are. -/
def storedBlock : Unpack Unit := do
  discard Unpack.toByte
  let count ← Unpack.number 16
  let check ← Unpack.number 16
  if count + check ≠ 0xFFFF then throw .wrong
  Unpack.stored count

/-- All blocks up to the last one. The first number bounds the steps. -/
def blocks : Nat → Unpack Unit
  | 0 => throw .wrong
  | fuel + 1 => do
    let isLast ← Unpack.bit
    let bitsLeft := (← get).bits.length
    match ← Unpack.number 2 with
    | 0 => storedBlock
    | 1 => symbols fixedCodes (bitsLeft + 1)
    | 2 => symbols (← codesAhead) (bitsLeft + 1)
    | _ => throw .wrong
    if isLast then return () else blocks fuel

/-- Deflated data up to the end of its last byte. -/
def inflate : Unpack Unit := do
  blocks ((← get).bits.length + 1)
  discard Unpack.toByte

end Rulebook.Packing.Deflate

/-!
## Data with a checksum

Two bytes before deflated data say how it is packed and how far back it looks, and are together a
multiple of 31. After it stands the checksum of Adler.
-/

namespace Rulebook.Packing.Zlib

/-- The checksum of Adler: the sum of the bytes and one, and the sum of all these sums, both modulo
the greatest prime below `2 ^ 16`. -/
def adler32 (bytes : List UInt8) : Nat :=
  let (a, b) := bytes.foldl (fun (a, b) x =>
    let a := (a + x.toNat) % 65521
    (a, (b + a) % 65521)) (1, 0)
  b * 0x10000 + a

/-- The number of bytes, the highest first. -/
def bigEndian (bytes : List UInt8) : Nat :=
  bytes.foldl (fun n b => n * 0x100 + b.toNat) 0

/-- The data, up to and with its checksum. -/
def unpack : Unpack Unit := do
  let method ← Unpack.number 8
  let flags ← Unpack.number 8
  let isRight := method % 16 = 8 ∧ method / 16 ≤ 7 ∧ (method * 0x100 + flags) % 31 = 0 ∧
    flags / 32 % 2 = 0
  if ¬ isRight then throw .wrong
  Deflate.inflate
  let check ← Unpack.bytes 4
  if bigEndian check ≠ adler32 (← get).bytes.toList then throw .wrong

/-- The bytes that packed ones stand for, all of them and nothing after them. -/
def unpack? (limit : Nat) (packed : List UInt8) : Option (List UInt8) :=
  match unpack.on limit packed with
  | .ok _ s => if s.bits.isEmpty then some s.bytes.toList else none
  | .error _ _ => none

end Rulebook.Packing.Zlib

/-!
## Files

Before the deflated data of a file stand a mark, flags and what they announce: the file's name, a
comment, other fields, a checksum of all that. After it stand a checksum of the data and its size.
-/

namespace Rulebook.Packing.Gzip

/-- The remainder of a polynomial over bits after one more bit. -/
def crcStep (crc : Nat) : Nat :=
  if crc % 2 = 1 then (crc / 2).xor 0xEDB88320 else crc / 2

/-- The cyclic checksum of bytes. -/
def crc32 (bytes : List UInt8) : Nat :=
  (bytes.foldl (fun crc b => (List.range 8).foldl (fun crc _ => crcStep crc) (crc.xor b.toNat))
    0xFFFFFFFF).xor 0xFFFFFFFF

/-- The bytes up to and with a zero. The first number bounds the steps. -/
def upToZero : Nat → Unpack (List UInt8)
  | 0 => throw .wrong
  | fuel + 1 => do
    let b := (← Unpack.number 8).toUInt8
    if b = 0 then return [b] else return b :: (← upToZero fuel)

/-- What stands before the data. -/
def header : Unpack Unit := do
  let start ← Unpack.bytes 10
  match start with
  | 0x1F :: 0x8B :: 0x08 :: flags :: _ =>
    let has (i : Nat) : Bool := flags.toNat.testBit i
    if 32 ≤ flags.toNat then throw .wrong
    let bound := (← get).bits.length + 1
    let fields ← if has 2 then do
        let size ← Unpack.bytes 2
        let count := size.foldr (fun b n => b.toNat + 0x100 * n) 0
        pure (size ++ (← Unpack.bytes count))
      else pure []
    let name ← if has 3 then upToZero bound else pure []
    let comment ← if has 4 then upToZero bound else pure []
    if has 1 then
      let check ← Unpack.number 16
      if check ≠ crc32 (start ++ fields ++ name ++ comment) % 0x10000 then throw .wrong
  | _ => throw .wrong

/-- The data, up to and with its checksum and size. -/
def unpack : Unpack Unit := do
  header
  Deflate.inflate
  let check ← Unpack.number 32
  let size ← Unpack.number 32
  let bytes := (← get).bytes
  if check ≠ crc32 bytes.toList ∨ size ≠ bytes.size % 0x100000000 then throw .wrong

/-- The bytes that packed ones stand for, all of them and nothing after them. -/
def unpack? (limit : Nat) (packed : List UInt8) : Option (List UInt8) :=
  match unpack.on limit packed with
  | .ok _ s => if s.bits.isEmpty then some s.bytes.toList else none
  | .error _ _ => none

end Rulebook.Packing.Gzip
