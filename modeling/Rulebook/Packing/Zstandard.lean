/-!
# Zstandard frames

Each frame starts with a mark of four bytes. Frames of some marks do not count: after the mark stand
the size of what is skipped, the lowest byte first, and that many bytes. The mark of frames with
data is no UTF-8, so a text has only frames that do not count; frames with data are not unpacked.
The last frame may end early.
-/

namespace Rulebook.Packing.Zstandard

/-- The mark of frames with data. -/
def dataMark : List UInt8 :=
  [0x28, 0xB5, 0x2F, 0xFD]

/-- The marks of frames that do not count. -/
def skippedMarks : List (List UInt8) :=
  (List.range 16).map fun n => [(0x50 + n).toUInt8, 0x2A, 0x4D, 0x18]

/-- Whether bytes are cut within a mark. -/
def isCutMark (bytes : List UInt8) : Bool :=
  (dataMark :: skippedMarks).any bytes.isPrefixOf

/-- The number of bytes, the lowest first. -/
def littleEndian (bytes : List UInt8) : Nat :=
  bytes.foldr (fun b n => b.toNat + 0x100 * n) 0

/-- Whether bytes are frames that do not count, the last one perhaps cut. The first number bounds
the steps. -/
def isSkipped : Nat → List UInt8 → Bool
  | 0, _ => false
  | fuel + 1, bytes =>
    if isCutMark bytes then true
    else if skippedMarks.contains (bytes.take 4) then
      let size := (bytes.drop 4).take 4
      size.length < 4 || isSkipped fuel (bytes.drop (8 + littleEndian size))
    else false

/-- The bytes of frames, none of which holds data: no bytes. -/
def unpack? (packed : List UInt8) : Option (List UInt8) :=
  if isSkipped (packed.length + 1) packed then some [] else none

end Rulebook.Packing.Zstandard
