/-!
# Contexts of bytes

How likely a byte is depends on the two bytes before it. A context is a number below 64 that stands
for what matters about them: the bits of the last one, the kinds of both in a text, or how great
both are.
-/

namespace Rulebook.Packing.Brotli

/-- What of the two bytes before matters. -/
inductive ContextMode where
  | lowBits
  | highBits
  | text
  | size
deriving DecidableEq, Repr

/-- The value of a number in steps: that of the first step it does not exceed. -/
def inSteps : List (Nat × Nat) → Nat → Nat
  | [], _ => 0
  | (top, value) :: steps, n => if n ≤ top then value else inSteps steps n

/-- Where in a text the last byte puts the next one, for each byte below 128. -/
def asciiContexts : List Nat :=
  [0, 0, 0, 0, 0, 0, 0, 0, 0, 4, 4, 0, 0, 4, 0, 0,
    0, 0, 0, 0, 0, 0, 0, 0, 0, 0, 0, 0, 0, 0, 0, 0,
    8, 12, 16, 12, 12, 20, 12, 16, 24, 28, 12, 12, 32, 12, 36, 12,
    44, 44, 44, 44, 44, 44, 44, 44, 44, 44, 32, 32, 24, 40, 28, 12,
    12, 48, 52, 52, 52, 48, 52, 52, 52, 48, 52, 52, 52, 52, 52, 48,
    52, 52, 52, 52, 52, 48, 52, 52, 52, 52, 52, 24, 12, 28, 12, 12,
    12, 56, 60, 60, 60, 56, 60, 60, 60, 56, 60, 60, 60, 60, 60, 56,
    60, 60, 60, 60, 60, 56, 60, 60, 60, 60, 60, 24, 12, 28, 12, 0]

/-- Where in a text the last byte puts the next one: after a letter, a digit, a mark and so on, or
inside of a character of more than one byte. -/
def afterLast (b : Nat) : Nat :=
  if b < 128 then asciiContexts[b]?.getD 0
  else if b < 192 then b % 2
  else 2 + b % 2

/-- Where in a text the byte before the last one puts the next one. -/
def afterSecond (b : Nat) : Nat :=
  inSteps [(32, 0), (47, 1), (57, 2), (64, 1), (90, 2), (96, 1), (122, 3), (126, 1), (223, 0),
    (255, 2)] b

/-- How great a byte is, in eight steps. -/
def magnitude (b : Nat) : Nat :=
  inSteps [(0, 0), (15, 1), (63, 2), (127, 3), (191, 4), (239, 5), (254, 6), (255, 7)] b

namespace ContextMode

/-- The mode of a number below four. -/
def ofNumber : Nat → ContextMode
  | 0 => .lowBits
  | 1 => .highBits
  | 2 => .text
  | _ => .size

/-- The context of the next byte, after the last byte and the one before it. -/
def context (mode : ContextMode) (last second : UInt8) : Nat :=
  match mode with
  | .lowBits => last.toNat % 64
  | .highBits => last.toNat / 4
  | .text => (afterLast last.toNat).lor (afterSecond second.toNat)
  | .size => 8 * magnitude last.toNat + magnitude second.toNat

end ContextMode

end Rulebook.Packing.Brotli
