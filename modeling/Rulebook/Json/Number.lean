import Rulebook.Number.Text

/-!
# Numbers in documents

A number is an integer of at most 64 bits, signed or unsigned, or a finite double. A literal without
point and exponent stays an integer where it fits; a negative zero, and every other literal, is a
double. A double is read in machine steps: the leading digits are gathered into a 64-bit
significand, which is rounded once and then scaled by a power of ten, itself rounded.
-/

namespace Rulebook.Json

/-- The integers that keep their exact value. -/
def IntRange (n : Int) : Prop :=
  -0x8000000000000000 ≤ n ∧ n < 0x10000000000000000

instance (n : Int) : Decidable (IntRange n) := by
  unfold IntRange; infer_instance

/-- A number: an exact integer or a double. -/
inductive Number where
  | int (value : Int) (inRange : IntRange value)
  | float (value : Binary64)
deriving DecidableEq

namespace Number

/-- An integer as a number, where it has 64 bits. -/
def ofInt? (n : Int) : Option Number :=
  if h : IntRange n then some (.int n h) else none

/-- A natural below `2 ^ 64`; greater ones wrap around. -/
def ofNat (n : Nat) : Number :=
  .int ((n % 0x10000000000000000 : Nat) : Int) (by
    have h : n % 0x10000000000000000 < 0x10000000000000000 := Nat.mod_lt _ (by decide)
    unfold IntRange
    omega)

/-- Equality of numbers: an integer never equals a double, and the two zeros are equal doubles. -/
def same : Number → Number → Bool
  | .int a _, .int b _ => a == b
  | .float x, .float y => x.same y
  | _, _ => false

/-- The text of a number. -/
def render : Number → List Char
  | .int n _ => if n < 0 then '-' :: Decimal.digitsOf n.natAbs else Decimal.digitsOf n.natAbs
  | .float x => x.render

/-- The parts of a number literal: its sign, the digits before and after the point, and the sign and
digits of the exponent. -/
structure Literal where
  negative : Bool
  whole : List Char
  fraction : Option (List Char)
  exponent : Option (Bool × List Char)

/-- The value of a decimal digit. -/
def digitValue (c : Char) : Nat :=
  c.toNat - '0'.toNat

/-- The value of a run of decimal digits. -/
def naturalOf (digits : List Char) : Nat :=
  digits.foldl (fun n c => n * 10 + digitValue c) 0

/-- The digits gathered onto `significand` while it stays below `2 ^ 64`, and those left over. -/
def gather (significand : Nat) : List Char → Nat × List Char
  | [] => (significand, [])
  | c :: rest =>
    let next := significand * 10 + digitValue c
    if next < 0x10000000000000000 then gather next rest else (significand, c :: rest)

/-- `value · 10 ^ exponent` with one rounding for each step of at most 308 powers of ten; nothing
when it is too great for a double. -/
def scale : Nat → Binary64 → Int → Option Binary64
  | 0, _, _ => some (Binary64.zero false)
  | fuel + 1, value, exponent =>
    if exponent.natAbs ≤ 308 then
      (Binary64.ofNat (Nat.pow 10 exponent.natAbs)).bind fun power =>
        if 0 ≤ exponent then value.mul power else value.div power
    else if value.mantissa = 0 then some value
    else if 0 ≤ exponent then none
    else
      (Binary64.ofNat (Nat.pow 10 308)).bind fun power =>
        (value.div power).bind fun smaller => scale fuel smaller (exponent + 308)

/-- The double of a significand and a power of ten, with the sign of the literal. -/
def floatOf (negative : Bool) (significand : Nat) (exponent : Int) : Option Number :=
  (Binary64.ofNat significand).bind fun value =>
    (scale 8 value exponent).map fun x => .float (if negative then x.neg else x)

/-- The number a literal stands for; nothing when it is too great. -/
def ofLiteral (l : Literal) : Option Number :=
  let (wholeSig, left) := gather 0 l.whole
  match l.fraction, l.exponent, left with
  | none, none, [] =>
    if l.negative then
      if wholeSig = 0 then some (.float (Binary64.zero true))
      else
        match ofInt? (-Int.ofNat wholeSig) with
        | some n => some n
        | none => floatOf true wholeSig 0
    else ofInt? (Int.ofNat wholeSig)
  | _, _, _ =>
    let digits := l.fraction.getD []
    let (significand, dropped) := gather wholeSig digits
    let placed := Int.ofNat left.length - Int.ofNat (digits.length - dropped.length)
    match l.exponent with
    | none => floatOf l.negative significand placed
    | some (down, power) =>
      let magnitude := naturalOf power
      if magnitude < 0x80000000 then
        floatOf l.negative significand
          (if down then placed - Int.ofNat magnitude else placed + Int.ofNat magnitude)
      else if significand ≠ 0 && !down then none
      else some (.float (Binary64.zero l.negative))

end Number

end Rulebook.Json
