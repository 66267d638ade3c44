/-!
# Finite binary numbers of double precision

A finite double is a sign, a mantissa of at most 53 bits and a power of two, in its one canonical
form. `round` takes a ratio of naturals to the nearest double, a tie to the even mantissa, and
answers nothing where the result would be infinite. All arithmetic is exact arithmetic followed by
one rounding, so every value here can be computed with.
-/

namespace Rulebook

/-- The canonical forms: a full mantissa, or the least exponent. -/
def Binary64.Canonical (mantissa : Nat) (exponent : Int) : Prop :=
  mantissa < 0x20000000000000 ∧ -1074 ≤ exponent ∧ exponent ≤ 971 ∧
    (0x10000000000000 ≤ mantissa ∨ exponent = -1074)

instance (m : Nat) (q : Int) : Decidable (Binary64.Canonical m q) := by
  unfold Binary64.Canonical; infer_instance

/-- The finite double `± mantissa · 2 ^ exponent`. -/
structure Binary64 where
  negative : Bool
  mantissa : Nat
  exponent : Int
  canonical : Binary64.Canonical mantissa exponent
deriving DecidableEq

namespace Binary64

/-- Zero with a sign. -/
def zero (negative : Bool) : Binary64 :=
  ⟨negative, 0, -1074, by decide⟩

/-- The same number with the other sign. -/
def neg (x : Binary64) : Binary64 :=
  { x with negative := !x.negative }

/-- Equality of numbers: the two zeros are one number. -/
def same (x y : Binary64) : Bool :=
  x.mantissa == y.mantissa && x.exponent == y.exponent &&
    (x.negative == y.negative || x.mantissa == 0)

/-- The quotient of two naturals, to the nearest natural, a tie to the even one. -/
def roundQuotient (num den : Nat) : Nat :=
  let q := num / den
  let r := num % den
  if 2 * r < den then q
  else if den < 2 * r then q + 1
  else if q % 2 == 0 then q else q + 1

/-- The quotient of two naturals divided by `2 ^ exponent`, as a ratio. -/
def scaled (num den : Nat) (exponent : Int) : Nat × Nat :=
  match exponent with
  | .ofNat k => (num, den * Nat.pow 2 k)
  | .negSucc k => (num * Nat.pow 2 (k + 1), den)

/-- The canonical double `± mantissa · 2 ^ exponent`, where there is one. -/
def make? (negative : Bool) (mantissa : Nat) (exponent : Int) : Option Binary64 :=
  if h : Canonical mantissa exponent then some ⟨negative, mantissa, exponent, h⟩ else none

/-- The exponent that leaves 53 bits, or nearly so, of a positive ratio, but never less than the
least exponent. -/
def fitExponent (num den : Nat) : Int :=
  max (-1074) (Int.ofNat (Nat.log2 num) - Int.ofNat (Nat.log2 den) - 53)

/-- The double nearest to `num / den`; nothing when that is beyond the greatest finite double. -/
def round (negative : Bool) (num den : Nat) : Option Binary64 :=
  if num = 0 then some (zero negative)
  else
    let q := fitExponent num den
    let (n, d) := scaled num den q
    -- a quotient of 54 bits is rounded one place further up, in one step
    let q := if 0x20000000000000 ≤ n / d then q + 1 else q
    let (n, d) := scaled num den q
    let m := roundQuotient n d
    if m = 0x20000000000000 then make? negative 0x10000000000000 (q + 1) else make? negative m q

/-- The magnitude of a double as a ratio of naturals. -/
def ratio (x : Binary64) : Nat × Nat :=
  match x.exponent with
  | .ofNat k => (x.mantissa * Nat.pow 2 k, 1)
  | .negSucc k => (x.mantissa, Nat.pow 2 (k + 1))

/-- The nearest double to the product of two. -/
def mul (x y : Binary64) : Option Binary64 :=
  let (a, b) := x.ratio
  let (c, d) := y.ratio
  round (x.negative != y.negative) (a * c) (b * d)

/-- The nearest double to the quotient of two, the second not zero. -/
def div (x y : Binary64) : Option Binary64 :=
  let (a, b) := x.ratio
  let (c, d) := y.ratio
  round (x.negative != y.negative) (a * d) (b * c)

/-- The nearest double to a natural. -/
def ofNat (n : Nat) : Option Binary64 :=
  round false n 1

end Binary64

end Rulebook
