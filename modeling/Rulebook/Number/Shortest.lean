import Rulebook.Number.Binary64

/-!
# The shortest decimal that reads back

Of the decimals that round to a given double, those with the fewest digits are taken, and of these
the one nearest to the double. The decimals that round to `m · 2 ^ q` fill an interval around it,
whose ends belong to it exactly when `m` is even. For each number of digits the two neighbours of
the value on that decimal grid are tried in exact arithmetic; 17 digits always suffice.
-/

namespace Rulebook

/-- A positive decimal `digits · 10 ^ power`. -/
structure Decimal where
  digits : Nat
  power : Int
deriving DecidableEq, Repr

namespace Decimal

/-- The decimal digits of a natural, the first digit first; `0` has one. -/
def digitsOf (n : Nat) : List Char :=
  Nat.toDigits 10 n

/-- A decimal as a ratio of naturals. -/
def ratio (x : Decimal) : Nat × Nat :=
  match x.power with
  | .ofNat k => (x.digits * Nat.pow 10 k, 1)
  | .negSucc k => (x.digits, Nat.pow 10 (k + 1))

/-- The same decimal without trailing zero digits, given at most `fuel` of them. -/
def strip : Nat → Decimal → Decimal
  | 0, x => x
  | fuel + 1, x =>
    if x.digits != 0 && x.digits % 10 == 0 then strip fuel ⟨x.digits / 10, x.power + 1⟩ else x

end Decimal

namespace Binary64

/-- The reals that round to a double of this mantissa and exponent, as four times the value and the
two ends in units of `2 ^ (exponent - 2)`. Below a power of two the spacing halves. -/
def interval (x : Binary64) : Nat × Nat × Nat :=
  let m := x.mantissa
  let below := if m == 0x10000000000000 && x.exponent != -1074 then 1 else 2
  (4 * m - below, 4 * m, 4 * m + 2)

/-- Whether a decimal lies in the interval that rounds to `x`. -/
def covers (x : Binary64) (d : Decimal) : Bool :=
  let (lo, _, hi) := x.interval
  let (n, den) := d.ratio
  let (n, den) := scaled n den (x.exponent - 2)
  if x.mantissa % 2 == 0 then lo * den ≤ n && n ≤ hi * den else lo * den < n && n < hi * den

/-- How far a decimal is from `x`, over a denominator common to one grid. -/
def distance (x : Binary64) (d : Decimal) : Nat :=
  let (n, den) := d.ratio
  let (n, den) := scaled n den x.exponent
  let v := x.mantissa * den
  if n ≤ v then v - n else n - v

/-- The greatest multiple of `10 ^ power` that is not above `x`, counted in that unit. -/
def floorAt (x : Binary64) (power : Int) : Nat :=
  let (n, den) := x.ratio
  match power with
  | .ofNat k => n / (den * Nat.pow 10 k)
  | .negSucc k => n * Nat.pow 10 (k + 1) / den

/-- The neighbour of `x` on the grid of `10 ^ power` that reads back as `x`: the nearer where both
do, the even one on a tie. -/
def onGrid (x : Binary64) (power : Int) : Option Decimal :=
  let lower := Decimal.mk (x.floorAt power) power
  let upper := Decimal.mk (x.floorAt power + 1) power
  match x.covers lower, x.covers upper with
  | true, false => some lower
  | false, true => some upper
  | false, false => none
  | true, true =>
    let a := x.distance lower
    let b := x.distance upper
    if a < b then some lower
    else if b < a then some upper
    else if lower.digits % 2 == 0 then some lower else some upper

/-- The power of ten of the first digit of `x`, `x` not zero. -/
def leadingPower (x : Binary64) : Int :=
  let (n, den) := x.ratio
  if den ≤ n then Int.ofNat ((Decimal.digitsOf (n / den)).length) - 1
  else
    let k := (Decimal.digitsOf (den / n)).length
    -- `10 ^ -k ≤ x` unless the quotient was exactly a power of ten
    if den ≤ n * Nat.pow 10 (k - 1) then 1 - Int.ofNat k else -Int.ofNat k

/-- The first grid from `power` on, of finer and finer ones, that has a decimal for `x`. -/
def firstOnGrids (x : Binary64) : Nat → Int → Decimal
  | 0, power => ⟨x.floorAt power, power⟩
  | fuel + 1, power =>
    match x.onGrid power with
    | some d => d
    | none => firstOnGrids x fuel (power - 1)

/-- The shortest decimal that reads back as `x`, nearest among the shortest; `x` not zero. -/
def shortest (x : Binary64) : Decimal :=
  Decimal.strip 20 (x.firstOnGrids 17 x.leadingPower)

end Binary64

end Rulebook
