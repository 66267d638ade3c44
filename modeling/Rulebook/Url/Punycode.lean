/-!
# Labels in ASCII disguise

A label of a host name that has characters beyond ASCII may be written as `xn--` and ASCII letters:
the ASCII characters of the label, a hyphen, and then where to insert the others, as numbers of base
36 whose digits weigh differently as the text goes on.
-/

namespace Rulebook.Url.Punycode

/-- The value of a digit of base 36, letters before decimal digits. -/
def digit? (c : Char) : Option Nat :=
  if 'a' ≤ c && c ≤ 'z' then some (c.toNat - 'a'.toNat)
  else if 'A' ≤ c && c ≤ 'Z' then some (c.toNat - 'A'.toNat)
  else if '0' ≤ c && c ≤ '9' then some (c.toNat - '0'.toNat + 26)
  else none

/-- The digit below which a number ends, at the place `k` counted in steps of 36. -/
def threshold (k bias : Nat) : Nat :=
  max 1 (min 26 (k - bias))

/-- Numbers and weights stay below this one. -/
def limit : Nat :=
  0x100000000

/-- A number and the digits after it. Place, weight and value so far come first. -/
def number? (bias k weight value : Nat) : List Char → Option (Nat × List Char)
  | [] => none
  | c :: rest =>
    match digit? c with
    | none => none
    | some d =>
      let value := value + d * weight
      let t := threshold k bias
      if limit ≤ value then none
      else if d < t then some (value, rest)
      else if limit ≤ weight * (36 - t) then none
      else number? bias (k + 36) (weight * (36 - t)) value rest

/-- A difference brought below 456 by divisions, with the places that took. -/
def settle : Nat → Nat → Nat → Nat × Nat
  | 0, delta, k => (delta, k)
  | fuel + 1, delta, k => if 455 < delta then settle fuel (delta / 35) (k + 36) else (delta, k)

/-- The bias after an insertion into a label that then has `count` characters. -/
def adapt (delta count : Nat) (first : Bool) : Nat :=
  let delta := if first then delta / 700 else delta / 2
  let (delta, k) := settle 64 (delta + delta / count) 0
  k + 36 * delta / (delta + 38)

/-- The characters after all insertions. The first number bounds the steps. -/
def insertAll (code place bias : Nat) (first : Bool) (label : List Char) :
    Nat → List Char → Option (List Char)
  | _, [] => some label
  | 0, _ => none
  | fuel + 1, rest =>
    match number? bias 36 1 place rest with
    | none => none
    | some (total, rest) =>
      let count := label.length + 1
      let code := code + total / count
      let at' := total % count
      if h : code.isValidChar then
        insertAll code (at' + 1) (adapt (total - place) count first) false
          (label.take at' ++ Char.ofNatAux code h :: label.drop at') fuel rest
      else none

/-- The characters that a label without its `xn--` stands for. A hyphen before the digits has
something before it. -/
def decode? (cs : List Char) : Option (List Char) :=
  let tail := (cs.reverse.takeWhile (· ≠ '-')).reverse
  let head := (cs.reverse.dropWhile (· ≠ '-')).reverse.dropLast
  if head = [] ∧ '-' ∈ cs then none else insertAll 128 0 72 true head (tail.length + 1) tail

end Rulebook.Url.Punycode
