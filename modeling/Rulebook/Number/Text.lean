import Rulebook.Number.Shortest

/-!
# How a double is written

A double is written with its shortest digits. When the first digit stands for a power of ten from
`10 ^ -5` to `10 ^ 15` the number is written plainly, with at least one digit after the point;
otherwise one digit stands before the point and the exponent follows, always with its sign.
-/

namespace Rulebook

namespace Decimal

/-- The range of leading powers written plainly, and the texts around an exponent. -/
structure Style where
  plainFrom : Int
  plainTo : Int
  mark : Char

/-- Numbers in documents and exports. -/
def documentStyle : Style :=
  ⟨-5, 15, 'e'⟩

/-- `digits` with the point after the first `whole` of them, zeros filling the gaps. -/
def plain (digits : List Char) (whole : Int) : List Char :=
  match whole with
  | .ofNat (k + 1) =>
    if digits.length ≤ k + 1 then
      digits ++ List.replicate (k + 1 - digits.length) '0' ++ ['.', '0']
    else digits.take (k + 1) ++ '.' :: digits.drop (k + 1)
  | .ofNat 0 => '0' :: '.' :: digits
  | .negSucc k => '0' :: '.' :: (List.replicate (k + 1) '0' ++ digits)

/-- One digit, the others after a point if there are any, and the exponent. -/
def scientific (mark : Char) (digits : List Char) (power : Int) : List Char :=
  let fraction :=
    match digits.drop 1 with
    | [] => []
    | rest => '.' :: rest
  let sign := if power < 0 then '-' else '+'
  digits.take 1 ++ fraction ++ mark :: sign :: digitsOf power.natAbs

/-- The text of a positive decimal. -/
def render (style : Style) (x : Decimal) : List Char :=
  let digits := digitsOf x.digits
  let power := x.power + Int.ofNat digits.length - 1
  if style.plainFrom ≤ power && power ≤ style.plainTo then plain digits (power + 1)
  else scientific style.mark digits power

end Decimal

namespace Binary64

/-- The text of a double; a negative zero keeps its sign. -/
def render (x : Binary64) : List Char :=
  let magnitude :=
    if x.mantissa = 0 then ['0', '.', '0'] else Decimal.render Decimal.documentStyle x.shortest
  if x.negative then '-' :: magnitude else magnitude

end Binary64

end Rulebook
