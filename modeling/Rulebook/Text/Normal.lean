import Rulebook.Text.NormalTable

/-!
# Composed form

A letter with marks can be written in several ways. In the composed form (Unicode's form C) a
character that is always written as others is written as those, the marks of a letter stand in the
order of their classes, and a letter and a mark are one character wherever there is one for them.
-/

namespace Rulebook.Text

namespace Normal

open NormalTable

/-- The combining class of a character: zero for all but marks. -/
def classOf (c : Char) : Nat :=
  match classes.row? c with
  | some ⟨_, _, n :: _⟩ => n
  | _ => 0

/-- The Korean letters of a syllable. -/
def syllableParts? (c : Char) : Option (List Char) :=
  let n := c.toNat
  if 0xAC00 ≤ n ∧ n ≤ 0xD7A3 then
    let i := n - 0xAC00
    let final := i % 28
    some (Char.ofNat (0x1100 + i / 588) :: Char.ofNat (0x1161 + i % 588 / 28) ::
      if final = 0 then [] else [Char.ofNat (0x11A7 + final)])
  else none

/-- The Korean syllable of two letters, or of a syllable without a final letter and one. -/
def syllable? (a b : Char) : Option Char :=
  let m := a.toNat
  let n := b.toNat
  if 0x1100 ≤ m ∧ m ≤ 0x1112 ∧ 0x1161 ≤ n ∧ n ≤ 0x1175 then
    some (Char.ofNat (0xAC00 + ((m - 0x1100) * 21 + (n - 0x1161)) * 28))
  else if 0xAC00 ≤ m ∧ m ≤ 0xD7A3 ∧ (m - 0xAC00) % 28 = 0 ∧ 0x11A8 ≤ n ∧ n ≤ 0x11C2 then
    some (Char.ofNat (m + (n - 0x11A7)))
  else none

/-- The characters a character is made of. The first number bounds how often a part is taken apart
again. -/
def parts : Nat → Char → List Char
  | 0, c => [c]
  | fuel + 1, c =>
    match syllableParts? c, replaced.row? c, composites.row? c with
    | some cs, _, _ => cs
    | none, some r, _ => r.codes.map Char.ofNat
    | none, none, some ⟨_, _, [a, b]⟩ => parts fuel (Char.ofNat a) ++ [Char.ofNat b]
    | _, _, _ => [c]

/-- A character put before marks: behind those of lower classes. -/
def insertMark (c : Char) : List Char → List Char
  | [] => [c]
  | d :: rest =>
    if classOf d ≠ 0 ∧ classOf d < classOf c then d :: insertMark c rest else c :: d :: rest

/-- The character that is made of two. -/
def composite? (a b : Char) : Option Char :=
  match syllable? a b with
  | some c => some c
  | none =>
    (composites.find? fun r => r.codes = [a.toNat, b.toNat]).map fun r => Char.ofNat r.first

/-- Characters composed after a letter, given the marks that stay behind it, the last one first. A
mark meets the letter unless one of its class or a higher one stands between them. -/
def composeAfter (letter : Char) (marks : List Char) : List Char → List Char
  | [] => letter :: marks.reverse
  | c :: rest =>
    let isFree := match marks with
      | [] => true
      | m :: _ => classOf m < classOf c
    match if isFree then composite? letter c else none with
    | some letter => composeAfter letter marks rest
    | none =>
      if classOf c = 0 then letter :: (marks.reverse ++ composeAfter c [] rest)
      else composeAfter letter (c :: marks) rest

/-- Characters composed from the first letter on. -/
def compose : List Char → List Char
  | [] => []
  | c :: rest => if classOf c = 0 then composeAfter c [] rest else c :: compose rest

end Normal

/-- A text in composed form. -/
def composed (cs : List Char) : List Char :=
  Normal.compose ((cs.flatMap (Normal.parts 4)).foldr Normal.insertMark [])

end Rulebook.Text
