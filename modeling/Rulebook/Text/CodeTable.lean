/-!
# Tables of characters

A table is read from a text of entries with blanks and line ends between them. An entry is a
character number in hexadecimal, or a range of them such as `300-36F`, and what the table holds for
it: numbers after an equals sign, with points between them, or none.
-/

namespace Rulebook.Text

/-- The characters `first` to `last` and the numbers that a table holds for them. -/
structure CodeRow where
  first : Nat
  last : Nat
  codes : List Nat
deriving DecidableEq, Repr

/-- A table of characters, in ascending order. -/
abbrev CodeTable :=
  List CodeRow

namespace CodeRow

/-- The number that hexadecimal digits in capitals stand for. -/
def number (digits : List Char) : Nat :=
  digits.foldl (fun n c =>
    n * 16 + if c.isDigit then c.toNat - '0'.toNat else c.toNat - 'A'.toNat + 10) 0

/-- What stands before and after a sign. -/
def cut (sign : Char) (cs : List Char) : List Char × List Char :=
  (cs.takeWhile (· ≠ sign), (cs.dropWhile (· ≠ sign)).drop 1)

/-- An entry. -/
def ofText (cs : List Char) : CodeRow :=
  let (range, codes) := cut '=' cs
  let (first, last) := cut '-' range
  ⟨number first, number (if last = [] then first else last),
    if codes = [] then [] else (codes.splitOn '.').map number⟩

end CodeRow

namespace CodeTable

/-- The table a text holds. -/
def ofText (s : String) : CodeTable :=
  ((s.toList.splitOnP fun c => c = ' ' || c = '\n').filter (! ·.isEmpty)).map CodeRow.ofText

/-- The entry about a character. -/
def row? : CodeTable → Char → Option CodeRow
  | [], _ => none
  | r :: rest, c =>
    if c.toNat < r.first then none else if c.toNat ≤ r.last then some r else row? rest c

/-- Whether a table has an entry about a character. -/
def has (t : CodeTable) (c : Char) : Bool :=
  (t.row? c).isSome

end CodeTable

end Rulebook.Text
