/-!
# Characters by number

The character sets of East Asia give a number to each of their characters. An index is made of
pieces: characters of consecutive numbers, from a text, from a run of Unicode, or laid out in order
over some ranges of numbers.
-/

namespace Rulebook.Text

/-- Characters of consecutive numbers. -/
structure CharPiece where
  start : Nat
  chars : Array Char

/-- Characters by number. -/
abbrev CharIndex :=
  List CharPiece

namespace CharIndex

/-- The index of texts and the numbers of their first characters. Blanks and line ends do not
count. -/
def ofTexts (texts : List (Nat × String)) : CharIndex :=
  texts.map fun (start, s) => ⟨start, (s.toList.filter fun c => c ≠ ' ' && c ≠ '\n').toArray⟩

/-- The index of characters that are consecutive in Unicode too. -/
def ofRun (start count code : Nat) : CharIndex :=
  [⟨start, ((List.range count).map fun i => Char.ofNat (code + i)).toArray⟩]

/-- The index of characters laid out over ranges of numbers, each given by its first number and how
many there are. -/
def layOut : List (Nat × Nat) → List Char → CharIndex
  | [], _ => []
  | (start, count) :: ranges, cs =>
    ⟨start, (cs.take count).toArray⟩ :: layOut ranges (cs.drop count)

/-- All characters of an index. -/
def chars (x : CharIndex) : List Char :=
  x.flatMap fun piece => piece.chars.toList

/-- The character of a number; the replacement character stands for none. -/
def get? (x : CharIndex) (n : Nat) : Option Char :=
  (x.findSome? fun piece => if piece.start ≤ n then piece.chars[n - piece.start]? else none).filter
    (· ≠ '\uFFFD')

end CharIndex

/-- The codes from `first` on, `count` of them, that are not among some in ascending order. -/
def codesBut (first : Nat) : Nat → List Nat → List Nat
  | 0, _ => []
  | count + 1, [] => first :: codesBut (first + 1) count []
  | count + 1, n :: ns =>
    if n = first then codesBut (first + 1) count ns
    else first :: codesBut (first + 1) count (n :: ns)

end Rulebook.Text
