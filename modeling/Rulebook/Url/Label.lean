import Rulebook.Text.Bidi
import Rulebook.Text.JoiningTable
import Rulebook.Text.Normal

/-!
# Labels

A label is a part of a name, between two points. It does not start with a mark, joins its letters
only where they can be joined, and, in a name with letters that are written from right to left, has
characters of fitting directions. With characters beyond ASCII it has at most a thousand of them.
-/

namespace Rulebook.Url.Label

open Rulebook.Text

/-- Whether a label starts with a mark. -/
def startsWithMark (label : List Char) : Bool :=
  label.head?.any JoiningTable.marks.has

/-- Whether the first character that joins or parts letters is one of a table. -/
def meets (letters : CodeTable) (cs : List Char) : Bool :=
  (cs.dropWhile JoiningTable.transparent.has).head?.any letters.has

/-- Whether a joiner stands right between what comes before it, the nearest first, and after it: it
follows the mark that mutes a vowel, or it parts two letters that would join. -/
def isJoinerRight (joiner : Char) (before after : List Char) : Bool :=
  before.head?.any fun c =>
    Normal.classOf c = 9 ||
      (joiner = '\u200c' && meets JoiningTable.joinsNext before &&
        meets JoiningTable.joinsPrevious after)

/-- Whether all joiners stand right, given what comes before them, the nearest first. -/
def areJoinersRight (before : List Char) : List Char → Bool
  | [] => true
  | c :: rest =>
    ((c ≠ '\u200c' && c ≠ '\u200d') || isJoinerRight c before rest) &&
      areJoinersRight (c :: before) rest

/-- The classes that a character within a label may have, whatever its direction. -/
def neutral : List Bidi :=
  [.europeanNumber, .europeanSeparator, .commonSeparator, .europeanTerminator, .otherNeutral,
    .boundaryNeutral, .nonspacingMark]

/-- Whether classes after the first are those of a label whose characters have some classes and
whose last one, marks apart, has one of some. -/
def runsTo (within last : List Bidi) (classes : List Bidi) : Bool :=
  let classes := (classes.reverse.dropWhile (· = .nonspacingMark)).reverse
  classes.all (· ∈ within) && classes.getLast?.all (· ∈ last)

/-- Whether the characters of a label have fitting directions. -/
def isDirected (label : List Char) : Bool :=
  match label.map Bidi.of with
  | [] => true
  | .left :: rest => runsTo (.left :: neutral) [.left, .europeanNumber] rest
  | .right :: rest | .arabicLetter :: rest =>
    runsTo (.right :: .arabicLetter :: .arabicNumber :: neutral)
        [.right, .arabicLetter, .europeanNumber, .arabicNumber] rest &&
      !(.europeanNumber ∈ rest && .arabicNumber ∈ rest)
  | _ => false

/-- The greatest number of characters of a label that is not all ASCII. -/
def limit : Nat :=
  1000

/-- Whether a label has characters beyond ASCII. -/
def isInternational (label : List Char) : Bool :=
  label.any fun c => 0x80 ≤ c.toNat

/-- Whether a label is one by itself, whatever the others are. -/
def isSound (label : List Char) : Bool :=
  !startsWithMark label && areJoinersRight [] label &&
    (!isInternational label || label.length ≤ limit)

/-- Whether the directions of labels fit. -/
def areDirected (labels : List (List Char)) : Bool :=
  labels.all isDirected || !labels.any fun label => label.any fun c => (Bidi.of c).isRightward

end Rulebook.Url.Label
