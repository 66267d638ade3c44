import Rulebook.Text.BidiTable

/-!
# Writing directions

The bidirectional class of a character says in which direction it is written, or that it takes the
direction of what stands around it.
-/

namespace Rulebook.Text

/-- Bidirectional classes. -/
inductive Bidi where
  | left
  | right
  | arabicLetter
  | europeanNumber
  | arabicNumber
  | europeanSeparator
  | europeanTerminator
  | commonSeparator
  | nonspacingMark
  | boundaryNeutral
  | otherNeutral
  | separator
deriving DecidableEq, Repr

namespace Bidi

/-- The classes with their tables; all other characters are written from left to right. -/
def tables : List (CodeTable × Bidi) :=
  [(BidiTable.right, right), (BidiTable.arabicLetter, arabicLetter),
    (BidiTable.europeanNumber, europeanNumber), (BidiTable.arabicNumber, arabicNumber),
    (BidiTable.europeanSeparator, europeanSeparator),
    (BidiTable.europeanTerminator, europeanTerminator),
    (BidiTable.commonSeparator, commonSeparator), (BidiTable.nonspacingMark, nonspacingMark),
    (BidiTable.boundaryNeutral, boundaryNeutral), (BidiTable.otherNeutral, otherNeutral),
    (BidiTable.separator, separator)]

/-- The class of a character. -/
def of (c : Char) : Bidi :=
  match tables.find? (·.1.has c) with
  | some (_, b) => b
  | none => left

/-- Whether a class makes the text around it one that is also written from right to left. -/
def isRightward (b : Bidi) : Bool :=
  b = right || b = arabicLetter || b = arabicNumber

end Bidi

end Rulebook.Text
