/-!
# White space

A character is blank when it has the Unicode property `White_Space`: 25 characters, among them the
next-line control, the no-break space and the ideographic space. The zero-width space and the
byte-order mark are not blank. Trimming, and the question whether a text says anything at all, both
rest on this one predicate.
-/

namespace Rulebook.Text

/-- The Unicode property `White_Space`. -/
def isBlank (c : Char) : Bool :=
  let n := c.toNat
  (0x09 ≤ n && n ≤ 0x0D) || n == 0x20 || n == 0x85 || n == 0xA0 || n == 0x1680 ||
    (0x2000 ≤ n && n ≤ 0x200A) || n == 0x2028 || n == 0x2029 || n == 0x202F || n == 0x205F ||
    n == 0x3000

/-- The characters from the first one that is not blank on. -/
def trimStart (cs : List Char) : List Char :=
  cs.dropWhile isBlank

/-- The characters up to the last one that is not blank. -/
def trimEnd (cs : List Char) : List Char :=
  (cs.reverse.dropWhile isBlank).reverse

/-- A text without the blanks around it. -/
def trim (s : String) : String :=
  String.ofList (trimEnd (trimStart s.toList))

/-- A text that holds blanks only, or nothing. -/
def saysNothing (s : String) : Bool :=
  s.toList.all isBlank

end Rulebook.Text
