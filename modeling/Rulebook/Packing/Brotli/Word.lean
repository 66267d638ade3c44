import Rulebook.Packing.Brotli.WordTable
import Rulebook.Text.Utf8

/-!
# Common words

A common word is made of one of the table by a change: a part of the word or all of it, perhaps with
capitals, between two texts.
-/

namespace Rulebook.Packing.Brotli

/-- What a change does to the word. -/
inductive WordPart where
  | whole
  | dropFirst (count : Nat)
  | dropLast (count : Nat)
  | capital
  | capitals
deriving DecidableEq, Repr

/-- What is made of words, by number: the text before, the part of the word, and the text after. -/
def wordChanges : List (String × WordPart × String) :=
  [("", .whole, ""), ("", .whole, " "), (" ", .whole, " "), ("", .dropFirst 1, ""),
    ("", .capital, " "), ("", .whole, " the "), (" ", .whole, ""), ("s ", .whole, " "),
    ("", .whole, " of "), ("", .capital, ""), ("", .whole, " and "), ("", .dropFirst 2, ""),
    ("", .dropLast 1, ""), (", ", .whole, " "), ("", .whole, ", "), (" ", .capital, " "),
    ("", .whole, " in "), ("", .whole, " to "), ("e ", .whole, " "), ("", .whole, "\""),
    ("", .whole, "."), ("", .whole, "\">"), ("", .whole, "\n"), ("", .dropLast 3, ""),
    ("", .whole, "]"), ("", .whole, " for "), ("", .dropFirst 3, ""), ("", .dropLast 2, ""),
    ("", .whole, " a "), ("", .whole, " that "), (" ", .capital, ""), ("", .whole, ". "),
    (".", .whole, ""), (" ", .whole, ", "), ("", .dropFirst 4, ""), ("", .whole, " with "),
    ("", .whole, "'"), ("", .whole, " from "), ("", .whole, " by "), ("", .dropFirst 5, ""),
    ("", .dropFirst 6, ""), (" the ", .whole, ""), ("", .dropLast 4, ""), ("", .whole, ". The "),
    ("", .capitals, ""), ("", .whole, " on "), ("", .whole, " as "), ("", .whole, " is "),
    ("", .dropLast 7, ""), ("", .dropLast 1, "ing "), ("", .whole, "\n\t"), ("", .whole, ":"),
    (" ", .whole, ". "), ("", .whole, "ed "), ("", .dropFirst 9, ""), ("", .dropFirst 7, ""),
    ("", .dropLast 6, ""), ("", .whole, "("), ("", .capital, ", "), ("", .dropLast 8, ""),
    ("", .whole, " at "), ("", .whole, "ly "), (" the ", .whole, " of "), ("", .dropLast 5, ""),
    ("", .dropLast 9, ""), (" ", .capital, ", "), ("", .capital, "\""), (".", .whole, "("),
    ("", .capitals, " "), ("", .capital, "\">"), ("", .whole, "=\""), (" ", .whole, "."),
    (".com/", .whole, ""), (" the ", .whole, " of the "), ("", .capital, "'"),
    ("", .whole, ". This "), ("", .whole, ","), (".", .whole, " "), ("", .capital, "("),
    ("", .capital, "."), ("", .whole, " not "), (" ", .whole, "=\""), ("", .whole, "er "),
    (" ", .capitals, " "), ("", .whole, "al "), (" ", .capitals, ""), ("", .whole, "='"),
    ("", .capitals, "\""), ("", .capital, ". "), (" ", .whole, "("), ("", .whole, "ful "),
    (" ", .capital, ". "), ("", .whole, "ive "), ("", .whole, "less "), ("", .capitals, "'"),
    ("", .whole, "est "), (" ", .capital, "."), ("", .capitals, "\">"), (" ", .whole, "='"),
    ("", .capital, ","), ("", .whole, "ize "), ("", .capitals, "."), ("\u00a0", .whole, ""),
    (" ", .whole, ","), ("", .capital, "=\""), ("", .capitals, "=\""), ("", .whole, "ous "),
    ("", .capitals, ", "), ("", .capital, "='"), (" ", .capital, ","), (" ", .capitals, "=\""),
    (" ", .capitals, ", "), ("", .capitals, ","), ("", .capitals, "("), ("", .capitals, ". "),
    (" ", .capitals, "."), ("", .capitals, "='"), (" ", .capitals, ". "), (" ", .capital, "=\""),
    (" ", .capitals, "='"), (" ", .capital, "='")]

/-- A word whose first character is a capital, and the rest of it. The case of a character of two or
three bytes changes by its last byte, whether it has case or not. -/
def splitCapital : List UInt8 → List UInt8 × List UInt8
  | [] => ([], [])
  | a :: rest =>
    if a < 0xC0 then ([if 0x61 ≤ a ∧ a ≤ 0x7A then a.xor 0x20 else a], rest)
    else if a < 0xE0 then (a :: (rest.take 1).map (·.xor 0x20), rest.drop 1)
    else (a :: rest.take 1 ++ ((rest.drop 1).take 1).map (·.xor 0x05), rest.drop 2)

/-- A word in capitals. The first number bounds the steps. -/
def inCapitals : Nat → List UInt8 → List UInt8
  | _, [] => []
  | 0, word => word
  | fuel + 1, word =>
    let (first, rest) := splitCapital word
    first ++ inCapitals fuel rest

/-- The part of a word. -/
def WordPart.of (part : WordPart) (word : List UInt8) : List UInt8 :=
  match part with
  | .whole => word
  | .dropFirst count => word.drop count
  | .dropLast count => word.take (word.length - count)
  | .capital =>
    let (first, rest) := splitCapital word
    first ++ rest
  | .capitals => inCapitals word.length word

/-- The word of a length and a number: the number counts the words of the table of this length
first, and then the changes. -/
def word? (length number : Nat) : Option (List UInt8) := do
  let words ← wordTable.lookup length
  let count := words.size / length
  let (before, part, after) ← wordChanges[number / count]?
  let start := number % count * length
  let word := (words.extract start (start + length)).toList
  some (Text.Utf8.encode before ++ part.of word ++ Text.Utf8.encode after)

end Rulebook.Packing.Brotli
