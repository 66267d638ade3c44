import Rulebook.Json.Number
import Rulebook.Text.Blank
import Rulebook.Text.Utf8

/-!
# Variables and what they say

A service is started with variables, each set to a text or absent. A setting reads such a text as
a value: a truth word, a whole number, a number with a point, a text, a list or a table. A text
that has commas and does not open with a quote or a bracket is a list. What no rule covers to its
end is a text as it stands.
-/

namespace Rulebook

/-- The variables a service is started with. -/
abbrev Environment := String → Option String

/-- What a variable says. Settings take no fractions, lists and tables, so what these hold is left
out. -/
inductive SettingValue where
  | truth (b : Bool)
  | whole (n : Int)
  | fraction
  | text (s : String)
  | nested
deriving DecidableEq, Repr

namespace SettingValue

/-- A blank between the parts of a value. -/
def isSpace (c : Char) : Bool :=
  c ∈ [' ', '\t', '\n', '\r', '\x0c']

/-- A character that belongs to a bare word. -/
def isBare (c : Char) : Bool :=
  c ∉ [',', '\x7b', '\x7d', '[', ']']

/-- A character of the name of an entry. -/
def isNameChar (c : Char) : Bool :=
  c.isAlphanum || c == '_' || c == '-'

/-- One or more decimal digits. -/
def isDigits (cs : List Char) : Bool :=
  !cs.isEmpty && cs.all Char.isDigit

/-- A text without one sign at its start. -/
def afterSign : List Char → List Char
  | '+' :: rest | '-' :: rest => rest
  | cs => cs

/-- A whole number that 64 bits hold, with or without a sign. -/
def readWhole? (cs : List Char) : Option Int :=
  let digits := afterSign cs
  let size := Int.ofNat (Json.Number.naturalOf digits)
  let n := if cs.head? = some '-' then -size else size
  if isDigits digits ∧ -0x8000000000000000 ≤ n ∧ n < 0x10000000000000000 then some n else none

/-- Whether a text is a number with a point: digits on one side of it at least, and an exponent or
none. -/
def isFraction (cs : List Char) : Bool :=
  let (before, fromPoint) := (afterSign cs).span Char.isDigit
  let (after, rest) := (fromPoint.drop 1).span Char.isDigit
  let exponent :=
    match rest with
    | 'e' :: power | 'E' :: power => isDigits (afterSign power)
    | _ => rest.isEmpty
  fromPoint.head? = some '.' && !(before ++ after).isEmpty && exponent

/-- What a bare word says. -/
def ofWord (word : List Char) : SettingValue :=
  if isFraction word then .fraction
  else
    match readWhole? word with
    | some n => .whole n
    | none => .text (String.ofList word)

/-- The character of a hexadecimal code. -/
def ofCode? (digits : List Char) : Option Char :=
  if digits.all fun c => c.isDigit || c.toLower ∈ ['a', 'b', 'c', 'd', 'e', 'f'] then
    let code := digits.foldl (fun n c =>
      n * 16 + if c.isDigit then Json.Number.digitValue c else c.toLower.toNat - 87) 0
    if code.isValidChar then some (Char.ofNat code) else none
  else none

/-- A character that a quoted text holds as it is. -/
def isPrintable (c : Char) : Bool :=
  c == '\t' || (' ' ≤ c && c != '\x7f')

/-- What stands between quotes, from after the opening one, and what follows the closing one. A
backslash takes the character after it along. -/
def betweenQuotes? : List Char → Option (List Char × List Char)
  | '"' :: rest => some ([], rest)
  | '\\' :: c :: rest => (betweenQuotes? rest).map fun (xs, rest) => ('\\' :: c :: xs, rest)
  | c :: rest => (betweenQuotes? rest).map fun (xs, rest) => (c :: xs, rest)
  | [] => none

/-- Text with its escapes undone, if it has no other ones and only printable characters. -/
def unescape? : List Char → Option (List Char)
  | '\\' :: 'u' :: a :: b :: c :: d :: rest => do
    let x ← ofCode? [a, b, c, d]
    return x :: (← unescape? rest)
  | '\\' :: 'U' :: a :: b :: c :: d :: e :: f :: g :: h :: rest => do
    let x ← ofCode? [a, b, c, d, e, f, g, h]
    return x :: (← unescape? rest)
  | '\\' :: c :: rest => do
    let x ← [('"', '"'), ('\\', '\\'), ('b', '\x08'), ('f', '\x0c'), ('n', '\n'), ('r', '\r'),
      ('t', '\t')].lookup c
    return x :: (← unescape? rest)
  | ['\\'] => none
  | c :: rest => if isPrintable c then (unescape? rest).map (c :: ·) else none
  | [] => some []

/-- The text that stands between quotes. Of what stands before the first escape it keeps as many
bytes as there are characters. -/
def ofQuoted? (cs : List Char) : Option (List Char) := do
  let text ← unescape? cs
  let before := cs.takeWhile (· ≠ '\\')
  if before = cs then return text
  else
    let kept ← Text.Utf8.decode? ((Text.Utf8.encode (String.ofList before)).take before.length)
    return kept.toList ++ text.drop before.length

/-- A quoted text from after its opening quote, and what follows its closing one. -/
def quoted? (cs : List Char) : Option (List Char × List Char) := do
  let (inner, rest) ← betweenQuotes? cs
  return (← ofQuoted? inner, rest)

/-- What follows a word at the start of a text, in any case. -/
def after? (word cs : List Char) : Option (List Char) :=
  if word.isPrefixOf (cs.map Char.toLower) then some (cs.drop word.length) else none

/-- The name of an entry: bare, or in quotes. Gives what follows it. -/
def afterName? : List Char → Option (List Char)
  | '"' :: rest => (quoted? rest).map (·.2)
  | cs => if (cs.head?.map isNameChar).getD false then some (cs.dropWhile isNameChar) else none

mutual

/-- A value at the start of a text and what follows it. -/
def value? : Nat → List Char → Option (SettingValue × List Char)
  | 0, _ => none
  | fuel + 1, cs => do
    let cs := cs.dropWhile isSpace
    let (v, rest) ←
      match after? "true".toList cs, after? "false".toList cs, cs with
      | some rest, _, _ => some (.truth true, rest)
      | none, some rest, _ => some (.truth false, rest)
      | none, none, '\x7b' :: rest => (entries? fuel rest).map fun rest => (.nested, rest)
      | none, none, '[' :: rest => (items? fuel rest).map fun rest => (.nested, rest)
      | none, none, '"' :: rest =>
        (quoted? rest).map fun (s, rest) => (.text (String.ofList s), rest)
      | none, none, '\'' :: c :: '\'' :: rest => some (.text (String.singleton c), rest)
      | none, none, '\'' :: _ => none
      | none, none, cs =>
        let (word, rest) := cs.span isBare
        some (ofWord (Text.trim (String.ofList word)).toList, rest)
    return (v, rest.dropWhile isSpace)

/-- What follows a list, from after its opening bracket. -/
def items? : Nat → List Char → Option (List Char)
  | _, ']' :: rest => some rest
  | 0, _ => none
  | fuel + 1, cs => do
    let (_, rest) ← value? fuel cs
    match rest with
    | ',' :: rest => items? fuel rest
    | ']' :: rest => return rest
    | _ => none

/-- What follows a table, from after its opening brace. -/
def entries? : Nat → List Char → Option (List Char)
  | _, '\x7d' :: rest => some rest
  | 0, _ => none
  | fuel + 1, cs => do
    let rest ← afterName? (cs.dropWhile isSpace)
    match rest.dropWhile isSpace with
    | '=' :: rest =>
      let (_, rest) ← value? fuel rest
      match rest with
      | ',' :: rest => entries? fuel rest
      | '\x7d' :: rest => return rest
      | _ => none
    | _ => none

end

/-- Whether a text is a list because of its commas. -/
def isSeries (cs : List Char) : Bool :=
  ',' ∈ cs && cs.head?.all fun c => c ∉ ['[', '\x7b', '"', '\'']

/-- What a variable says. -/
def read (s : String) : SettingValue :=
  let s := Text.trim s
  if isSeries s.toList then .nested
  else
    match value? (2 * s.length + 2) s.toList with
    | some (v, []) => v
    | _ => .text s

/-- The text a value is; a number is none. -/
def text? : SettingValue → Option String
  | .text s => some s
  | _ => none

/-- The natural number below `2 ^ bits` a value is. -/
def nat? (bits : Nat) : SettingValue → Option Nat
  | .whole n => if 0 ≤ n ∧ n < Nat.pow 2 bits then some n.toNat else none
  | _ => none

end SettingValue

end Rulebook
