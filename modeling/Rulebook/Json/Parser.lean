import Rulebook.Json.Raw
import Rulebook.Text.Utf8

/-!
# Reading JSON text

`Raw.parse?` checks a whole text against the grammar and gives its tree; `Raw.scan` also gives the
tree of a text that breaks off. Blanks are the four ASCII ones. A string may not hold a bare control
character; a number has no leading zero and at least one digit after a point or an exponent mark.
Lists and objects nested more than 127 deep are checked but have no value.

`Raw.parseBytes?` reads bytes. All marks of the grammar are ASCII, so bytes are checked against it
as they stand, each seen as the character of its number. Whether they are UTF-8 matters inside
strings alone, and there for each string by itself: one that is not has no value, which is a fault
only for a reader that needs it.
-/

namespace Rulebook.Json

namespace Raw

/-- The blanks between tokens. -/
def isSpace (c : Char) : Bool :=
  c = ' ' || c = '\n' || c = '\t' || c = '\r'

/-- The rest after blanks. -/
def skipSpace (cs : List Char) : List Char :=
  cs.dropWhile isSpace

/-- A piece of a text: a character, or a UTF-16 unit written as four hexadecimal digits. -/
inductive Piece where
  | char (c : Char)
  | unit (n : Nat)

/-- The value of a hexadecimal digit. -/
def hexValue? (c : Char) : Option Nat :=
  if '0' ≤ c && c ≤ '9' then some (c.toNat - '0'.toNat)
  else if 'a' ≤ c && c ≤ 'f' then some (c.toNat - 'a'.toNat + 10)
  else if 'A' ≤ c && c ≤ 'F' then some (c.toNat - 'A'.toNat + 10)
  else none

/-- The value of four hexadecimal digits. -/
def unitOf? (a b c d : Char) : Option Nat :=
  match hexValue? a, hexValue? b, hexValue? c, hexValue? d with
  | some a, some b, some c, some d => some (((a * 16 + b) * 16 + c) * 16 + d)
  | _, _, _, _ => none

/-- The character of a one-letter escape. -/
def escape? (c : Char) : Option Char :=
  if c = '"' then some '"'
  else if c = '\\' then some '\\'
  else if c = '/' then some '/'
  else if c = 'b' then some '\x08'
  else if c = 'f' then some '\x0c'
  else if c = 'n' then some '\n'
  else if c = 'r' then some '\r'
  else if c = 't' then some '\t'
  else none

/-- The pieces of a text up to its closing quote, and the rest. -/
def pieces? : List Char → Option (List Piece × List Char)
  | [] => none
  | '"' :: rest => some ([], rest)
  | '\\' :: 'u' :: a :: b :: c :: d :: rest =>
    match unitOf? a b c d, pieces? rest with
    | some n, some (ps, rest) => some (.unit n :: ps, rest)
    | _, _ => none
  | '\\' :: e :: rest =>
    match escape? e, pieces? rest with
    | some c, some (ps, rest) => some (.char c :: ps, rest)
    | _, _ => none
  | c :: rest =>
    if c = '\\' || c.toNat < 0x20 then none
    else
      match pieces? rest with
      | some (ps, rest) => some (.char c :: ps, rest)
      | none => none

/-- What pieces spell: `plain` says what a character spells that stands for itself, and `coded` what
one does that is written by number. Units are joined in pairs where they are surrogates; nothing
when one stands alone. -/
def spelled? {α : Type} (plain coded : Char → List α) : List Piece → Option (List α)
  | [] => some []
  | .char c :: ps => (spelled? plain coded ps).map (plain c ++ ·)
  | .unit n :: ps =>
    if 0xD800 ≤ n && n ≤ 0xDBFF then
      match ps with
      | .unit m :: ps =>
        if 0xDC00 ≤ m && m ≤ 0xDFFF then
          (spelled? plain coded ps).map
            (coded (Char.ofNat (0x10000 + (n - 0xD800) * 0x400 + (m - 0xDC00))) ++ ·)
        else none
      | _ => none
    else if 0xDC00 ≤ n && n ≤ 0xDFFF then none
    else (spelled? plain coded ps).map (coded (Char.ofNat n) ++ ·)

/-- The string of pieces in a text. -/
def charString? (ps : List Piece) : Option String :=
  (spelled? (fun c => [c]) (fun c => [c]) ps).map String.ofList

/-- The string of pieces in bytes; nothing when its bytes are not UTF-8. -/
def byteString? (ps : List Piece) : Option String :=
  (spelled? (fun c => [c.toNat.toUInt8]) Text.Utf8.encodeChar ps).bind Text.Utf8.decode?

/-- One or more digits, and the rest. -/
def digits? (cs : List Char) : Option (List Char × List Char) :=
  match cs.takeWhile Char.isDigit with
  | [] => none
  | ds => some (ds, cs.dropWhile Char.isDigit)

/-- The digits before the point: a zero alone, or digits that do not begin with zero. -/
def whole? (cs : List Char) : Option (List Char × List Char) :=
  match digits? cs with
  | some ('0' :: _ :: _, _) => none
  | r => r

/-- The digits after a point, if there is one. -/
def fraction? : List Char → Option (Option (List Char) × List Char)
  | '.' :: rest => (digits? rest).map fun (ds, rest) => (some ds, rest)
  | rest => some (none, rest)

/-- The sign and digits of an exponent, if there is one. -/
def exponent? : List Char → Option (Option (Bool × List Char) × List Char)
  | [] => some (none, [])
  | c :: rest =>
    if c = 'e' || c = 'E' then
      match rest with
      | '-' :: rest => (digits? rest).map fun (ds, rest) => (some (true, ds), rest)
      | '+' :: rest => (digits? rest).map fun (ds, rest) => (some (false, ds), rest)
      | rest => (digits? rest).map fun (ds, rest) => (some (false, ds), rest)
    else some (none, c :: rest)

/-- A number literal whose sign has been read, and the rest. -/
def unsigned? (negative : Bool) (cs : List Char) : Option (Number.Literal × List Char) :=
  (whole? cs).bind fun (whole, rest) =>
    (fraction? rest).bind fun (fraction, rest) =>
      (exponent? rest).map fun (exponent, rest) => (⟨negative, whole, fraction, exponent⟩, rest)

/-- A number literal, and the rest. -/
def literal? : List Char → Option (Number.Literal × List Char)
  | '-' :: rest => unsigned? true rest
  | rest => unsigned? false rest

/-- A list or object at a depth, which past 127 has no value. -/
def nested (depth : Nat) (tree : Raw) : Raw :=
  if depth ≤ 127 then tree else .tooDeep

/-- A keyword or a number, and the rest. -/
def atom : List Char → Raw × Option (List Char)
  | 't' :: 'r' :: 'u' :: 'e' :: rest => (.bool true, some rest)
  | 'f' :: 'a' :: 'l' :: 's' :: 'e' :: rest => (.bool false, some rest)
  | 'n' :: 'u' :: 'l' :: 'l' :: rest => (.null, some rest)
  | rest =>
    match literal? rest with
    | some (l, rest) => (.number (Number.ofLiteral l), some rest)
    | none => (.broken, none)

section

-- what the pieces of a string come to
variable (spell : List Piece → Option String)

/-- A string whose opening quote has been read, and the rest. -/
def text? (cs : List Char) : Option (Option String × List Char) :=
  (pieces? cs).map fun (ps, rest) => (spell ps, rest)

mutual

/-- A value after blanks, and the rest; no rest where the grammar is broken. The first number bounds
the steps, the second counts the lists and objects around the value. -/
def value : Nat → Nat → List Char → Raw × Option (List Char)
  | 0, _, _ => (.broken, none)
  | fuel + 1, depth, cs =>
    match skipSpace cs with
    | [] => (.broken, none)
    | '"' :: rest =>
      match text? spell rest with
      | some (s, rest) => (.string s, some rest)
      | none => (.broken, none)
    | '[' :: rest =>
      match skipSpace rest with
      | ']' :: rest => (nested (depth + 1) (.array []), some rest)
      | _ =>
        let (xs, rest) := items fuel (depth + 1) rest
        (nested (depth + 1) (.array xs), rest)
    | '\x7b' :: rest =>
      match skipSpace rest with
      | '\x7d' :: rest => (nested (depth + 1) (.object []), some rest)
      | _ =>
        let (ms, rest) := members fuel (depth + 1) rest
        (nested (depth + 1) (.object ms), rest)
    | rest => atom rest

/-- The items of a list that has at least one, up to its closing bracket, and the rest. -/
def items : Nat → Nat → List Char → List Raw × Option (List Char)
  | 0, _, _ => ([.broken], none)
  | fuel + 1, depth, cs =>
    match value fuel depth cs with
    | (x, none) => ([x, .broken], none)
    | (x, some rest) =>
      match skipSpace rest with
      | ']' :: rest => ([x], some rest)
      | ',' :: rest =>
        let (xs, rest) := items fuel depth rest
        (x :: xs, rest)
      | _ => ([x, .broken], none)

/-- The members of an object that has at least one, up to its closing brace, and the rest. -/
def members : Nat → Nat → List Char → List (Option String × Raw) × Option (List Char)
  | 0, _, _ => ([(none, .broken)], none)
  | fuel + 1, depth, cs =>
    match skipSpace cs with
    | '"' :: rest =>
      match text? spell rest with
      | none => ([(none, .broken)], none)
      | some (key, rest) =>
        match skipSpace rest with
        | ':' :: rest =>
          match value fuel depth rest with
          | (x, none) => ([(key, x), (none, .broken)], none)
          | (x, some rest) =>
            match skipSpace rest with
            | '\x7d' :: rest => ([(key, x)], some rest)
            | ',' :: rest =>
              let (ms, rest) := members fuel depth rest
              ((key, x) :: ms, rest)
            | _ => ([(key, x), (none, .broken)], none)
        | _ => ([(none, .broken)], none)
    | _ => ([(none, .broken)], none)

end

/-- The tree of characters as far as their grammar holds, and whether they are one JSON value and
nothing else. -/
def scanChars (cs : List Char) : Raw × Bool :=
  let (tree, rest) := value spell (cs.length + 1) 0 cs
  (tree, rest.any fun rest => (skipSpace rest).isEmpty)

/-- The tree of characters that are one JSON value and nothing else. -/
def parseChars? (cs : List Char) : Option Raw :=
  match scanChars spell cs with
  | (tree, true) => some tree
  | (_, false) => none

end

/-- The tree of a text as far as its grammar holds, and whether it is one JSON value and nothing
else. -/
def scan (s : String) : Raw × Bool :=
  scanChars charString? s.toList

/-- The tree of a text that is one JSON value and nothing else. -/
def parse? (s : String) : Option Raw :=
  parseChars? charString? s.toList

/-- The tree of bytes that are one JSON value and nothing else. -/
def parseBytes? (bytes : List UInt8) : Option Raw :=
  parseChars? byteString? (bytes.map fun b => Char.ofNat b.toNat)

end Raw

/-- The value of a text that is one JSON value and nothing else. -/
def parse? (s : String) : Option Json :=
  (Raw.parse? s).bind Raw.value?

end Rulebook.Json
