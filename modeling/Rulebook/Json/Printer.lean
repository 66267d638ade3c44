import Rulebook.Json.Basic

/-!
# Writing JSON

Values are written without blanks. In a text the quote, the backslash and the control characters
below the blank are escaped, the common controls by a letter and the others by four hexadecimal
digits; every other character stands for itself.
-/

namespace Rulebook.Json

/-- A hexadecimal digit in lower case. -/
def hexDigit (n : Nat) : Char :=
  if n < 10 then Char.ofNat ('0'.toNat + n) else Char.ofNat ('a'.toNat + (n - 10))

/-- One character inside quotes. -/
def escapeChar (c : Char) : List Char :=
  if c = '"' then ['\\', '"']
  else if c = '\\' then ['\\', '\\']
  else if c = '\x08' then ['\\', 'b']
  else if c = '\x0c' then ['\\', 'f']
  else if c = '\n' then ['\\', 'n']
  else if c = '\r' then ['\\', 'r']
  else if c = '\t' then ['\\', 't']
  else if c.toNat < 0x20 then
    ['\\', 'u', '0', '0', hexDigit (c.toNat / 16), hexDigit (c.toNat % 16)]
  else [c]

/-- A text in quotes. -/
def renderText (s : String) : List Char :=
  '"' :: (s.toList.flatMap escapeChar ++ ['"'])

mutual

/-- The characters of a value. -/
def renderChars : Json → List Char
  | .null => ['n', 'u', 'l', 'l']
  | .bool true => ['t', 'r', 'u', 'e']
  | .bool false => ['f', 'a', 'l', 's', 'e']
  | .number n => n.render
  | .string s => renderText s
  | .array items => '[' :: (renderItems true items ++ [']'])
  | .object members => '\x7b' :: (renderMembers true members ++ ['\x7d'])

/-- Items with commas between them. -/
def renderItems (first : Bool) : List Json → List Char
  | [] => []
  | x :: xs => (if first then [] else [',']) ++ renderChars x ++ renderItems false xs

/-- Members with commas between them. -/
def renderMembers (first : Bool) : List (String × Json) → List Char
  | [] => []
  | (k, x) :: xs =>
    (if first then [] else [',']) ++ renderText k ++
      ':' :: (renderChars x ++ renderMembers false xs)

end

/-- The text of a value. -/
def render (v : Json) : String :=
  String.ofList (renderChars v)

end Rulebook.Json
