/-!
# Trace ids

A trace id is a UUID: 32 hexadecimal digits, written in lower case in groups of 8, 4, 4, 4 and 12
with hyphens between them. It is read in four spellings, digits in either case: as written, without
the hyphens, in braces, and after `urn:uuid:`. What is written is read back as the same id.
-/

namespace Rulebook

/-- A trace id, by its hexadecimal digits. -/
structure TraceId where
  digits : List (Fin 16)
  length_eq : digits.length = 32
deriving DecidableEq

namespace TraceId

/-- The id of 32 digits. -/
def ofDigits? (digits : List (Fin 16)) : Option TraceId :=
  if h : digits.length = 32 then some ⟨digits, h⟩ else none

/-- The character of a digit, in lower case. -/
def digitChar (d : Fin 16) : Char :=
  Nat.digitChar d.val

/-- The digit a character stands for, in either case. -/
def digit? (c : Char) : Option (Fin 16) :=
  if '0' ≤ c ∧ c ≤ '9' then some (Fin.ofNat 16 (c.toNat - '0'.toNat))
  else if 'a' ≤ c ∧ c ≤ 'f' then some (Fin.ofNat 16 (c.toNat - 'a'.toNat + 10))
  else if 'A' ≤ c ∧ c ≤ 'F' then some (Fin.ofNat 16 (c.toNat - 'A'.toNat + 10))
  else none

/-- Hyphens after the 8th, 12th, 16th and 20th of 32 characters. -/
def hyphenate (cs : List Char) : List Char :=
  cs.take 8 ++ '-' :: ((cs.drop 8).take 4 ++ '-' :: ((cs.drop 12).take 4 ++ '-' ::
    ((cs.drop 16).take 4 ++ '-' :: cs.drop 20)))

/-- The written form. -/
def renderChars (t : TraceId) : List Char :=
  hyphenate (t.digits.map digitChar)

/-- The written form. -/
def render (t : TraceId) : String :=
  String.ofList t.renderChars

/-- Characters that are all digits, as digits. -/
def digits? (cs : List Char) : Option (List (Fin 16)) :=
  cs.mapM digit?

/-- The id of 32 digits without hyphens. -/
def parsePlain? (cs : List Char) : Option TraceId :=
  (digits? cs).bind ofDigits?

/-- The characters of a hyphenated id without its hyphens, which stand at four fixed places. -/
def unhyphenate? (cs : List Char) : Option (List Char) :=
  if cs.length = 36 ∧ cs[8]? = some '-' ∧ cs[13]? = some '-' ∧ cs[18]? = some '-' ∧
      cs[23]? = some '-' then
    some (cs.take 8 ++ (cs.drop 9).take 4 ++ (cs.drop 14).take 4 ++ (cs.drop 19).take 4 ++
      cs.drop 24)
  else none

/-- The id of 32 digits with hyphens. -/
def parseHyphenated? (cs : List Char) : Option TraceId :=
  (unhyphenate? cs).bind parsePlain?

/-- The id a text stands for, in any of the four spellings. -/
def parseChars? (cs : List Char) : Option TraceId :=
  if cs.length = 32 then parsePlain? cs
  else if cs.length = 36 then parseHyphenated? cs
  else if cs.length = 38 then
    if cs.head? = some '\x7b' ∧ cs.getLast? = some '\x7d' then
      parseHyphenated? ((cs.drop 1).take 36)
    else none
  else if cs.length = 45 then
    if (cs.take 9).map Char.toLower = "urn:uuid:".toList then parseHyphenated? (cs.drop 9)
    else none
  else none

/-- The id a text stands for, in any of the four spellings. -/
def parse? (s : String) : Option TraceId :=
  parseChars? s.toList

end TraceId

end Rulebook
