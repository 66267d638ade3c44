/-!
# Bytes as text

Two spellings of bytes: pairs of hexadecimal digits, and the 64-letter alphabet that is safe in
addresses, with or without padding to a multiple of four letters. The second one can be read too.
-/

namespace Rulebook.Digest

/-- A hexadecimal digit in lower case. -/
def nibble (n : Nat) : Char :=
  Nat.digitChar n

/-- Bytes in hexadecimal. -/
def hex (bytes : List UInt8) : String :=
  String.ofList (bytes.flatMap fun b => [nibble (b.toNat / 16), nibble (b.toNat % 16)])

/-- The letter of a number below 64. -/
def letter (n : Nat) : Char :=
  if n < 26 then Char.ofNat ('A'.toNat + n)
  else if n < 52 then Char.ofNat ('a'.toNat + (n - 26))
  else if n < 62 then Char.ofNat ('0'.toNat + (n - 52))
  else if n = 62 then '-'
  else '_'

/-- Bytes in the address-safe alphabet: three bytes in four letters, a rest of one or two bytes in
two or three. -/
def letters : List UInt8 → List Char
  | a :: b :: c :: rest =>
    let n := (a.toNat * 256 + b.toNat) * 256 + c.toNat
    letter (n / 262144) :: letter (n / 4096 % 64) :: letter (n / 64 % 64) :: letter (n % 64) ::
      letters rest
  | [a, b] =>
    let n := (a.toNat * 256 + b.toNat) * 4
    [letter (n / 4096), letter (n / 64 % 64), letter (n % 64)]
  | [a] =>
    let n := a.toNat * 16
    [letter (n / 64), letter (n % 64)]
  | [] => []

/-- Bytes in the address-safe alphabet without padding. -/
def base64Url (bytes : List UInt8) : String :=
  String.ofList (letters bytes)

/-- Bytes in the address-safe alphabet, padded by equals signs to a multiple of four letters. -/
def base64UrlPadded (bytes : List UInt8) : String :=
  let cs := letters bytes
  String.ofList (cs ++ List.replicate ((4 - cs.length % 4) % 4) '=')

/-- The number of a letter. -/
def numberOfLetter? (c : Char) : Option Nat :=
  if c.isUpper then some (c.toNat - 'A'.toNat)
  else if c.isLower then some (c.toNat - 'a'.toNat + 26)
  else if c.isDigit then some (c.toNat - '0'.toNat + 52)
  else if c = '-' then some 62
  else if c = '_' then some 63
  else none

/-- The bytes of numbers below 64, three of four numbers. -/
def ofNumbers : List Nat → List UInt8
  | a :: b :: c :: d :: rest =>
    (a * 4 + b / 16).toUInt8 :: (b % 16 * 16 + c / 4).toUInt8 :: (c % 4 * 64 + d).toUInt8 ::
      ofNumbers rest
  | [a, b, c] => [(a * 4 + b / 16).toUInt8, (b % 16 * 16 + c / 4).toUInt8]
  | [a, b] => [(a * 4 + b / 16).toUInt8]
  | _ => []

/-- The bytes that letters of the address-safe alphabet spell. Other characters do not count. -/
def ofLetters (cs : List Char) : List UInt8 :=
  ofNumbers (cs.filterMap numberOfLetter?)

end Rulebook.Digest
