import Rulebook.Text.Utf8

/-!
# Percent encoding

A byte may be written as a percent sign and two hexadecimal digits. `encodeStrict` writes every byte
so but the ASCII letters and digits, which makes the result safe in any part of an address. `decode`
undoes such triples and leaves a percent sign that begins none as it is.
-/

namespace Rulebook.Text.Percent

/-- A hexadecimal digit in upper case. -/
def upperDigit (n : Nat) : Char :=
  if n < 10 then Char.ofNat ('0'.toNat + n) else Char.ofNat ('A'.toNat + (n - 10))

/-- One byte as a triple. -/
def triple (b : UInt8) : List Char :=
  ['%', upperDigit (b.toNat / 16), upperDigit (b.toNat % 16)]

/-- One byte: a letter or digit as itself, any other as a triple. -/
def strictByte (b : UInt8) : List Char :=
  let c := Char.ofNat b.toNat
  if b.toNat < 0x80 && c.isAlphanum then [c] else triple b

/-- A text with every byte but letters and digits as a triple. -/
def encodeStrict (s : String) : String :=
  String.ofList ((Utf8.encode s).flatMap strictByte)

/-- The value of a byte that is a hexadecimal digit. -/
def digit? (b : UInt8) : Option Nat :=
  let n := b.toNat
  if 0x30 ≤ n && n ≤ 0x39 then some (n - 0x30)
  else if 0x41 ≤ n && n ≤ 0x46 then some (n - 0x41 + 10)
  else if 0x61 ≤ n && n ≤ 0x66 then some (n - 0x61 + 10)
  else none

/-- The byte that two hexadecimal digits stand for. -/
def pair? (a b : UInt8) : Option UInt8 :=
  match digit? a, digit? b with
  | some x, some y => some (x * 16 + y).toUInt8
  | _, _ => none

/-- The bytes with triples undone; the first number is how many bytes a triple has yet to skip. -/
def decodeFrom : Nat → List UInt8 → List UInt8
  | _, [] => []
  | skip + 1, _ :: rest => decodeFrom skip rest
  | 0, b :: rest =>
    match b == 0x25, rest with
    | true, x :: y :: _ =>
      match pair? x y with
      | some v => v :: decodeFrom 2 rest
      | none => b :: decodeFrom 0 rest
    | _, _ => b :: decodeFrom 0 rest

/-- The bytes with triples undone. -/
def decode (bytes : List UInt8) : List UInt8 :=
  decodeFrom 0 bytes

end Rulebook.Text.Percent
