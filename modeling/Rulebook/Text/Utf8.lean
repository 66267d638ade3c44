/-!
# UTF-8

Texts as bytes. `encode` writes each character in one to four bytes. `decodeLossy` reads any bytes:
each maximal piece that cannot begin a character becomes one replacement character. `decode?` reads
only bytes that some text is written as.
-/

namespace Rulebook.Text.Utf8

/-- The bytes of one character. -/
def encodeChar (c : Char) : List UInt8 :=
  let n := c.toNat
  if n < 0x80 then [n.toUInt8]
  else if n < 0x800 then [(0xC0 + n / 0x40).toUInt8, (0x80 + n % 0x40).toUInt8]
  else if n < 0x10000 then
    [(0xE0 + n / 0x1000).toUInt8, (0x80 + n / 0x40 % 0x40).toUInt8, (0x80 + n % 0x40).toUInt8]
  else
    [(0xF0 + n / 0x40000).toUInt8, (0x80 + n / 0x1000 % 0x40).toUInt8,
      (0x80 + n / 0x40 % 0x40).toUInt8, (0x80 + n % 0x40).toUInt8]

/-- The bytes of a text. -/
def encode (s : String) : List UInt8 :=
  s.toList.flatMap encodeChar

/-- A byte that can only stand inside a character. -/
def isContinuation (b : UInt8) : Bool :=
  0x80 ≤ b.toNat && b.toNat < 0xC0

/-- The bytes that may follow a first byte: the number of bytes after it, and the range of the
second. A first byte that begins no character has none. -/
def follow? (b : UInt8) : Option (Nat × Nat × Nat) :=
  let n := b.toNat
  if 0xC2 ≤ n && n ≤ 0xDF then some (1, 0x80, 0xBF)
  else if n == 0xE0 then some (2, 0xA0, 0xBF)
  else if n == 0xED then some (2, 0x80, 0x9F)
  else if 0xE1 ≤ n && n ≤ 0xEF then some (2, 0x80, 0xBF)
  else if n == 0xF0 then some (3, 0x90, 0xBF)
  else if n == 0xF4 then some (3, 0x80, 0x8F)
  else if 0xF1 ≤ n && n ≤ 0xF3 then some (3, 0x80, 0xBF)
  else none

/-- The value carried by a first byte with `k` bytes after it. -/
def leadValue (k : Nat) (b : UInt8) : Nat :=
  b.toNat % (Nat.pow 2 (6 - k))

/-- One step of reading: `inl n` is a piece of `n` bytes that is no character, `inr (c, n)` a
character of `n` bytes. -/
def readChar (b : UInt8) (rest : List UInt8) : Nat ⊕ Char × Nat :=
  if b.toNat < 0x80 then .inr (Char.ofNat b.toNat, 1)
  else
    match follow? b with
    | none => .inl 1
    | some (k, lo, hi) =>
      match rest with
      | [] => .inl 1
      | b2 :: rest2 =>
        if b2.toNat < lo || hi < b2.toNat then .inl 1
        else
          let v2 := leadValue k b * 0x40 + b2.toNat % 0x40
          if k == 1 then .inr (Char.ofNat v2, 2)
          else
            match rest2 with
            | [] => .inl 2
            | b3 :: rest3 =>
              if !isContinuation b3 then .inl 2
              else
                let v3 := v2 * 0x40 + b3.toNat % 0x40
                if k == 2 then .inr (Char.ofNat v3, 3)
                else
                  match rest3 with
                  | [] => .inl 3
                  | b4 :: _ =>
                    if !isContinuation b4 then .inl 3
                    else .inr (Char.ofNat (v3 * 0x40 + b4.toNat % 0x40), 4)

/-- Reading with the number of bytes still to skip, the rest of a piece already read. -/
def decodeLossyFrom : Nat → List UInt8 → List Char
  | _, [] => []
  | skip + 1, _ :: rest => decodeLossyFrom skip rest
  | 0, b :: rest =>
    match readChar b rest with
    | .inl n => '\uFFFD' :: decodeLossyFrom (n - 1) rest
    | .inr (c, n) => c :: decodeLossyFrom (n - 1) rest

/-- The text of any bytes, with a replacement character for each piece that is no character. -/
def decodeLossy (bytes : List UInt8) : String :=
  String.ofList (decodeLossyFrom 0 bytes)

/-- Strict reading with the number of bytes still to skip. -/
def decodeFrom? : Nat → List UInt8 → Option (List Char)
  | _, [] => some []
  | skip + 1, _ :: rest => decodeFrom? skip rest
  | 0, b :: rest =>
    match readChar b rest with
    | .inl _ => none
    | .inr (c, n) => (decodeFrom? (n - 1) rest).map (c :: ·)

/-- The text of well-formed bytes. -/
def decode? (bytes : List UInt8) : Option String :=
  (decodeFrom? 0 bytes).map String.ofList

end Rulebook.Text.Utf8
