import Rulebook.Text.Percent

/-!
# URL-encoded pairs

The form of query strings and submitted forms: pairs parted by `&`, name and value parted by the
first `=`, a blank written `+`, other bytes as percent triples. Empty pieces between ampersands are
no pairs.
-/

namespace Rulebook.Text.UrlEncoded

/-- A plus sign stands for a blank. -/
def plusToBlank (b : UInt8) : UInt8 :=
  if b == 0x2B then 0x20 else b

/-- The bytes that a name or value stands for. -/
def decodeBytes (bytes : List UInt8) : List UInt8 :=
  Percent.decode (bytes.map plusToBlank)

/-- A piece cut at its first equals sign. -/
def cut (piece : List UInt8) : List UInt8 × List UInt8 :=
  (piece.takeWhile (· != 0x3D), (piece.dropWhile (· != 0x3D)).drop 1)

/-- The pieces between ampersands, the empty ones left out. -/
def pieces (bytes : List UInt8) : List (List UInt8) :=
  (bytes.splitOn 0x26).filter (!·.isEmpty)

/-- The pairs of a query string or form, as bytes. -/
def bytePairs (bytes : List UInt8) : List (List UInt8 × List UInt8) :=
  (pieces bytes).map fun piece =>
    let (name, value) := cut piece
    (decodeBytes name, decodeBytes value)

/-- The pairs of a query string or form; bytes that are no UTF-8 become replacement characters. -/
def pairs (bytes : List UInt8) : List (String × String) :=
  (bytePairs bytes).map fun (name, value) => (Utf8.decodeLossy name, Utf8.decodeLossy value)

/-- The bytes written as themselves. -/
def isPlain (b : UInt8) : Bool :=
  let c := Char.ofNat b.toNat
  b.toNat < 0x80 && (c.isAlphanum || c = '*' || c = '-' || c = '.' || c = '_')

/-- One byte of a name or value. -/
def encodeByte (b : UInt8) : List Char :=
  if b == 0x20 then ['+'] else if isPlain b then [Char.ofNat b.toNat] else Percent.triple b

/-- A name or value as written. -/
def encodeText (s : String) : List Char :=
  (Utf8.encode s).flatMap encodeByte

/-- Pairs as a query string or form. -/
def encode (pairs : List (String × String)) : String :=
  String.ofList (['&'].intercalate (pairs.map fun (name, value) =>
    encodeText name ++ '=' :: encodeText value))

end Rulebook.Text.UrlEncoded
