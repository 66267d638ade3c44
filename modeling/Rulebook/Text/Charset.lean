import Rulebook.Text.CharsetTable
import Rulebook.Text.EastAsian
import Rulebook.Text.Utf8

/-!
# Character encodings

An encoding is named by a label, in any case and with blanks around it. Reading is strict: bytes
that stand for nothing make the whole text unreadable.
-/

namespace Rulebook.Text

/-- An encoding of texts as bytes. -/
inductive Charset where
  | utf8
  | single (upper : String)
  | userDefined
  | utf16 (bigEndian : Bool)
  | gb18030
  | big5
  | eucJp
  | iso2022Jp
  | shiftJis
  | eucKr

namespace Charset

open CharsetTable

/-- The encodings with their labels in lower case. -/
def labels : List (Charset × List String) :=
  [(.utf8, ["unicode-1-1-utf-8", "unicode11utf8", "unicode20utf8", "utf-8", "utf8",
      "x-unicode20utf8"]),
    (.single ibm866, ["866", "cp866", "csibm866", "ibm866"]),
    (.single iso88592, ["csisolatin2", "iso-8859-2", "iso-ir-101", "iso8859-2", "iso88592",
      "iso_8859-2", "iso_8859-2:1987", "l2", "latin2"]),
    (.single iso88593, ["csisolatin3", "iso-8859-3", "iso-ir-109", "iso8859-3", "iso88593",
      "iso_8859-3", "iso_8859-3:1988", "l3", "latin3"]),
    (.single iso88594, ["csisolatin4", "iso-8859-4", "iso-ir-110", "iso8859-4", "iso88594",
      "iso_8859-4", "iso_8859-4:1988", "l4", "latin4"]),
    (.single iso88595, ["csisolatincyrillic", "cyrillic", "iso-8859-5", "iso-ir-144", "iso8859-5",
      "iso88595", "iso_8859-5", "iso_8859-5:1988"]),
    (.single iso88596, ["arabic", "asmo-708", "csiso88596e", "csiso88596i", "csisolatinarabic",
      "ecma-114", "iso-8859-6", "iso-8859-6-e", "iso-8859-6-i", "iso-ir-127", "iso8859-6",
      "iso88596", "iso_8859-6", "iso_8859-6:1987"]),
    (.single iso88597, ["csisolatingreek", "ecma-118", "elot_928", "greek", "greek8", "iso-8859-7",
      "iso-ir-126", "iso8859-7", "iso88597", "iso_8859-7", "iso_8859-7:1987", "sun_eu_greek"]),
    (.single iso88598, ["csiso88598e", "csisolatinhebrew", "hebrew", "iso-8859-8", "iso-8859-8-e",
      "iso-ir-138", "iso8859-8", "iso88598", "iso_8859-8", "iso_8859-8:1988", "visual",
      "csiso88598i", "iso-8859-8-i", "logical"]),
    (.single iso885910, ["csisolatin6", "iso-8859-10", "iso-ir-157", "iso8859-10", "iso885910",
      "l6", "latin6"]),
    (.single iso885913, ["iso-8859-13", "iso8859-13", "iso885913"]),
    (.single iso885914, ["iso-8859-14", "iso8859-14", "iso885914"]),
    (.single iso885915, ["csisolatin9", "iso-8859-15", "iso8859-15", "iso885915", "iso_8859-15",
      "l9"]),
    (.single iso885916, ["iso-8859-16"]),
    (.single koi8R, ["cskoi8r", "koi", "koi8", "koi8-r", "koi8_r"]),
    (.single koi8U, ["koi8-ru", "koi8-u"]),
    (.single macintosh, ["csmacintosh", "mac", "macintosh", "x-mac-roman"]),
    (.single windows874, ["dos-874", "iso-8859-11", "iso8859-11", "iso885911", "tis-620",
      "windows-874"]),
    (.single windows1250, ["cp1250", "windows-1250", "x-cp1250"]),
    (.single windows1251, ["cp1251", "windows-1251", "x-cp1251"]),
    (.single windows1252, ["ansi_x3.4-1968", "ascii", "cp1252", "cp819", "csisolatin1", "ibm819",
      "iso-8859-1", "iso-ir-100", "iso8859-1", "iso88591", "iso_8859-1", "iso_8859-1:1987", "l1",
      "latin1", "us-ascii", "windows-1252", "x-cp1252"]),
    (.single windows1253, ["cp1253", "windows-1253", "x-cp1253"]),
    (.single windows1254, ["cp1254", "csisolatin5", "iso-8859-9", "iso-ir-148", "iso8859-9",
      "iso88599", "iso_8859-9", "iso_8859-9:1989", "l5", "latin5", "windows-1254", "x-cp1254"]),
    (.single windows1255, ["cp1255", "windows-1255", "x-cp1255"]),
    (.single windows1256, ["cp1256", "windows-1256", "x-cp1256"]),
    (.single windows1257, ["cp1257", "windows-1257", "x-cp1257"]),
    (.single windows1258, ["cp1258", "windows-1258", "x-cp1258"]),
    (.single macCyrillic, ["x-mac-cyrillic", "x-mac-ukrainian"]),
    (.userDefined, ["x-user-defined"]),
    (.utf16 true, ["unicodefffe", "utf-16be"]),
    (.utf16 false, ["csunicode", "iso-10646-ucs-2", "ucs-2", "unicode", "unicodefeff", "utf-16",
      "utf-16le"]),
    (.gb18030, ["chinese", "csgb2312", "csiso58gb231280", "gb2312", "gb_2312", "gb_2312-80",
      "gbk", "iso-ir-58", "x-gbk", "gb18030"]),
    (.big5, ["big5", "big5-hkscs", "cn-big5", "csbig5", "x-x-big5"]),
    (.eucJp, ["cseucpkdfmtjapanese", "euc-jp", "x-euc-jp"]),
    (.iso2022Jp, ["csiso2022jp", "iso-2022-jp"]),
    (.shiftJis, ["csshiftjis", "ms932", "ms_kanji", "shift-jis", "shift_jis", "sjis",
      "windows-31j", "x-sjis"]),
    (.eucKr, ["cseuckr", "csksc56011987", "euc-kr", "iso-ir-149", "korean", "ks_c_5601-1987",
      "ks_c_5601-1989", "ksc5601", "ksc_5601", "windows-949"])]

/-- The blanks that may stand around a label. -/
def isLabelSpace (c : Char) : Bool :=
  c = ' ' || c = '\t' || c = '\n' || c = '\x0c' || c = '\r'

/-- The encoding a label names. -/
def ofLabel? (label : String) : Option Charset :=
  let cs := (label.toList.dropWhile isLabelSpace).reverse.dropWhile isLabelSpace
  let name := String.ofList (cs.reverse.map Char.toLower)
  (labels.find? fun entry => name ∈ entry.2).map (·.1)

/-- The character of a byte, given those of the bytes from 128 on. -/
def singleChar? (upper : List Char) (b : UInt8) : Option Char :=
  if b.toNat < 128 then some (Char.ofNat b.toNat)
  else
    match upper[b.toNat - 128]? with
    | some '\uFFFD' | none => none
    | some c => some c

/-- The 16-bit units of bytes, if there is an even number of them. -/
def units? (bigEndian : Bool) : List UInt8 → Option (List Nat)
  | [] => some []
  | [_] => none
  | a :: b :: rest =>
    let unit := if bigEndian then a.toNat * 256 + b.toNat else b.toNat * 256 + a.toNat
    (units? bigEndian rest).map (unit :: ·)

/-- The characters of 16-bit units, if no surrogate stands alone. -/
def ofUnits? : List Nat → Option (List Char)
  | [] => some []
  | n :: rest =>
    if 0xD800 ≤ n && n ≤ 0xDBFF then
      match rest with
      | m :: rest =>
        if 0xDC00 ≤ m && m ≤ 0xDFFF then
          (ofUnits? rest).map (Char.ofNat (0x10000 + (n - 0xD800) * 0x400 + (m - 0xDC00)) :: ·)
        else none
      | [] => none
    else if 0xDC00 ≤ n && n ≤ 0xDFFF then none
    else (ofUnits? rest).map (Char.ofNat n :: ·)

/-- The text that bytes stand for. -/
def decode? (charset : Charset) (bytes : List UInt8) : Option String :=
  match charset with
  | .utf8 => Utf8.decode? bytes
  | .single upper =>
    let table := upper.toList
    (bytes.mapM (singleChar? table)).map String.ofList
  | .userDefined =>
    some (String.ofList (bytes.map fun b =>
      if b.toNat < 128 then Char.ofNat b.toNat else Char.ofNat (0xF780 + (b.toNat - 128))))
  | .utf16 bigEndian => ((units? bigEndian bytes).bind ofUnits?).map String.ofList
  | .gb18030 => (Chinese.gb18030? bytes).map String.ofList
  | .big5 => (Chinese.big5? bytes).map String.ofList
  | .eucJp => (Japanese.eucJp? bytes).map String.ofList
  | .iso2022Jp => (Japanese.iso2022Jp? bytes).map String.ofList
  | .shiftJis => (Japanese.shiftJis? bytes).map String.ofList
  | .eucKr => (Korean.eucKr? bytes).map String.ofList

end Charset

end Rulebook.Text
