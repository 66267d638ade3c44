import Rulebook.Text.Big5Table
import Rulebook.Text.HangulTable
import Rulebook.Text.HanziTable
import Rulebook.Text.KanjiTable

/-!
# East Asian encodings

Encodings that write a character in up to four bytes: three of them for Japanese, two for Chinese
and one for Korean. Reading is strict: bytes that stand for nothing make the whole text unreadable.
-/

/-!
## Japanese

Three ways to write the characters of JIS X 0208 as bytes. In EUC-JP a character is its row and
cell in two bytes from 161 on; Shift_JIS packs two rows into one first byte and leaves room for
half-width kana of one byte; ISO-2022-JP has bytes below 128 only and switches between sets by
escapes.
-/

namespace Rulebook.Text.Japanese

/-- A half-width kana by its number. -/
def kana (n : Nat) : Char :=
  Char.ofNat (0xFF61 + n)

/-- The character in a row and a cell, counted from zero. -/
def inSquare? (set : CharIndex) (row cell : Nat) : Option Char :=
  if row < 94 ∧ cell < 94 then set.get? (row * 94 + cell) else none

/-- The characters of a text in EUC-JP. -/
def eucJp? : List UInt8 → Option (List Char)
  | [] => some []
  | a :: rest =>
    if a.toNat < 0x80 then (eucJp? rest).map (Char.ofNat a.toNat :: ·)
    else
      match rest with
      | [] => none
      | b :: rest =>
        if a.toNat = 0x8E then
          if 0xA1 ≤ b.toNat ∧ b.toNat ≤ 0xDF then (eucJp? rest).map (kana (b.toNat - 0xA1) :: ·)
          else none
        else if a.toNat = 0x8F then
          match rest with
          | [] => none
          | c :: rest =>
            if b.toNat < 0xA1 ∨ c.toNat < 0xA1 then none
            else
              (inSquare? KanjiTable.supplement (b.toNat - 0xA1) (c.toNat - 0xA1)).bind fun x =>
                (eucJp? rest).map (x :: ·)
        else if a.toNat < 0xA1 ∨ b.toNat < 0xA1 then none
        else
          (inSquare? KanjiTable.basic (a.toNat - 0xA1) (b.toNat - 0xA1)).bind fun x =>
            (eucJp? rest).map (x :: ·)

/-- The character of two bytes in Shift_JIS. Some numbers are left to users and stand for characters
of private use. -/
def shiftJisPair? (a b : Nat) : Option Char :=
  let lead := if a < 0xA0 then a - 0x81 else a - 0xC1
  let trail := if b < 0x7F then b - 0x40 else b - 0x41
  let n := lead * 188 + trail
  if (0x81 ≤ a ∧ a ≤ 0x9F ∨ 0xE0 ≤ a ∧ a ≤ 0xFC) ∧
      (0x40 ≤ b ∧ b ≤ 0x7E ∨ 0x80 ≤ b ∧ b ≤ 0xFC) then
    if 8836 ≤ n ∧ n ≤ 10715 then some (Char.ofNat (0xE000 + (n - 8836)))
    else KanjiTable.basic.get? n
  else none

/-- The characters of a text in Shift_JIS. -/
def shiftJis? : List UInt8 → Option (List Char)
  | [] => some []
  | a :: rest =>
    if a.toNat ≤ 0x80 then (shiftJis? rest).map (Char.ofNat a.toNat :: ·)
    else if 0xA1 ≤ a.toNat ∧ a.toNat ≤ 0xDF then
      (shiftJis? rest).map (kana (a.toNat - 0xA1) :: ·)
    else
      match rest with
      | [] => none
      | b :: rest =>
        (shiftJisPair? a.toNat b.toNat).bind fun x => (shiftJis? rest).map (x :: ·)

/-- The sets between which ISO-2022-JP switches. -/
inductive Set2022 where
  | ascii
  | roman
  | kana
  | kanji
deriving DecidableEq, Repr

/-- The set that the two bytes after an escape byte name. -/
def escape? (a b : UInt8) : Option Set2022 :=
  match a.toNat, b.toNat with
  | 0x28, 0x42 => some .ascii
  | 0x28, 0x4A => some .roman
  | 0x28, 0x49 => some .kana
  | 0x24, 0x40 | 0x24, 0x42 => some .kanji
  | _, _ => none

/-- The character of one byte in a set of single bytes. -/
def single? (set : Set2022) (a : Nat) : Option Char :=
  match set with
  | .kana => if 0x21 ≤ a ∧ a ≤ 0x5F then some (kana (a - 0x21)) else none
  | .kanji => none
  | _ =>
    if 0x80 ≤ a ∨ a = 0x0E ∨ a = 0x0F then none
    else if set = .roman ∧ a = 0x5C then some '¥'
    else if set = .roman ∧ a = 0x7E then some '‾'
    else some (Char.ofNat a)

/-- The characters of a text in ISO-2022-JP from a set on. Two escapes without a character between
them are an error; `fresh` says that there was none since the last one. -/
def iso2022? (set : Set2022) (fresh : Bool) : List UInt8 → Option (List Char)
  | [] => some []
  | a :: rest =>
    if a.toNat = 0x1B then
      match rest with
      | b :: c :: rest =>
        (escape? b c).bind fun set => if fresh then none else iso2022? set true rest
      | _ => none
    else if set = .kanji then
      match rest with
      | [] => none
      | b :: rest =>
        if a.toNat < 0x21 ∨ b.toNat < 0x21 then none
        else
          (inSquare? KanjiTable.basic (a.toNat - 0x21) (b.toNat - 0x21)).bind fun x =>
            (iso2022? set false rest).map (x :: ·)
    else (single? set a.toNat).bind fun x => (iso2022? set false rest).map (x :: ·)

/-- The characters of a text in ISO-2022-JP. -/
def iso2022Jp? : List UInt8 → Option (List Char) :=
  iso2022? .ascii false

end Rulebook.Text.Japanese

/-!
## Chinese

GB 18030 writes a character in one, two or four bytes. The two bytes of GB 2312 are its row and
cell; the characters of GBK fill the pairs around them, most of them in the order of Unicode; four
bytes are for all others. Big5 writes a character in one or two bytes.
-/

namespace Rulebook.Text.Chinese

/-- The characters of two bytes that do not stand in a row of GB 2312, by number: the hanzi that it
does not have in order, characters of private use, and signs. -/
def outside : CharIndex :=
  let known := (HanziTable.basic.chars.map Char.toNat).filter fun n => 0x4E00 ≤ n && n ≤ 0x9FA5
  let others := (codesBut 0x4E00 20902 (known.mergeSort (· ≤ ·))).map Char.ofNat
  HanziTable.additions ++
    ((List.range 7).flatMap fun i => CharIndex.ofRun ((0x20 + i) * 190) 96 (0xE4C6 + i * 96)) ++
    CharIndex.layOut ((0, 6080) :: (List.range 85).map fun i => ((0x29 + i) * 190, 96)) others

/-- The characters in the rows of GB 2312, some of private use. -/
def inside : CharIndex :=
  HanziTable.basic ++ CharIndex.ofRun (9 * 94) (6 * 94) 0xE000 ++
    CharIndex.ofRun (87 * 94) (7 * 94) 0xE234

/-- The character of two bytes. -/
def gbPair? (a b : Nat) : Option Char :=
  if a < 0x81 ∨ 0xFE < a ∨ b < 0x40 ∨ b = 0x7F ∨ 0xFE < b then none
  else if 0xA1 ≤ a ∧ 0xA1 ≤ b then inside.get? ((a - 0xA1) * 94 + (b - 0xA1))
  else outside.get? ((a - 0x81) * 190 + (if b < 0x7F then b - 0x40 else b - 0x41))

/-- The character of the number of four bytes. -/
def ofNumber? (n : Nat) : Option Char :=
  if n = 7457 then some '\ue7c7'
  else if n ≤ 39419 then
    match (HanziTable.runs.takeWhile (·.first ≤ n)).getLast? with
    | some ⟨first, _, [code]⟩ => some (Char.ofNat (code + (n - first)))
    | _ => none
  else if 189000 ≤ n ∧ n ≤ 1237575 then some (Char.ofNat (0x10000 + (n - 189000)))
  else none

/-- The character of four bytes: the second and fourth are digits. -/
def gbFour? (a b c d : Nat) : Option Char :=
  if 0x81 ≤ a ∧ a ≤ 0xFE ∧ 0x30 ≤ b ∧ b ≤ 0x39 ∧ 0x81 ≤ c ∧ c ≤ 0xFE ∧ 0x30 ≤ d ∧ d ≤ 0x39 then
    ofNumber? ((((a - 0x81) * 10 + (b - 0x30)) * 126 + (c - 0x81)) * 10 + (d - 0x30))
  else none

/-- The characters of a text in GB 18030. -/
def gb18030? : List UInt8 → Option (List Char)
  | [] => some []
  | a :: rest =>
    if a.toNat < 0x80 then (gb18030? rest).map (Char.ofNat a.toNat :: ·)
    else if a.toNat = 0x80 then (gb18030? rest).map ('€' :: ·)
    else
      match rest with
      | [] => none
      | b :: rest =>
        if 0x30 ≤ b.toNat ∧ b.toNat ≤ 0x39 then
          match rest with
          | c :: d :: rest =>
            (gbFour? a.toNat b.toNat c.toNat d.toNat).bind fun x => (gb18030? rest).map (x :: ·)
          | _ => none
        else (gbPair? a.toNat b.toNat).bind fun x => (gb18030? rest).map (x :: ·)

/-- The characters of two bytes of Big5: four of the pairs stand for a letter with a mark. -/
def big5Pair? (a b : Nat) : Option (List Char) :=
  if a < 0x81 ∨ 0xFE < a ∨ b < 0x40 ∨ (0x7E < b ∧ b < 0xA1) ∨ 0xFE < b then none
  else
    match (a - 0x81) * 157 + (if b < 0x7F then b - 0x40 else b - 0x62) with
    | 1133 => some ['Ê', '\u0304']
    | 1135 => some ['Ê', '\u030c']
    | 1164 => some ['ê', '\u0304']
    | 1166 => some ['ê', '\u030c']
    | n => (Big5Table.characters.get? n).map ([·])

/-- The characters of a text in Big5. -/
def big5? : List UInt8 → Option (List Char)
  | [] => some []
  | a :: rest =>
    if a.toNat < 0x80 then (big5? rest).map (Char.ofNat a.toNat :: ·)
    else
      match rest with
      | [] => none
      | b :: rest => (big5Pair? a.toNat b.toNat).bind fun xs => (big5? rest).map (xs ++ ·)

end Rulebook.Text.Chinese

/-!
## Korean

EUC-KR writes a character in one or two bytes. The two bytes of KS X 1001 are its row and cell; the
syllables it does not have fill the pairs before them in the order of Unicode.
-/

namespace Rulebook.Text.Korean

/-- The numbers of the pairs that syllables outside KS X 1001 fill: after a first byte those of the
letters of either case and of higher bytes, as far as these are free. -/
def freePairs : List (Nat × Nat) :=
  (List.range 70).flatMap fun i =>
    [(i * 190, 26), (i * 190 + 32, 26), (i * 190 + 64, if i < 32 then 126 else 32)]

/-- The syllables outside KS X 1001, by number. -/
def outside : CharIndex :=
  let known :=
    (HangulTable.basic.chars.map Char.toNat).filter fun n => 0xAC00 ≤ n && n ≤ 0xD7A3
  CharIndex.layOut freePairs ((codesBut 0xAC00 11172 known).map Char.ofNat)

/-- The character of two bytes. -/
def pair? (a b : Nat) : Option Char :=
  if a < 0x81 ∨ 0xFE < a ∨ b < 0x41 ∨ 0xFE < b then none
  else if 0xA1 ≤ a ∧ 0xA1 ≤ b then HangulTable.basic.get? ((a - 0xA1) * 94 + (b - 0xA1))
  else outside.get? ((a - 0x81) * 190 + (b - 0x41))

/-- The characters of a text in EUC-KR. -/
def eucKr? : List UInt8 → Option (List Char)
  | [] => some []
  | a :: rest =>
    if a.toNat < 0x80 then (eucKr? rest).map (Char.ofNat a.toNat :: ·)
    else
      match rest with
      | [] => none
      | b :: rest => (pair? a.toNat b.toNat).bind fun x => (eucKr? rest).map (x :: ·)

end Rulebook.Text.Korean
