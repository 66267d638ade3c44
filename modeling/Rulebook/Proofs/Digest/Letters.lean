import Rulebook.Digest.Sha256
import Rulebook.Digest.Text

/-!
# Letters for bytes

The letters of the address-safe alphabet are read back as the bytes they were written for
(`ofLetters_letters`), so different bytes have different letters. They are letters, digits, hyphens
and underscores only (`isLetter_of_mem_letters`), and their number is that of the bytes in thirds of
four (`length_letters`): 43 for the 32 bytes of a digest.
-/

namespace Rulebook.Digest

/-- A letter of the address-safe alphabet. -/
def isLetter (c : Char) : Bool :=
  c.isAlphanum || c = '-' || c = '_'

theorem isLetter_letter (n : Nat) : isLetter (letter n) = true := by
  by_cases h : n < 64
  · revert n
    decide
  · have hlast : letter n = '_' := by
      unfold letter
      rw [if_neg (by omega), if_neg (by omega), if_neg (by omega), if_neg (by omega)]
    rw [hlast]
    rfl

theorem isLetter_of_mem_letters {bytes : List UInt8} {c : Char} (h : c ∈ letters bytes) :
    isLetter c = true := by
  induction bytes using letters.induct with
  | case1 a b d rest ih =>
    simp only [letters, List.mem_cons] at h
    rcases h with rfl | rfl | rfl | rfl | h
    · exact isLetter_letter _
    · exact isLetter_letter _
    · exact isLetter_letter _
    · exact isLetter_letter _
    · exact ih h
  | case2 a b =>
    simp only [letters, List.mem_cons, List.not_mem_nil, or_false] at h
    rcases h with rfl | rfl | rfl <;> exact isLetter_letter _
  | case3 a =>
    simp only [letters, List.mem_cons, List.not_mem_nil, or_false] at h
    rcases h with rfl | rfl <;> exact isLetter_letter _
  | case4 => simp [letters] at h

/-- Every three bytes take four letters, and a rest of one or two bytes two or three. -/
theorem length_letters (bytes : List UInt8) :
    (letters bytes).length = (4 * bytes.length + 2) / 3 := by
  induction bytes using letters.induct with
  | case1 a b d rest ih =>
    simp only [letters, List.length_cons, ih]
    omega
  | case2 a b => simp [letters]
  | case3 a => simp [letters]
  | case4 => rfl

/-- A letter says the number it was written for. -/
theorem numberOfLetter?_letter {n : Nat} (h : n < 64) : numberOfLetter? (letter n) = some n := by
  revert n
  decide

/-- The letters of bytes are read as these bytes. -/
theorem ofLetters_letters (bytes : List UInt8) : ofLetters (letters bytes) = bytes := by
  have hbyte : ∀ (a : UInt8) (n : Nat), n = a.toNat → n.toUInt8 = a := fun a n h => by
    rw [h, Nat.toUInt8, UInt8.ofNat_toNat]
  induction bytes using letters.induct with
  | case1 a b d rest ih =>
    have ha := a.toNat_lt
    have hb := b.toNat_lt
    have hd := d.toNat_lt
    have hrest : ofNumbers ((letters rest).filterMap numberOfLetter?) = rest := ih
    simp only [ofLetters, letters]
    rw [List.filterMap_cons_some (numberOfLetter?_letter (by omega)),
      List.filterMap_cons_some (numberOfLetter?_letter (by omega)),
      List.filterMap_cons_some (numberOfLetter?_letter (by omega)),
      List.filterMap_cons_some (numberOfLetter?_letter (by omega)), ofNumbers, hrest,
      hbyte a _ (by omega), hbyte b _ (by omega), hbyte d _ (by omega)]
  | case2 a b =>
    have ha := a.toNat_lt
    have hb := b.toNat_lt
    simp only [ofLetters, letters]
    rw [List.filterMap_cons_some (numberOfLetter?_letter (by omega)),
      List.filterMap_cons_some (numberOfLetter?_letter (by omega)),
      List.filterMap_cons_some (numberOfLetter?_letter (by omega)), List.filterMap_nil, ofNumbers,
      hbyte a _ (by omega), hbyte b _ (by omega)]
  | case3 a =>
    have ha := a.toNat_lt
    simp only [ofLetters, letters]
    rw [List.filterMap_cons_some (numberOfLetter?_letter (by omega)),
      List.filterMap_cons_some (numberOfLetter?_letter (by omega)), List.filterMap_nil, ofNumbers,
      hbyte a _ (by omega)]
  | case4 => rfl

/-- Different bytes have different letters. -/
theorem base64Url_injective {x y : List UInt8} (h : base64Url x = base64Url y) : x = y := by
  have hletters : letters x = letters y := String.ofList_injective h
  rw [← ofLetters_letters x, hletters, ofLetters_letters]

namespace Sha256

theorem length_bigEndian (n x : Nat) : (bigEndian n x).length = n := by
  induction n generalizing x with
  | zero => rfl
  | succ n ih => rw [bigEndian, List.length_append, ih, List.length_singleton]

/-- A digest has 32 bytes. -/
theorem length_digest (message : List UInt8) : (digest message).length = 32 := by
  simp [digest, Words.toList, length_bigEndian]

end Sha256

end Rulebook.Digest
