import Rulebook.Text.Utf8

/-!
# UTF-8 read back

The bytes of a text are read as that text, by the reader that replaces (`decodeLossy_encode`), so
different texts have different bytes (`encode_injective`). The argument is per character: the first
byte says how many bytes follow and in which range the second one lies (`Follows`), and the bytes
that are written meet what it says (`readChar_encodeChar`).
-/

namespace Rulebook.Text.Utf8

theorem toNat_toUInt8 {n : Nat} (h : n < 256) : n.toUInt8.toNat = n := by
  rw [Nat.toUInt8, UInt8.toNat_ofNat', Nat.mod_eq_of_lt h]

/-- The number of a character is no surrogate and lies below the end of the code space. -/
theorem toNat_isScalar (c : Char) :
    c.toNat < 0xD800 ∨ 0xDFFF < c.toNat ∧ c.toNat < 0x110000 :=
  c.valid

/-- The first byte asks for `k` more bytes, and the second byte is one it allows. -/
def Follows (k : Nat) (b second : UInt8) : Prop :=
  ∃ lo hi, follow? b = some (k, lo, hi) ∧ lo ≤ second.toNat ∧ second.toNat ≤ hi

section

variable {n : Nat}

/-- Two bytes carry a number from `0x80` to `0x7FF`. -/
theorem follows_two (hlow : 0x80 ≤ n) (hhigh : n < 0x800) :
    Follows 1 (0xC0 + n / 0x40).toUInt8 (0x80 + n % 0x40).toUInt8 := by
  have hfirst := toNat_toUInt8 (n := 0xC0 + n / 0x40) (by omega)
  have hsecond := toNat_toUInt8 (n := 0x80 + n % 0x40) (by omega)
  refine ⟨0x80, 0xBF, ?_, by omega, by omega⟩
  simp only [follow?, hfirst]
  rw [if_pos (by simp; omega)]

/-- Three bytes carry a number from `0x800` to `0xFFFF` that is no surrogate. -/
theorem follows_three (hlow : 0x800 ≤ n) (hhigh : n < 0x10000) (hscalar : n < 0xD800 ∨ 0xDFFF < n) :
    Follows 2 (0xE0 + n / 0x1000).toUInt8 (0x80 + n / 0x40 % 0x40).toUInt8 := by
  have hfirst := toNat_toUInt8 (n := 0xE0 + n / 0x1000) (by omega)
  have hsecond := toNat_toUInt8 (n := 0x80 + n / 0x40 % 0x40) (by omega)
  simp only [Follows, follow?, hfirst, hsecond, beq_iff_eq, Bool.and_eq_true, decide_eq_true_eq]
  rw [if_neg (by omega)]
  -- the first and the fourteenth block of 0x1000 numbers are not whole
  by_cases hE0 : n / 0x1000 = 0
  · exact ⟨0xA0, 0xBF, by rw [if_pos (by omega)], by omega, by omega⟩
  · by_cases hED : n / 0x1000 = 13
    · exact ⟨0x80, 0x9F, by rw [if_neg (by omega), if_pos (by omega)], by omega, by omega⟩
    · refine ⟨0x80, 0xBF, ?_, by omega, by omega⟩
      rw [if_neg (by omega), if_neg (by omega), if_pos (by omega)]

/-- Four bytes carry a number from `0x10000` to `0x10FFFF`. -/
theorem follows_four (hlow : 0x10000 ≤ n) (hhigh : n < 0x110000) :
    Follows 3 (0xF0 + n / 0x40000).toUInt8 (0x80 + n / 0x1000 % 0x40).toUInt8 := by
  have hfirst := toNat_toUInt8 (n := 0xF0 + n / 0x40000) (by omega)
  have hsecond := toNat_toUInt8 (n := 0x80 + n / 0x1000 % 0x40) (by omega)
  simp only [Follows, follow?, hfirst, hsecond, beq_iff_eq, Bool.and_eq_true, decide_eq_true_eq]
  rw [if_neg (by omega), if_neg (by omega), if_neg (by omega), if_neg (by omega)]
  by_cases hF0 : n / 0x40000 = 0
  · exact ⟨0x90, 0xBF, by rw [if_pos (by omega)], by omega, by omega⟩
  · rw [if_neg (by omega)]
    by_cases hF4 : n / 0x40000 = 4
    · exact ⟨0x80, 0x8F, by rw [if_pos (by omega)], by omega, by omega⟩
    · exact ⟨0x80, 0xBF, by rw [if_neg (by omega), if_pos (by omega)], by omega, by omega⟩

end

theorem isContinuation_toUInt8 {n : Nat} (h : n < 0x40) :
    isContinuation (0x80 + n).toUInt8 = true := by
  have hbyte := toNat_toUInt8 (n := 0x80 + n) (by omega)
  simp only [isContinuation, hbyte, Bool.and_eq_true, decide_eq_true_eq]
  omega

theorem leadValue_one (b : UInt8) : leadValue 1 b = b.toNat % 0x20 :=
  rfl

theorem leadValue_two (b : UInt8) : leadValue 2 b = b.toNat % 0x10 :=
  rfl

theorem leadValue_three (b : UInt8) : leadValue 3 b = b.toNat % 0x08 :=
  rfl

section

variable {b b2 b3 b4 : UInt8} {rest : List UInt8} {c : Char}

/-- A first byte that asks for one byte, and that byte. -/
theorem readChar_two (hb : 0x80 ≤ b.toNat) (h : Follows 1 b b2)
    (hc : leadValue 1 b * 0x40 + b2.toNat % 0x40 = c.toNat) :
    readChar b (b2 :: rest) = .inr (c, 2) := by
  obtain ⟨lo, hi, hfollow, hlo, hhi⟩ := h
  simp [readChar, hfollow, hc, Nat.not_lt.mpr hb, Nat.not_lt.mpr hlo, Nat.not_lt.mpr hhi]

/-- A first byte that asks for two bytes, and those bytes. -/
theorem readChar_three (hb : 0x80 ≤ b.toNat) (h : Follows 2 b b2) (h3 : isContinuation b3 = true)
    (hc : (leadValue 2 b * 0x40 + b2.toNat % 0x40) * 0x40 + b3.toNat % 0x40 = c.toNat) :
    readChar b (b2 :: b3 :: rest) = .inr (c, 3) := by
  obtain ⟨lo, hi, hfollow, hlo, hhi⟩ := h
  simp [readChar, hfollow, hc, h3, Nat.not_lt.mpr hb, Nat.not_lt.mpr hlo, Nat.not_lt.mpr hhi]

/-- A first byte that asks for three bytes, and those bytes. -/
theorem readChar_four (hb : 0x80 ≤ b.toNat) (h : Follows 3 b b2) (h3 : isContinuation b3 = true)
    (h4 : isContinuation b4 = true)
    (hc : ((leadValue 3 b * 0x40 + b2.toNat % 0x40) * 0x40 + b3.toNat % 0x40) * 0x40 +
      b4.toNat % 0x40 = c.toNat) :
    readChar b (b2 :: b3 :: b4 :: rest) = .inr (c, 4) := by
  obtain ⟨lo, hi, hfollow, hlo, hhi⟩ := h
  simp [readChar, hfollow, hc, h3, h4, Nat.not_lt.mpr hb, Nat.not_lt.mpr hlo, Nat.not_lt.mpr hhi]

end

/-- The bytes of a character are read as that character, whatever comes after them. -/
theorem readChar_encodeChar (c : Char) :
    ∃ b bytes, encodeChar c = b :: bytes ∧
      ∀ rest, readChar b (bytes ++ rest) = .inr (c, bytes.length + 1) := by
  have hscalar := toNat_isScalar c
  by_cases h1 : c.toNat < 0x80
  · have hfirst := toNat_toUInt8 (n := c.toNat) (by omega)
    refine ⟨_, _, by rw [encodeChar, if_pos h1], fun rest => ?_⟩
    simp [readChar, hfirst, h1]
  by_cases h2 : c.toNat < 0x800
  · refine ⟨_, _, by rw [encodeChar, if_neg h1, if_pos h2], fun rest => ?_⟩
    have hfirst := toNat_toUInt8 (n := 0xC0 + c.toNat / 0x40) (by omega)
    have hsecond := toNat_toUInt8 (n := 0x80 + c.toNat % 0x40) (by omega)
    refine readChar_two (by omega) (follows_two (by omega) h2) ?_
    rw [leadValue_one, hfirst, hsecond]
    omega
  by_cases h3 : c.toNat < 0x10000
  · refine ⟨_, _, by rw [encodeChar, if_neg h1, if_neg h2, if_pos h3], fun rest => ?_⟩
    have hfirst := toNat_toUInt8 (n := 0xE0 + c.toNat / 0x1000) (by omega)
    have hsecond := toNat_toUInt8 (n := 0x80 + c.toNat / 0x40 % 0x40) (by omega)
    have hthird := toNat_toUInt8 (n := 0x80 + c.toNat % 0x40) (by omega)
    refine readChar_three (by omega) (follows_three (by omega) h3 (by omega))
      (isContinuation_toUInt8 (by omega)) ?_
    rw [leadValue_two, hfirst, hsecond, hthird]
    omega
  · refine ⟨_, _, by rw [encodeChar, if_neg h1, if_neg h2, if_neg h3], fun rest => ?_⟩
    have hfirst := toNat_toUInt8 (n := 0xF0 + c.toNat / 0x40000) (by omega)
    have hsecond := toNat_toUInt8 (n := 0x80 + c.toNat / 0x1000 % 0x40) (by omega)
    have hthird := toNat_toUInt8 (n := 0x80 + c.toNat / 0x40 % 0x40) (by omega)
    have hfourth := toNat_toUInt8 (n := 0x80 + c.toNat % 0x40) (by omega)
    refine readChar_four (by omega) (follows_four (by omega) (by omega))
      (isContinuation_toUInt8 (by omega)) (isContinuation_toUInt8 (by omega)) ?_
    rw [leadValue_three, hfirst, hsecond, hthird, hfourth]
    omega

/-- Bytes to skip are skipped. -/
theorem decodeLossyFrom_append (bytes rest : List UInt8) :
    decodeLossyFrom bytes.length (bytes ++ rest) = decodeLossyFrom 0 rest := by
  induction bytes with
  | nil => rfl
  | cons b bytes ih => exact ih

theorem decodeLossyFrom_flatMap (cs : List Char) :
    decodeLossyFrom 0 (cs.flatMap encodeChar) = cs := by
  induction cs with
  | nil => rfl
  | cons c cs ih =>
    obtain ⟨b, bytes, hbytes, hread⟩ := readChar_encodeChar c
    rw [List.flatMap_cons, hbytes, List.cons_append]
    simp only [decodeLossyFrom, hread, Nat.add_sub_cancel, decodeLossyFrom_append, ih]

/-- The bytes of a text are read as that text. -/
theorem decodeLossy_encode (s : String) : decodeLossy (encode s) = s := by
  rw [decodeLossy, encode, decodeLossyFrom_flatMap, String.ofList_toList]

/-- Bytes to skip are skipped in strict reading too. -/
theorem decodeFrom?_append (bytes rest : List UInt8) :
    decodeFrom? bytes.length (bytes ++ rest) = decodeFrom? 0 rest := by
  induction bytes with
  | nil => rfl
  | cons b bytes ih => exact ih

/-- The bytes of a text are a text. -/
theorem decode?_encode (s : String) : decode? (encode s) = some s := by
  have hchars : ∀ cs : List Char, decodeFrom? 0 (cs.flatMap encodeChar) = some cs := by
    intro cs
    induction cs with
    | nil => rfl
    | cons c cs ih =>
      obtain ⟨b, bytes, hbytes, hread⟩ := readChar_encodeChar c
      rw [List.flatMap_cons, hbytes, List.cons_append]
      simp only [decodeFrom?, hread, Nat.add_sub_cancel, decodeFrom?_append, ih, Option.map_some]
  rw [decode?, encode, hchars, Option.map_some, String.ofList_toList]

/-- Different texts have different bytes. -/
theorem encode_injective {s t : String} (h : encode s = encode t) : s = t := by
  rw [← decodeLossy_encode s, h, decodeLossy_encode]

/-- A byte below `0x80` stands for the character of that number and for no other. -/
theorem toNat_eq_of_mem_encodeChar {c : Char} {b : UInt8} (h : b ∈ encodeChar c)
    (hb : b.toNat < 0x80) : c.toNat = b.toNat := by
  have hscalar := toNat_isScalar c
  have hhigh : ∀ n, 0x80 ≤ n → n < 256 → b ≠ n.toUInt8 := fun n hlow hn heq => by
    rw [heq, toNat_toUInt8 hn] at hb
    omega
  unfold encodeChar at h
  dsimp only at h
  split at h
  · rw [List.mem_singleton.mp h, toNat_toUInt8 (by omega)]
  · split at h
    · simp only [List.mem_cons, List.not_mem_nil, or_false] at h
      rcases h with h | h <;> exact absurd h (hhigh _ (by omega) (by omega))
    · split at h <;> simp only [List.mem_cons, List.not_mem_nil, or_false] at h
      · rcases h with h | h | h <;> exact absurd h (hhigh _ (by omega) (by omega))
      · rcases h with h | h | h | h <;> exact absurd h (hhigh _ (by omega) (by omega))

/-- A byte below `0x80` is among the bytes of a text only if its character is in the text. -/
theorem mem_of_mem_encode {s : String} {b : UInt8} (h : b ∈ encode s) (hb : b.toNat < 0x80) :
    Char.ofNat b.toNat ∈ s.toList := by
  obtain ⟨c, hc, hmem⟩ := List.mem_flatMap.mp h
  rw [← toNat_eq_of_mem_encodeChar hmem hb, Char.ofNat_toNat]
  exact hc

end Rulebook.Text.Utf8
