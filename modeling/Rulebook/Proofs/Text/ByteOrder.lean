import Mathlib.Data.String.Basic
import Rulebook.Proofs.Text.Utf8

/-!
# The order of texts is the order of their bytes

Texts compare by the numbers of their characters. Their UTF-8 bytes compare the same way
(`encode_lt_encode`): the smaller of two characters has the smaller bytes, whatever comes after them
(`encodeChar_append_lt`), since the first byte grows with the number of bytes and, within one number
of bytes, each byte carries the next six bits.
-/

namespace Rulebook.Text.Utf8

variable {n m : Nat} {bs cs : List UInt8}

/-- A smaller first byte decides. -/
theorem cons_lt_of_lt (hm : m < 256) (h : n < m) : n.toUInt8 :: bs < m.toUInt8 :: cs := by
  refine List.cons_lt_cons_iff.mpr (.inl (UInt8.lt_iff_toNat_lt.mpr ?_))
  rwa [toNat_toUInt8 (by omega), toNat_toUInt8 hm]

/-- A first byte that is no greater decides, unless it is equal and the others decide. -/
theorem cons_lt_of_le (hm : m < 256) (hle : n ≤ m) (h : n = m → bs < cs) :
    n.toUInt8 :: bs < m.toUInt8 :: cs := by
  rcases Nat.lt_or_eq_of_le hle with hlt | rfl
  · exact cons_lt_of_lt hm hlt
  · exact List.cons_lt_cons_iff.mpr (.inr ⟨rfl, h rfl⟩)

/-- The smaller of two characters has the smaller bytes, whatever comes after them. -/
theorem encodeChar_append_lt {c d : Char} (h : c.toNat < d.toNat) (bs cs : List UInt8) :
    encodeChar c ++ bs < encodeChar d ++ cs := by
  have hd := toNat_isScalar d
  unfold encodeChar
  dsimp only
  -- with fewer bytes the first one is smaller; with as many, each decides or is equal
  by_cases hc : c.toNat < 0x80
  · rw [if_pos hc]
    split
    · exact cons_lt_of_lt (by omega) h
    · split
      · exact cons_lt_of_lt (by omega) (by omega)
      · split <;> exact cons_lt_of_lt (by omega) (by omega)
  rw [if_neg hc, if_neg (by omega : ¬ d.toNat < 0x80)]
  by_cases hc : c.toNat < 0x800
  · rw [if_pos hc]
    split
    · refine cons_lt_of_le (by omega) (by omega) fun hlead => ?_
      exact cons_lt_of_lt (by omega) (by omega)
    · split <;> exact cons_lt_of_lt (by omega) (by omega)
  rw [if_neg hc, if_neg (by omega : ¬ d.toNat < 0x800)]
  by_cases hc : c.toNat < 0x10000
  · rw [if_pos hc]
    split
    · refine cons_lt_of_le (by omega) (by omega) fun hlead => ?_
      refine cons_lt_of_le (by omega) (by omega) fun hsecond => ?_
      exact cons_lt_of_lt (by omega) (by omega)
    · exact cons_lt_of_lt (by omega) (by omega)
  rw [if_neg hc, if_neg (by omega : ¬ d.toNat < 0x10000)]
  refine cons_lt_of_le (by omega) (by omega) fun hlead => ?_
  refine cons_lt_of_le (by omega) (by omega) fun hsecond => ?_
  refine cons_lt_of_le (by omega) (by omega) fun hthird => ?_
  exact cons_lt_of_lt (by omega) (by omega)

/-- Every character has a byte. -/
theorem encodeChar_ne_nil (c : Char) : encodeChar c ≠ [] := by
  obtain ⟨b, bytes, hbytes, -⟩ := readChar_encodeChar c
  rw [hbytes]
  exact List.cons_ne_nil b bytes

theorem flatMap_encodeChar_lt {cs ds : List Char} (h : cs < ds) :
    cs.flatMap encodeChar < ds.flatMap encodeChar := by
  induction h with
  | nil =>
    next d ds =>
    rw [List.flatMap_nil, List.flatMap_cons]
    obtain ⟨b, bytes, hbytes⟩ := List.exists_cons_of_ne_nil (encodeChar_ne_nil d)
    rw [hbytes, List.cons_append]
    exact .nil
  | rel hlt =>
    rw [List.flatMap_cons, List.flatMap_cons]
    exact encodeChar_append_lt (Char.lt_def.mp hlt) _ _
  | cons _ ih =>
    rw [List.flatMap_cons, List.flatMap_cons]
    exact List.append_left_lt ih

/-- Texts compare as their bytes do. -/
theorem encode_lt_encode {s t : String} : encode s < encode t ↔ s < t := by
  have hmono : ∀ {s t : String}, s < t → encode s < encode t := fun h =>
    flatMap_encodeChar_lt (String.lt_iff_toList_lt.mp h)
  refine ⟨fun h => ?_, hmono⟩
  rcases lt_trichotomy s t with hlt | rfl | hgt
  · exact hlt
  · exact absurd h (List.lt_irrefl _)
  · exact absurd h (List.lt_asymm (hmono hgt))

end Rulebook.Text.Utf8
