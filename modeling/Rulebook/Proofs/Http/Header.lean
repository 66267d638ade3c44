import Rulebook.Http.Message
import Rulebook.Ruleset.Export

/-!
# File names in headers

A header value may hold anything but control characters other than the tab. Lower-casing makes no
such character and removes none (`Text.isForbidden_lowerChar`); for the long table of forms this is
a property of each of its runs (`CaseRun.Clean`). Underscores and quotes do not either, so the file
name of an export can stand in a header exactly if the name of the ruleset could
(`Export.isHeaderValue_attachment`).
-/

namespace Rulebook

/-! ## Lower case -/

namespace Text

/-- All lower-case forms of a run are characters, and none of them is a control character. -/
def CaseRun.Clean (r : CaseRun) : Prop :=
  (0x20 ≤ r.first + r.shift ∧ r.last + r.shift < 0x7F) ∨
    (0x7F < r.first + r.shift ∧ r.last + r.shift < 0xD800) ∨
    (0xDFFF < r.first + r.shift ∧ r.last + r.shift < 0x110000)

instance (r : CaseRun) : Decidable r.Clean :=
  inferInstanceAs (Decidable (_ ∨ _ ∨ _))

theorem clean_of_mem_lowerRuns : ∀ r ∈ lowerRuns, r.Clean := by
  decide +kernel

open Http (isForbidden isHeaderValue)

theorem isForbidden_of_le {c : Char} (h : 0x7F < c.toNat) : isForbidden c = false := by
  have hlow : ¬ c.toNat < 0x20 := by omega
  have hdel : c.toNat ≠ 0x7F := by omega
  simp [isForbidden, hlow, hdel]

/-- A form of a clean run is no control character. -/
theorem CaseRun.Clean.isForbidden_form {r : CaseRun} (h : r.Clean) {n : Nat} (hfirst : r.first ≤ n)
    (hlast : n ≤ r.last) :
    isForbidden (Char.ofNat (Int.toNat (Int.ofNat n + r.shift))) = false := by
  obtain ⟨m, hm⟩ : ∃ m, m = Int.toNat (Int.ofNat n + r.shift) := ⟨_, rfl⟩
  have hrange : (0x20 ≤ m ∧ m < 0x7F) ∨ (0x7F < m ∧ m < 0xD800) ∨ (0xDFFF < m ∧ m < 0x110000) := by
    unfold Clean at h
    rw [Int.ofNat_eq_natCast] at hm
    omega
  have hvalid : m.isValidChar := by
    unfold Nat.isValidChar
    omega
  have hnumber : (Char.ofNat m).toNat = m := by
    rw [Char.ofNat, dif_pos hvalid]
    rfl
  rw [← hm]
  unfold isForbidden
  rw [hnumber]
  have hlow : ¬ m < 0x20 := by omega
  have hdel : m ≠ 0x7F := by omega
  simp [hlow, hdel]

/-- A character and its lower-case form are both control characters, or neither is. -/
theorem isForbidden_lowerChar (c : Char) : isForbidden (lowerChar c) = isForbidden c := by
  unfold lowerChar
  split
  · -- below 0x80 there are few enough to try them all
    next hascii =>
    have hall : ∀ n < 0x80, isForbidden (Char.ofNat n).toLower = isForbidden (Char.ofNat n) := by
      decide
    simpa using hall c.toNat hascii
  · next hhigh =>
    have hc : isForbidden c = false := isForbidden_of_le (by omega)
    split
    · next r hfind =>
      have htest := List.find?_some hfind
      simp only [Bool.and_eq_true, decide_eq_true_eq] at htest
      rw [hc]
      exact (clean_of_mem_lowerRuns r (List.mem_of_find?_eq_some hfind)).isForbidden_form
        htest.1.1 htest.1.2
    · rfl

theorem all_lowerAfter (before cs : List Char) :
    ((lowerAfter before cs).all fun c => !isForbidden c) = cs.all fun c => !isForbidden c := by
  induction cs generalizing before with
  | nil => rfl
  | cons c cs ih =>
    rw [lowerAfter, List.all_append, ih, List.all_cons]
    congr 1
    split
    · next hsigma =>
      rw [hsigma]
      unfold lowerSigma
      split <;> decide
    · split
      · next hdotted =>
        rw [hdotted]
        decide
      · simp [isForbidden_lowerChar]

theorem isHeaderValue_lowerCase (s : String) : isHeaderValue (lowerCase s) = isHeaderValue s := by
  rw [isHeaderValue, lowerCase, String.toList_ofList, all_lowerAfter, isHeaderValue]

end Text

namespace Http

theorem isHeaderValue_append (s t : String) :
    isHeaderValue (s ++ t) = (isHeaderValue s && isHeaderValue t) := by
  rw [isHeaderValue, isHeaderValue, isHeaderValue, String.toList_append, List.all_append]

/-- Quoting adds marks that may stand in a header. -/
theorem isHeaderValue_quotedParameter (s : String) :
    isHeaderValue (Response.quotedParameter s) = isHeaderValue s := by
  have hmark : isForbidden '"' = false := by decide
  have hchar : ∀ c, ((if c = '"' || c = '\\' then ['\\', c] else [c]).all fun c =>
      !isForbidden c) = !isForbidden c := by
    intro c
    split
    · have hslash : isForbidden '\\' = false := by decide
      simp [hslash]
    · simp
  simp only [isHeaderValue, Response.quotedParameter, String.toList_ofList, List.cons_append,
    List.all_cons, List.all_append, List.all_flatMap, hchar, hmark, List.all_nil, Bool.not_false,
    Bool.true_and, Bool.and_true]

end Http

namespace Export

open Http (isForbidden isHeaderValue)

theorem isHeaderValue_underscored (s : String) :
    isHeaderValue (String.ofList (s.toList.map underscore)) = isHeaderValue s := by
  rw [isHeaderValue, isHeaderValue, String.toList_ofList, List.all_map]
  congr 1
  funext c
  by_cases hblank : c = ' '
  · rw [hblank]
    decide
  · simp [underscore, hblank]

/-- The header that names the file of an export can be written exactly if the ruleset's name
could. -/
theorem isHeaderValue_attachment {name : String} (hempty : name ≠ "")
    (htrim : Text.trim name = name) :
    isHeaderValue ("attachment; filename=" ++ Http.Response.quotedParameter (fileName name)) =
      isHeaderValue name := by
  have hkind : isHeaderValue "attachment; filename=" = true := by decide
  have hending : isHeaderValue ".tsv" = true := by decide
  rw [Http.isHeaderValue_append, hkind, Bool.true_and, Http.isHeaderValue_quotedParameter, fileName]
  simp only [htrim, if_neg hempty]
  rw [Http.isHeaderValue_append, hending, Bool.and_true, Text.isHeaderValue_lowerCase,
    isHeaderValue_underscored]

end Export

end Rulebook
