import Mathlib.Data.List.DropRight
import Rulebook.Text.Blank

/-!
# Trimmed texts

Trimming takes away the blanks around a text and leaves nothing to take away (`trim_trim`). The
texts that are trimmed to nothing are those that say nothing (`trim_eq_empty_iff`).
-/

namespace Rulebook.Text

theorem trimEnd_eq (cs : List Char) : trimEnd cs = cs.rdropWhile isBlank :=
  rfl

/-- Characters that begin with no blank are left alone at the start. -/
theorem trimStart_of_head {c : Char} {cs : List Char} (h : isBlank c = false) :
    trimStart (c :: cs) = c :: cs := by
  rw [trimStart, List.dropWhile_cons_of_neg (by simp [h])]

/-- What is left after the blanks at the start begins with none, also when those at the end go. -/
theorem trimStart_trimEnd_trimStart (cs : List Char) :
    trimStart (trimEnd (trimStart cs)) = trimEnd (trimStart cs) := by
  cases hend : trimEnd (trimStart cs) with
  | nil => rfl
  | cons c rest =>
    -- the first character left is the first one after the blanks
    obtain ⟨tail, htail⟩ : c :: rest <+: trimStart cs :=
      hend ▸ List.rdropWhile_prefix isBlank _
    refine trimStart_of_head (Bool.eq_false_iff.mpr fun hblank => ?_)
    have hhead : (cs.dropWhile isBlank).head? = some c := by
      rw [← trimStart, ← htail]
      rfl
    have hnot := List.head?_dropWhile_not isBlank cs
    rw [hhead] at hnot
    simp [hblank] at hnot

/-- A trimmed text has no blanks around it. -/
theorem trim_trim (s : String) : trim (trim s) = trim s := by
  have hend : trimEnd (trimEnd (trimStart s.toList)) = trimEnd (trimStart s.toList) := by
    simp only [trimEnd_eq, List.rdropWhile_idempotent]
  rw [trim, trim, String.toList_ofList, trimStart_trimEnd_trimStart, hend]

/-- A text without blanks is left alone. -/
theorem trim_of_no_blank {s : String} (h : ∀ c ∈ s.toList, isBlank c = false) : trim s = s := by
  have hstart : trimStart s.toList = s.toList := by
    cases hs : s.toList with
    | nil => rfl
    | cons c cs => exact trimStart_of_head (h c (hs ▸ List.mem_cons_self))
  have hend : trimEnd s.toList = s.toList := by
    rw [trimEnd_eq, List.rdropWhile_eq_self_iff]
    intro hne
    simp [h _ (List.getLast_mem hne)]
  rw [trim, hstart, hend, String.ofList_toList]

/-- A text that says something is not trimmed to nothing. -/
theorem trim_ne_empty {s : String} (h : saysNothing s = false) : trim s ≠ "" := by
  intro htrim
  have hnil : trimEnd (trimStart s.toList) = [] := by
    rw [← String.toList_ofList (l := trimEnd (trimStart s.toList)), ← trim, htrim]
    rfl
  have hblank : ∀ c ∈ trimStart s.toList, isBlank c = true :=
    List.rdropWhile_eq_nil_iff.mp hnil
  have hall : s.toList.all isBlank = true := by
    rw [← List.takeWhile_append_dropWhile (p := isBlank) (l := s.toList), List.all_append,
      Bool.and_eq_true]
    exact ⟨List.all_takeWhile, List.all_eq_true.mpr hblank⟩
  rw [saysNothing, hall] at h
  cases h

/-- The texts that are trimmed to nothing are those that say nothing. -/
theorem trim_eq_empty_iff {s : String} : trim s = "" ↔ saysNothing s = true := by
  constructor
  · intro htrim
    simpa using fun h : saysNothing s = false => trim_ne_empty h htrim
  · intro h
    have hstart : trimStart s.toList = [] :=
      List.dropWhile_eq_nil_iff.mpr (List.all_eq_true.mp h)
    rw [trim, hstart]
    rfl

end Rulebook.Text
