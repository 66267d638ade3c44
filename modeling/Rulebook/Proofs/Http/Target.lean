import Mathlib.Data.List.TakeWhile
import Rulebook.Http.Target
import Rulebook.Proofs.Text.Utf8

/-!
# Targets without triples

A percent sign is what begins a triple, so bytes without one mean themselves to both readers of
triples. The segments of a path without one are what stands between its slashes
(`segments_of_not_mem`), and such a segment is taken as a parameter unchanged
(`parameter_of_not_mem`).
-/

namespace Rulebook

open Text

namespace Text.Percent

variable {b : UInt8} {bytes : List UInt8}

theorem decodeFrom_cons (h : b ≠ 0x25) : decodeFrom 0 (b :: bytes) = b :: decodeFrom 0 bytes := by
  rw [decodeFrom]
  exact fun _ _ _ hb _ => h (eq_of_beq hb)

/-- Bytes without a percent sign mean themselves. -/
theorem decode_of_not_mem (h : 0x25 ∉ bytes) : decode bytes = bytes := by
  induction bytes with
  | nil => rfl
  | cons b bytes ih =>
    rw [List.mem_cons, not_or] at h
    rw [decode, decodeFrom_cons (Ne.symm h.1), ← decode, ih h.2]

end Text.Percent

namespace Http

variable {b : UInt8} {bytes : List UInt8}

theorem decodeUnprotected_cons (h : b ≠ 0x25) :
    decodeUnprotected 0 (b :: bytes) = b :: decodeUnprotected 0 bytes := by
  rw [decodeUnprotected]
  exact fun _ _ _ hb _ => h (eq_of_beq hb)

theorem decodeUnprotected_of_not_mem (h : 0x25 ∉ bytes) : decodeUnprotected 0 bytes = bytes := by
  induction bytes with
  | nil => rfl
  | cons b bytes ih =>
    rw [List.mem_cons, not_or] at h
    rw [decodeUnprotected_cons (Ne.symm h.1), ih h.2]

theorem not_mem_encode {s : String} (h : '%' ∉ s.toList) : 0x25 ∉ Utf8.encode s :=
  fun hmem => h (Utf8.mem_of_mem_encode hmem (by decide))

/-- The segments of a path without triples are what stands between its slashes. -/
theorem segments_of_not_mem {path : List Char} (h : '%' ∉ path) :
    segments path = (path.splitOn '/').map String.ofList := by
  have hbytes := not_mem_encode (s := String.ofList path) (by rwa [String.toList_ofList])
  rw [segments, decodeUnprotected_of_not_mem hbytes, Utf8.decodeLossy_encode, String.toList_ofList]

/-- A segment without triples is taken as it is. -/
theorem parameter_of_not_mem {s : String} (h : '%' ∉ s.toList) : parameter s = s := by
  rw [parameter, Percent.decode_of_not_mem (not_mem_encode h), Utf8.decodeLossy_encode]

/-- A target that begins with a slash and has neither query nor fragment is a path. -/
theorem splitTarget_of_path {target : String} {rest : List Char} (h : target.toList = '/' :: rest)
    (hquery : '?' ∉ rest) (hfragment : '#' ∉ rest) : splitTarget target = (target.toList, []) := by
  have hhost : withoutHost target.toList = target.toList := by
    rw [h]
    rfl
  have hpath : ∀ c ∈ target.toList, c ≠ '#' ∧ c ≠ '?' := by
    intro c hc
    rw [h, List.mem_cons] at hc
    rcases hc with rfl | hc
    · decide
    · exact ⟨fun heq => hfragment (heq ▸ hc), fun heq => hquery (heq ▸ hc)⟩
  have htaken : target.toList.takeWhile (· ≠ '#') = target.toList :=
    List.takeWhile_eq_self_iff.mpr fun c hc => decide_eq_true (hpath c hc).1
  have hkept : target.toList.takeWhile (· ≠ '?') = target.toList :=
    List.takeWhile_eq_self_iff.mpr fun c hc => decide_eq_true (hpath c hc).2
  have hdropped : target.toList.dropWhile (· ≠ '?') = [] :=
    List.dropWhile_eq_nil_iff.mpr fun c hc => decide_eq_true (hpath c hc).2
  simp only [splitTarget, hhost, htaken, hkept, hdropped, List.drop_nil]

end Http

end Rulebook
