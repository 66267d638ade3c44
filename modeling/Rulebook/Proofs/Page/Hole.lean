import Rulebook.Page.Piece
import Rulebook.Proofs.Digest.Letters
import Rulebook.Ruleset.Export

/-!
# What fills a hole

A hole shows its data in an alphabet of its own. An ordinary hole writes markup as references that
can be undone (`Html.unescape_escape`), a hole in a query writes letters, digits and percent signs,
and the address of an export is made of letters, digits and three signs. None of them can begin or
end markup.
-/

namespace Rulebook

namespace Text.Html

/-- A character that begins or ends markup. -/
def isMarkup (c : Char) : Bool :=
  c = '<' || c = '>' || c = '"' || c = '\''

/-- A character without a reference stands for itself. -/
theorem escapeChar_of_not_mem {c : Char} (h : c ∉ ['&', '<', '>', '"', '\'', '/']) :
    escapeChar c = [c] := by
  simp only [List.mem_cons, List.not_mem_nil, or_false, not_or] at h
  obtain ⟨hamp, hlt, hgt, hquot, hapos, hslash⟩ := h
  simp [escapeChar, hamp, hlt, hgt, hquot, hapos, hslash]

/-- A text without any of the six characters is left alone. -/
theorem escape_of_not_mem {s : String}
    (h : ∀ c ∈ s.toList, c ∉ ['&', '<', '>', '"', '\'', '/']) : escape s = s := by
  rw [escape, List.flatMap_def, List.map_congr_left fun c hc => escapeChar_of_not_mem (h c hc),
    ← List.flatMap_def, List.flatMap_singleton', String.ofList_toList]

/-- An alphabet without the four characters has no markup. -/
theorem isMarkup_of {alphabet : Char → Bool} (h : ['<', '>', '"', '\''].any alphabet = false)
    {c : Char} (hc : alphabet c = true) : isMarkup c = false := by
  rw [Bool.eq_false_iff]
  intro hmarkup
  simp only [isMarkup, Bool.or_eq_true, decide_eq_true_eq] at hmarkup
  have hmem : c ∈ ['<', '>', '"', '\''] := by
    rcases hmarkup with ((rfl | rfl) | rfl) | rfl <;> simp
  exact List.any_eq_false.mp h c hmem hc

theorem isMarkup_of_mem_escapeChar {c d : Char} (h : d ∈ escapeChar c) : isMarkup d = false := by
  have hreference : ['&', '<', '>', '"', '\'', '/'].all
      (fun c => (escapeChar c).all fun d => !isMarkup d) = true := by decide
  by_cases hc : c ∈ ['&', '<', '>', '"', '\'', '/']
  · have hall := List.all_eq_true.mp (List.all_eq_true.mp hreference c hc) d h
    rwa [Bool.not_eq_true'] at hall
  · rw [escapeChar_of_not_mem hc, List.mem_singleton] at h
    simp only [List.mem_cons, List.not_mem_nil, or_false, not_or] at hc
    simp [isMarkup, h, hc]

/-- An escaped text has no markup. -/
theorem isMarkup_of_mem_escape {s : String} {c : Char} (h : c ∈ (escape s).toList) :
    isMarkup c = false := by
  rw [escape, String.toList_ofList, List.mem_flatMap] at h
  obtain ⟨d, -, hc⟩ := h
  exact isMarkup_of_mem_escapeChar hc

theorem unescapeChars_cons {c : Char} (h : c ≠ '&') (rest : List Char) :
    unescapeChars (c :: rest) = c :: unescapeChars rest := by
  rw [unescapeChars.eq_def]
  split <;> simp_all

/-- A reader of HTML that knows the references of the six characters. It may know others. -/
structure Unescapes (f : List Char → List Char) : Prop where
  nil : f [] = []
  plain : ∀ c rest, c ≠ '&' → f (c :: rest) = c :: f rest
  reference : ∀ c ∈ ['&', '<', '>', '"', '\'', '/'], ∀ rest, f (escapeChar c ++ rest) = c :: f rest

theorem unescapes_unescapeChars : Unescapes unescapeChars where
  nil := rfl
  plain _ rest h := unescapeChars_cons h rest
  reference c hc rest := by
    simp only [List.mem_cons, List.not_mem_nil, or_false] at hc
    rcases hc with rfl | rfl | rfl | rfl | rfl | rfl <;> rfl

/-- Every such reader reads an escaped text back, since no ampersand of the text is left alone. -/
theorem Unescapes.escape_append {f : List Char → List Char} (h : Unescapes f)
    (cs rest : List Char) : f (cs.flatMap escapeChar ++ rest) = cs ++ f rest := by
  induction cs with
  | nil => rfl
  | cons c cs ih =>
    rw [List.flatMap_cons, List.append_assoc]
    by_cases hc : c ∈ ['&', '<', '>', '"', '\'', '/']
    · rw [h.reference c hc, ih, List.cons_append]
    · have hamp : c ≠ '&' := fun heq => hc (heq ▸ List.mem_cons_self)
      rw [escapeChar_of_not_mem hc, List.singleton_append, h.plain c _ hamp, ih, List.cons_append]

theorem Unescapes.escape {f : List Char → List Char} (h : Unescapes f) (cs : List Char) :
    f (cs.flatMap escapeChar) = cs := by
  rw [← List.append_nil (cs.flatMap escapeChar), h.escape_append, h.nil, List.append_nil]

/-- Escaping is undone exactly. -/
theorem unescape_escape (s : String) : unescape (escape s) = s := by
  rw [unescape, Html.escape, String.toList_ofList, unescapes_unescapeChars.escape,
    String.ofList_toList]

end Text.Html

namespace Text.Percent

/-- A character of a percent-encoded text. -/
def isStrict (c : Char) : Bool :=
  c.isAlphanum || c = '%'

theorem isMarkup_of_isStrict {c : Char} (h : isStrict c = true) : Html.isMarkup c = false :=
  Html.isMarkup_of (by decide) h

theorem isStrict_upperDigit {n : Nat} (h : n < 16) : isStrict (upperDigit n) = true := by
  revert n
  decide

theorem isStrict_of_mem_strictByte {b : UInt8} {c : Char} (h : c ∈ strictByte b) :
    isStrict c = true := by
  have hb : b.toNat < 256 := b.toNat_lt
  unfold strictByte at h
  dsimp only at h
  split at h
  · next halnum =>
    rw [List.mem_singleton] at h
    simp only [Bool.and_eq_true] at halnum
    rw [isStrict, h, halnum.2, Bool.true_or]
  · rw [triple, List.mem_cons, List.mem_cons, List.mem_singleton] at h
    rcases h with rfl | rfl | rfl
    · rfl
    · exact isStrict_upperDigit (by omega)
    · exact isStrict_upperDigit (by omega)

/-- A percent-encoded text is made of letters, digits and percent signs. -/
theorem isStrict_of_mem_encodeStrict {s : String} {c : Char} (h : c ∈ (encodeStrict s).toList) :
    isStrict c = true := by
  rw [encodeStrict, String.toList_ofList, List.mem_flatMap] at h
  obtain ⟨b, -, hc⟩ := h
  exact isStrict_of_mem_strictByte hc

end Text.Percent

namespace Export

/-- A character of the address of an export. -/
def isAddress (c : Char) : Bool :=
  c.isAlphanum || c = '-' || c = '_' || c = '/'

theorem isMarkup_of_isAddress {c : Char} (h : isAddress c = true) : Text.Html.isMarkup c = false :=
  Text.Html.isMarkup_of (by decide) h

theorem isAddress_of_isLetter {c : Char} (h : Digest.isLetter c = true) : isAddress c = true := by
  rw [isAddress, ← Digest.isLetter, h, Bool.true_or]

/-- The address of an export is made of letters, digits, hyphens, underscores and slashes, whatever
the ids are. -/
theorem isAddress_of_mem_url {r : Ruleset} {c : Char} (h : c ∈ (url r).toList) :
    isAddress c = true := by
  rw [url, String.toList_append, String.toList_append, List.mem_append, List.mem_append] at h
  have hends : ("/r/".toList ++ "/tsv".toList).all isAddress = true := by decide
  rcases h with (h | h) | h
  · exact List.all_eq_true.mp hends c (List.mem_append_left _ h)
  · rw [hashOf, hash, Digest.base64Url, String.toList_ofList] at h
    exact isAddress_of_isLetter (Digest.isLetter_of_mem_letters h)
  · exact List.all_eq_true.mp hends c (List.mem_append_right _ h)

end Export

end Rulebook
