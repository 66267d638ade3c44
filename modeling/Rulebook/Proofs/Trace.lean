import Rulebook.Proofs.Site.Anonymous
import Rulebook.Proofs.Text.Blank

/-!
# Spellings of trace ids

A trace id has four spellings, its digits in either case: 32 digits, the same in five groups with
hyphens between them, the groups in braces, and the groups after `urn:uuid:`. These are exactly the
texts that are read as the id (`TraceId.parse?_eq_some_iff`), so no text spells two ids. The written
form is one of them; a request that brings it along names the id again
(`Http.Request.names_of_render`).
-/

namespace Rulebook

namespace TraceId

/-- Characters that stand for the digits of an id, one for each. -/
def Digits (t : TraceId) (cs : List Char) : Prop :=
  cs.map digit? = t.digits.map some

/-- The spellings of an id. -/
inductive Spelling (t : TraceId) : List Char → Prop
  | plain {cs : List Char} (h : t.Digits cs) : Spelling t cs
  | grouped {cs : List Char} (h : t.Digits cs) : Spelling t (hyphenate cs)
  | braced {cs : List Char} (h : t.Digits cs) : Spelling t ('\x7b' :: hyphenate cs ++ ['\x7d'])
  | named {cs scheme : List Char} (h : t.Digits cs)
      (hscheme : scheme.map Char.toLower = "urn:uuid:".toList) : Spelling t (scheme ++ hyphenate cs)

/-! ## Digits -/

theorem Digits.length_eq {t : TraceId} {cs : List Char} (h : t.Digits cs) : cs.length = 32 := by
  have hlength := congrArg List.length h
  rw [List.length_map, List.length_map, t.length_eq] at hlength
  exact hlength

theorem digits?_eq_some_iff {cs : List Char} {ds : List (Fin 16)} :
    digits? cs = some ds ↔ cs.map digit? = ds.map some := by
  unfold digits?
  induction cs generalizing ds with
  | nil => cases ds <;> simp
  | cons c cs ih =>
    cases ds with
    | nil => simp [List.mapM_cons, Option.bind_eq_some_iff]
    | cons d ds => simp [List.mapM_cons, Option.bind_eq_some_iff, ih]

theorem parsePlain?_eq_some_iff {t : TraceId} {cs : List Char} :
    parsePlain? cs = some t ↔ t.Digits cs := by
  simp only [parsePlain?, Option.bind_eq_some_iff, digits?_eq_some_iff, Digits]
  constructor
  · rintro ⟨ds, hds, hid⟩
    unfold ofDigits? at hid
    split at hid
    · cases hid
      exact hds
    · cases hid
  · exact fun h => ⟨t.digits, h, dif_pos t.length_eq⟩

theorem digits_digitChar (t : TraceId) : t.Digits (t.digits.map digitChar) := by
  have hdigit : ∀ d, digit? (digitChar d) = some d := by decide
  simp [Digits, Function.comp_def, hdigit]

/-! ## Groups -/

/-- Five groups with hyphens between them. -/
def groups (a b c d e : List Char) : List Char :=
  a ++ '-' :: (b ++ '-' :: (c ++ '-' :: (d ++ '-' :: e)))

section Groups

variable {a b c d e : List Char} (ha : a.length = 8) (hb : b.length = 4) (hc : c.length = 4)
  (hd : d.length = 4)

include ha hb hc hd

theorem hyphenate_append : hyphenate (a ++ (b ++ (c ++ (d ++ e)))) = groups a b c d e := by
  simp [hyphenate, groups, List.drop_append, List.drop_of_length_le, ha, hb, hc, hd]

theorem unhyphenate?_groups (he : e.length = 12) :
    unhyphenate? (groups a b c d e) = some (a ++ (b ++ (c ++ (d ++ e)))) := by
  simp [unhyphenate?, groups, List.drop_append, List.drop_of_length_le, ha, hb, hc, hd, he]

end Groups

theorem unhyphenate?_hyphenate {cs : List Char} (h : cs.length = 32) :
    unhyphenate? (hyphenate cs) = some cs := by
  have hgroups : cs = cs.take 8 ++ ((cs.drop 8).take 4 ++ ((cs.drop 12).take 4 ++
      ((cs.drop 16).take 4 ++ cs.drop 20))) := by
    have hrest : ∀ n m, (cs.drop n).take m ++ cs.drop (n + m) = cs.drop n := fun n m => by
      rw [← List.drop_drop, List.take_append_drop]
    rw [hrest 16 4, hrest 12 4, hrest 8 4, List.take_append_drop]
  rw [hgroups, hyphenate_append, unhyphenate?_groups] <;> simp [h]

/-- A list from a place on, where the character at the place is known. -/
theorem eq_take_append_cons_drop {cs : List Char} {n : Nat} {c : Char} (h : cs[n]? = some c) :
    cs = cs.take n ++ c :: cs.drop (n + 1) := by
  obtain ⟨hn, hc⟩ := List.getElem?_eq_some_iff.mp h
  rw [← hc, ← List.drop_eq_getElem_cons hn, List.take_append_drop]

theorem eq_hyphenate_of_unhyphenate? {cs ds : List Char} (h : unhyphenate? cs = some ds) :
    ds.length = 32 ∧ cs = hyphenate ds := by
  unfold unhyphenate? at h
  split at h
  · next hplaces =>
    obtain ⟨hlength, h8, h13, h18, h23⟩ := hplaces
    cases h
    have hgroups : cs = groups (cs.take 8) ((cs.drop 9).take 4) ((cs.drop 14).take 4)
        ((cs.drop 19).take 4) (cs.drop 24) := by
      have hrest : ∀ n m, cs[n + m]? = some '-' →
          cs.drop n = (cs.drop n).take m ++ '-' :: cs.drop (n + m + 1) := fun n m hn => by
        rw [Nat.add_assoc, ← List.drop_drop]
        exact eq_take_append_cons_drop (List.getElem?_drop ▸ hn)
      rw [groups, ← hrest 19 4 h23, ← hrest 14 4 h18, ← hrest 9 4 h13]
      exact eq_take_append_cons_drop h8
    refine ⟨by simp [hlength], ?_⟩
    simp only [List.append_assoc]
    rw [hyphenate_append] <;> first | exact hgroups | simp [hlength]
  · cases h

theorem parseHyphenated?_eq_some_iff {t : TraceId} {cs : List Char} :
    parseHyphenated? cs = some t ↔ ∃ ds, t.Digits ds ∧ cs = hyphenate ds := by
  simp only [parseHyphenated?, Option.bind_eq_some_iff, parsePlain?_eq_some_iff]
  constructor
  · rintro ⟨ds, hds, hdigits⟩
    exact ⟨ds, hdigits, (eq_hyphenate_of_unhyphenate? hds).2⟩
  · rintro ⟨ds, hdigits, rfl⟩
    exact ⟨ds, unhyphenate?_hyphenate hdigits.length_eq, hdigits⟩

theorem length_hyphenate {cs : List Char} (h : cs.length = 32) : (hyphenate cs).length = 36 := by
  simp [hyphenate, h]

/-! ## The four spellings -/

theorem eq_braced {cs : List Char} (hlength : cs.length = 38) (hfirst : cs.head? = some '\x7b')
    (hlast : cs.getLast? = some '\x7d') :
    cs = '\x7b' :: (cs.drop 1).take 36 ++ ['\x7d'] := by
  obtain ⟨rest, rfl⟩ := List.head?_eq_some_iff.mp hfirst
  rcases List.eq_nil_or_concat' rest with rfl | ⟨inner, last, rfl⟩
  · simp at hlength
  · have hinner : inner.length = 36 := by simpa using hlength
    rw [← List.cons_append, List.getLast?_concat, Option.some.injEq] at hlast
    simp [hlast, ← hinner]


theorem parseChars?_eq_some_iff {t : TraceId} {cs : List Char} :
    parseChars? cs = some t ↔ t.Spelling cs := by
  constructor
  · intro h
    unfold parseChars? at h
    split at h
    · exact .plain (parsePlain?_eq_some_iff.mp h)
    split at h
    · obtain ⟨ds, hdigits, rfl⟩ := parseHyphenated?_eq_some_iff.mp h
      exact .grouped hdigits
    split at h
    · next hlength =>
      split at h
      · next hbraces =>
        obtain ⟨ds, hdigits, hds⟩ := parseHyphenated?_eq_some_iff.mp h
        rw [eq_braced hlength hbraces.1 hbraces.2, hds]
        exact .braced hdigits
      · cases h
    split at h
    · split at h
      · next hscheme =>
        obtain ⟨ds, hdigits, hds⟩ := parseHyphenated?_eq_some_iff.mp h
        rw [← List.take_append_drop 9 cs, hds]
        exact .named hdigits hscheme
      · cases h
    · cases h
  · intro h
    cases h with
    | plain hdigits =>
      rw [parseChars?, if_pos hdigits.length_eq]
      exact parsePlain?_eq_some_iff.mpr hdigits
    | @grouped ds hdigits =>
      have hlength := length_hyphenate hdigits.length_eq
      have hparse : parseHyphenated? (hyphenate ds) = some t :=
        parseHyphenated?_eq_some_iff.mpr ⟨ds, hdigits, rfl⟩
      simp [parseChars?, hlength, hparse]
    | @braced ds hdigits =>
      have hlength := length_hyphenate hdigits.length_eq
      have hparse : parseHyphenated? (hyphenate ds) = some t :=
        parseHyphenated?_eq_some_iff.mpr ⟨ds, hdigits, rfl⟩
      have hlast : ('\x7b' :: (hyphenate ds ++ ['\x7d'])).getLast? = some '\x7d' := by
        rw [← List.cons_append, List.getLast?_concat]
      simp [parseChars?, hlength, hparse, hlast]
    | @named ds scheme hdigits hscheme =>
      have hlength := length_hyphenate hdigits.length_eq
      have hnine : scheme.length = 9 := by simpa using congrArg List.length hscheme
      have hparse : parseHyphenated? (hyphenate ds) = some t :=
        parseHyphenated?_eq_some_iff.mpr ⟨ds, hdigits, rfl⟩
      simp [parseChars?, hlength, hnine, hscheme, hparse]

theorem parse?_eq_some_iff {t : TraceId} {s : String} :
    parse? s = some t ↔ t.Spelling s.toList :=
  parseChars?_eq_some_iff

/-- No text spells two ids. -/
theorem Spelling.unique {t t' : TraceId} {cs : List Char} (h : t.Spelling cs)
    (h' : t'.Spelling cs) : t = t' :=
  Option.some.inj ((parseChars?_eq_some_iff.mpr h).symm.trans (parseChars?_eq_some_iff.mpr h'))

/-! ## The written form -/

/-- The characters of the written form: hyphens, and digits in lower case. -/
theorem mem_render {t : TraceId} {c : Char} (h : c ∈ t.render.toList) :
    c = '-' ∨ ∃ d, c = digitChar d := by
  rw [render, String.toList_ofList] at h
  rcases mem_hyphenate h with rfl | hc
  · exact .inl rfl
  · obtain ⟨d, -, rfl⟩ := List.mem_map.mp hc
    exact .inr ⟨d, rfl⟩

theorem spelling_render (t : TraceId) : t.Spelling t.render.toList := by
  rw [render, String.toList_ofList]
  exact .grouped t.digits_digitChar

theorem trim_render (t : TraceId) : Text.trim t.render = t.render := by
  have hdigit : ∀ d, Text.isBlank (digitChar d) = false := by decide
  refine Text.trim_of_no_blank fun c hc => ?_
  rcases mem_render hc with rfl | ⟨d, rfl⟩
  · rfl
  · exact hdigit d

end TraceId

/-! ## Requests -/

namespace Http

/-- A header value that can be read as a text: visible ASCII, blanks and tabs. -/
def Legible (text : String) : Prop :=
  ∀ c ∈ text.toList, c = '\t' ∨ 0x20 ≤ c.toNat ∧ c.toNat < 0x7F

theorem asciiValue?_eq_some_iff {text value : String} :
    asciiValue? text = some value ↔ Legible text ∧ text = value := by
  have hchar : ∀ c : Char, (decide (c.toNat < 0x7F) && !isForbidden c) = true ↔
      c = '\t' ∨ 0x20 ≤ c.toNat ∧ c.toNat < 0x7F := by
    intro c
    by_cases htab : c = '\t'
    · subst htab
      decide
    · simp [isForbidden, htab]
      omega
  simp only [asciiValue?, List.all_eq_true, hchar, Option.ite_none_right_eq_some,
    Option.some.injEq, Legible]

/-- A request names a trace id: the text of its header, without the blanks around it, spells it. -/
def Request.Names (r : Request) (t : TraceId) : Prop :=
  ∃ text, r.header? traceHeader = some text ∧ Legible text ∧
    t.Spelling (Text.trim text).toList

theorem Request.Names.unique {r : Request} {t t' : TraceId} (h : r.Names t) (h' : r.Names t') :
    t = t' := by
  obtain ⟨text, htext, -, hspelling⟩ := h
  obtain ⟨text', htext', -, hspelling'⟩ := h'
  cases htext.symm.trans htext'
  exact hspelling.unique hspelling'

theorem Request.names_iff {r : Request} {t : TraceId} :
    r.Names t ↔ (((r.header? traceHeader).bind asciiValue?).bind fun s =>
      TraceId.parse? (Text.trim s)) = some t := by
  simp only [Names, Option.bind_eq_some_iff, asciiValue?_eq_some_iff, TraceId.parse?_eq_some_iff]
  constructor
  · rintro ⟨text, htext, hlegible, hspelling⟩
    exact ⟨text, ⟨text, htext, hlegible, rfl⟩, hspelling⟩
  · rintro ⟨_, ⟨text, htext, hlegible, rfl⟩, hspelling⟩
    exact ⟨text, htext, hlegible, hspelling⟩

/-- A request that brings the written form of an id along names that id. -/
theorem Request.names_of_render {r : Request} {t : TraceId}
    (h : r.header? traceHeader = some t.render) : r.Names t := by
  have hdigit : ∀ d : Fin 16, 0x20 ≤ (TraceId.digitChar d).toNat ∧
      (TraceId.digitChar d).toNat < 0x7F := by decide +kernel
  refine ⟨t.render, h, fun c hc => ?_, by rw [t.trim_render]; exact t.spelling_render⟩
  rcases TraceId.mem_render hc with rfl | ⟨d, rfl⟩
  · exact .inr (by decide)
  · exact .inr (hdigit d)

end Http

namespace Application

/-- The trace id of a request is the one it names. -/
theorem traceOf_of_names {r : Http.Request} {t : TraceId} (h : r.Names t) (fresh : TraceId) :
    traceOf r fresh = t := by
  rw [traceOf, Http.Request.names_iff.mp h, Option.getD_some]

/-- A request that names no trace id gets a fresh one. -/
theorem traceOf_of_not_names {r : Http.Request} (h : ∀ t, ¬ r.Names t) (fresh : TraceId) :
    traceOf r fresh = fresh := by
  simp only [Http.Request.names_iff, ← Option.eq_none_iff_forall_ne_some] at h
  rw [traceOf, h, Option.getD_none]

end Application

end Rulebook
