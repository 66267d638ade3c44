import Rulebook.Proofs.Json.RoundTrip
import Rulebook.Proofs.Text.Utf8

/-!
# JSON read from bytes

The bytes of a text that is JSON are read as the text is (`Raw.parseBytes?_encode`). All marks of
the grammar are ASCII, and each of them is one byte, while the bytes of other characters lie above.
So each stage of the reader stops in the bytes (`spread`) where it stops in the text, and what the
bytes of a string spell are the bytes of the string (`spelled?_spread`). There are more bytes than
characters, so what is read in so many steps is read in any greater number of them (`ReadSpread`).
-/

namespace Rulebook.Json

open Raw (Piece pieces? spelled? charString? byteString? skipSpace)
open Text.Utf8 (encode encodeChar)

/-- The bytes of a character, each seen as the character of its number. -/
def spreadChar (c : Char) : List Char :=
  (encodeChar c).map fun b => Char.ofNat b.toNat

/-- The bytes of characters. -/
def spread (cs : List Char) : List Char :=
  cs.flatMap spreadChar

theorem toNat_ofNat_toNat (b : UInt8) : (Char.ofNat b.toNat).toNat = b.toNat := by
  have hb : b.toNat < 256 := b.toNat_lt
  have hvalid : b.toNat.isValidChar := .inl (by omega)
  rw [Char.ofNat, dif_pos hvalid]
  rfl

theorem spreadChar_of_lt {c : Char} (h : c.toNat < 0x80) : spreadChar c = [c] := by
  rw [spreadChar, encodeChar, if_pos h, List.map_singleton, Text.Utf8.toNat_toUInt8 (by omega),
    Char.ofNat_toNat]

/-- The bytes of a character that is not ASCII are not ASCII either. -/
theorem le_of_mem_spreadChar {c d : Char} (h : 0x80 ≤ c.toNat) (hd : d ∈ spreadChar c) :
    0x80 ≤ d.toNat := by
  obtain ⟨b, hb, rfl⟩ := List.mem_map.mp hd
  rw [toNat_ofNat_toNat]
  by_cases hlow : b.toNat < 0x80
  · exact absurd (Text.Utf8.toNat_eq_of_mem_encodeChar hb hlow) (by omega)
  · omega

/-- Every character has a byte. -/
theorem spreadChar_eq_cons (c : Char) : ∃ d ds, spreadChar c = d :: ds := by
  obtain ⟨b, bytes, hbytes, -⟩ := Text.Utf8.readChar_encodeChar c
  exact ⟨_, _, by rw [spreadChar, hbytes, List.map_cons]⟩

section

variable {c : Char} {cs : List Char}

theorem spread_cons (c : Char) (cs : List Char) : spread (c :: cs) = spreadChar c ++ spread cs :=
  List.flatMap_cons

theorem spread_cons_of_lt (h : c.toNat < 0x80) (cs : List Char) :
    spread (c :: cs) = c :: spread cs := by
  rw [spread_cons, spreadChar_of_lt h, List.singleton_append]

theorem length_le_spread (cs : List Char) : cs.length ≤ (spread cs).length := by
  induction cs with
  | nil => exact Nat.le_refl _
  | cons c cs ih =>
    obtain ⟨d, ds, hd⟩ := spreadChar_eq_cons c
    rw [spread_cons, hd, List.length_append, List.length_cons, List.length_cons]
    omega

/-- An ASCII character that stands first in the bytes stands first in the text. -/
theorem head?_of_spread {m : Char} (hm : m.toNat < 0x80) (h : (spread cs).head? = some m) :
    cs.head? = some m := by
  cases cs with
  | nil => exact h
  | cons c cs =>
    by_cases hc : c.toNat < 0x80
    · rwa [spread_cons_of_lt hc] at h
    · obtain ⟨d, ds, hd⟩ := spreadChar_eq_cons c
      rw [spread_cons, hd, List.cons_append, List.head?_cons, Option.some.injEq] at h
      have hhigh : 0x80 ≤ d.toNat :=
        le_of_mem_spreadChar (c := c) (by omega) (hd ▸ List.mem_cons_self)
      rw [h] at hhigh
      omega

/-- Bytes that begin with an ASCII character are those of a text that does. -/
theorem exists_cons_of_spread {m : Char} {ds : List Char} (hm : m.toNat < 0x80)
    (h : spread cs = m :: ds) : ∃ left, cs = m :: left :=
  List.head?_eq_some_iff.mp (head?_of_spread hm (congrArg List.head? h))

theorem toNat_lt_of_isSpace {c : Char} (h : Raw.isSpace c = true) : c.toNat < 0x80 := by
  simp only [Raw.isSpace, Bool.or_eq_true, decide_eq_true_eq] at h
  rcases h with ((rfl | rfl) | rfl) | rfl <;> decide

/-- Blanks are passed over in the bytes as in the text. -/
theorem skipSpace_spread (cs : List Char) : skipSpace (spread cs) = spread (skipSpace cs) := by
  induction cs with
  | nil => rfl
  | cons c cs ih =>
    cases hc : Raw.isSpace c with
    | true =>
      rw [spread_cons_of_lt (toNat_lt_of_isSpace hc)]
      simpa [skipSpace, hc] using ih
    | false =>
      obtain ⟨d, ds, hd⟩ : ∃ d ds, spread (c :: cs) = d :: ds := by
        obtain ⟨d, ds, hd⟩ := spreadChar_eq_cons c
        exact ⟨d, ds ++ spread cs, by rw [spread_cons, hd, List.cons_append]⟩
      have hspace : Raw.isSpace d = false := by
        cases hblank : Raw.isSpace d with
        | false => rfl
        | true =>
          obtain ⟨left, heq⟩ := exists_cons_of_spread (toNat_lt_of_isSpace hblank) hd
          rw [(List.cons.inj heq).1, hblank] at hc
          exact hc
      simp [skipSpace, hc, hd, hspace]

end

/-! ## Numbers -/

theorem toNat_lt_of_isDigit {c : Char} (h : c.isDigit = true) : c.toNat < 0x80 := by
  have hc : 48 ≤ c.toNat ∧ c.toNat ≤ 57 := by
    simpa [Char.isDigit, UInt32.le_iff_toNat_le] using h
  omega

theorem toNat_lt_of_isNumeral {c : Char} (h : isNumeral c = true) : c.toNat < 0x80 := by
  rw [isNumeral, Bool.or_eq_true, decide_eq_true_eq] at h
  rcases h with hdigit | hmark
  · exact toNat_lt_of_isDigit hdigit
  · simp only [List.mem_cons, List.not_mem_nil, or_false] at hmark
    rcases hmark with rfl | rfl | rfl | rfl | rfl <;> decide

/-- The reader of a number does not see whether it reads characters or bytes. -/
theorem keepsNumerals_spread : KeepsNumerals spread where
  cons h cs := spread_cons_of_lt (toNat_lt_of_isNumeral h) cs
  front h heq := exists_cons_of_spread (toNat_lt_of_isNumeral h) heq

/-! ## Strings -/

/-- A piece of a text as pieces of its bytes. -/
def spreadPiece : Piece → List Piece
  | .char c => (spreadChar c).map .char
  | .unit n => [.unit n]

theorem toNat_lt_of_hexValue? {c : Char} {n : Nat} (h : Raw.hexValue? c = some n) :
    c.toNat < 0x80 := by
  have hle : ∀ {d : Char}, d.toNat < 0x80 → c ≤ d → c.toNat < 0x80 := fun hd hcd =>
    Nat.lt_of_le_of_lt (UInt32.le_iff_toNat_le.mp hcd) hd
  unfold Raw.hexValue? at h
  split at h
  · next hdigit =>
    have hrange : '0' ≤ c ∧ c ≤ '9' := by simpa using hdigit
    exact hle (d := '9') (by decide) hrange.2
  split at h
  · next hlower =>
    have hrange : 'a' ≤ c ∧ c ≤ 'f' := by simpa using hlower
    exact hle (d := 'f') (by decide) hrange.2
  split at h
  · next hupper =>
    have hrange : 'A' ≤ c ∧ c ≤ 'F' := by simpa using hupper
    exact hle (d := 'F') (by decide) hrange.2
  · cases h

/-- The digits of a unit are ASCII. -/
theorem toNat_lt_of_unitOf? {a b c d : Char} {n : Nat} (h : Raw.unitOf? a b c d = some n) :
    a.toNat < 0x80 ∧ b.toNat < 0x80 ∧ c.toNat < 0x80 ∧ d.toNat < 0x80 := by
  unfold Raw.unitOf? at h
  split at h
  · next ha hb hc hd =>
    exact ⟨toNat_lt_of_hexValue? ha, toNat_lt_of_hexValue? hb, toNat_lt_of_hexValue? hc,
      toNat_lt_of_hexValue? hd⟩
  · cases h

/-- The letter of an escape and the character it stands for are ASCII. -/
theorem toNat_lt_of_escape? {e c : Char} (h : Raw.escape? e = some c) :
    e.toNat < 0x80 ∧ c.toNat < 0x80 ∧ e ≠ 'u' := by
  unfold Raw.escape? at h
  repeat' split at h
  all_goals cases h
  all_goals next heq => subst heq; decide

/-- Characters that are not ASCII stand for themselves. -/
theorem pieces?_append_high {ds cs rest : List Char} {ps : List Piece}
    (hds : ∀ d ∈ ds, 0x80 ≤ d.toNat) (h : pieces? cs = some (ps, rest)) :
    pieces? (ds ++ cs) = some (ds.map .char ++ ps, rest) := by
  induction ds with
  | nil => exact h
  | cons d ds ih =>
    have hd : 0x80 ≤ d.toNat := hds d List.mem_cons_self
    have hquote : d ≠ '"' := by rintro rfl; exact absurd hd (by decide)
    have hback : d ≠ '\\' := by rintro rfl; exact absurd hd (by decide)
    have hcontrol : ¬ d.toNat < 0x20 := by omega
    simp [pieces?, hback, hcontrol, ih fun e he => hds e (List.mem_cons_of_mem d he)]

theorem pieces?_spread {cs rest : List Char} {ps : List Piece}
    (h : pieces? cs = some (ps, rest)) :
    pieces? (spread cs) = some (ps.flatMap spreadPiece, spread rest) := by
  fun_induction pieces? cs generalizing ps rest with
  | case2 cs =>
    cases h
    rw [spread_cons_of_lt (by decide)]
    rfl
  | case3 a b c d cs n ps' cs' hpieces hunit ih =>
    cases h
    obtain ⟨ha, hb, hc, hd⟩ := toNat_lt_of_unitOf? hunit
    rw [spread_cons_of_lt (by decide), spread_cons_of_lt (by decide), spread_cons_of_lt ha,
      spread_cons_of_lt hb, spread_cons_of_lt hc, spread_cons_of_lt hd]
    simp [pieces?, hunit, ih hpieces, spreadPiece]
  | case5 e cs _ c ps' cs' hpieces hescape ih =>
    cases h
    obtain ⟨he, hc, hu⟩ := toNat_lt_of_escape? hescape
    rw [spread_cons_of_lt (by decide), spread_cons_of_lt he]
    simp [pieces?, hu, hescape, ih hpieces, spreadPiece, spreadChar_of_lt hc]
  | case8 c cs hquote _ _ hplain ps' cs' hpieces ih =>
    cases h
    by_cases hc : c.toNat < 0x80
    · rw [spread_cons_of_lt hc]
      have hplain' : c ≠ '\\' ∧ ¬ c.toNat < 0x20 := by simpa using hplain
      simp [pieces?, hplain', ih hpieces, spreadPiece, spreadChar_of_lt hc]
    · rw [spread_cons, List.flatMap_cons]
      exact pieces?_append_high (fun d => le_of_mem_spreadChar (by omega)) (ih hpieces)
  | case1 | case4 | case6 | case7 | case9 => cases h

/-- What the pieces of a text spell is spelled by their bytes, byte by byte. -/
theorem spelled?_spread (ps : List Piece) :
    spelled? (fun c => [c.toNat.toUInt8]) encodeChar (ps.flatMap spreadPiece) =
      (spelled? (fun c => [c]) (fun c => [c]) ps).map (·.flatMap encodeChar) := by
  have hrun : ∀ (bytes : List UInt8) (ps : List Piece),
      spelled? (fun c => [c.toNat.toUInt8]) encodeChar
          ((bytes.map fun b => Piece.char (Char.ofNat b.toNat)) ++ ps) =
        (spelled? (fun c => [c.toNat.toUInt8]) encodeChar ps).map (bytes ++ ·) := by
    intro bytes ps
    induction bytes with
    | nil => simp
    | cons b bytes ih =>
      rw [List.map_cons, List.cons_append, spelled?, ih, Option.map_map, toNat_ofNat_toNat]
      simp [Function.comp_def]
  fun_induction spelled? (fun c => [c]) (fun c => [c]) ps with
  | case1 => rfl
  | case2 c ps ih =>
    have hpieces : spreadPiece (.char c) =
        (encodeChar c).map fun b => Piece.char (Char.ofNat b.toNat) := by
      simp [spreadPiece, spreadChar]
    rw [List.flatMap_cons, hpieces, hrun, ih]
    simp [Option.map_map, Function.comp_def]
  | case3 n hhigh m ps hlow ih =>
    simp [spreadPiece, spelled?, hhigh, hlow, ih, Option.map_map, Function.comp_def]
  | case4 n hhigh m ps hlow => simp [spreadPiece, spelled?, hhigh, hlow]
  | case5 n ps hhigh hpiece =>
    -- a first half with a character behind it: that has bytes, of which the first is no unit
    cases ps with
    | nil => simp [spreadPiece, spelled?, hhigh]
    | cons p ps =>
      cases p with
      | unit m => exact absurd rfl (hpiece m ps)
      | char c =>
        obtain ⟨d, ds, hd⟩ := spreadChar_eq_cons c
        simp [spreadPiece, spelled?, hhigh, hd]
  | case6 n ps hhigh hlow =>
    rw [List.flatMap_cons, spreadPiece, List.singleton_append]
    unfold spelled?
    rw [if_neg hhigh, if_pos hlow]
    rfl
  | case7 n ps hhigh hlow ih =>
    rw [List.flatMap_cons, spreadPiece, List.singleton_append]
    conv => lhs; unfold spelled?
    rw [if_neg hhigh, if_neg hlow, ih, Option.map_map, Option.map_map]
    simp [Function.comp_def]

/-- A string is read from its bytes, whether it has a value or not. -/
theorem text?_spread {cs rest : List Char} {s : Option String}
    (h : Raw.text? charString? cs = some (s, rest)) :
    Raw.text? byteString? (spread cs) = some (s, spread rest) := by
  obtain ⟨⟨ps, left⟩, hpieces, heq⟩ := Option.map_eq_some_iff.mp h
  cases heq
  have hstring : byteString? (ps.flatMap spreadPiece) = charString? ps := by
    rw [byteString?, charString?, spelled?_spread]
    cases spelled? (fun c => [c]) (fun c => [c]) ps with
    | none => rfl
    | some cs =>
      have hdecode := Text.Utf8.decode?_encode (String.ofList cs)
      rw [encode, String.toList_ofList] at hdecode
      exact hdecode
  rw [Raw.text?, pieces?_spread hpieces, Option.map_some, ← hstring]

/-! ## Values -/

theorem atom_spread {cs rest : List Char} {tree : Raw} (h : Raw.atom cs = (tree, some rest)) :
    (∃ c left, cs = c :: left ∧ c.toNat < 0x80) ∧
      Raw.atom (spread cs) = (tree, some (spread rest)) := by
  unfold Raw.atom at h
  split at h
  · cases h
    refine ⟨⟨_, _, rfl, by decide⟩, ?_⟩
    simp [spread_cons_of_lt, Raw.atom]
  · cases h
    refine ⟨⟨_, _, rfl, by decide⟩, ?_⟩
    simp [spread_cons_of_lt, Raw.atom]
  · cases h
    refine ⟨⟨_, _, rfl, by decide⟩, ?_⟩
    simp [spread_cons_of_lt, Raw.atom]
  · split at h
    · next l left hliteral =>
      cases h
      obtain ⟨c, cs, rfl, hc⟩ := literal?_head hliteral
      have hascii : c.toNat < 0x80 := by
        rcases hc with rfl | hdigit
        · decide
        · exact toNat_lt_of_isDigit hdigit
      refine ⟨⟨c, cs, rfl, hascii⟩, ?_⟩
      have hread := keepsNumerals_spread.literal? hliteral
      rw [spread_cons_of_lt hascii] at hread ⊢
      have hletter : c ≠ 't' ∧ c ≠ 'f' ∧ c ≠ 'n' := by
        refine ⟨?_, ?_, ?_⟩ <;> rintro rfl <;> exact absurd hc (by decide)
      simp [Raw.atom, hletter, hread]
    · cases h

/-- What is read of a text in so many steps is read of its bytes in as many or more. -/
structure ReadSpread (fuel : Nat) : Prop where
  value : ∀ {more depth cs tree rest}, fuel ≤ more →
    Raw.value charString? fuel depth cs = (tree, some rest) →
      Raw.value byteString? more depth (spread cs) = (tree, some (spread rest))
  items : ∀ {more depth cs xs rest}, fuel ≤ more →
    Raw.items charString? fuel depth cs = (xs, some rest) →
      Raw.items byteString? more depth (spread cs) = (xs, some (spread rest))
  members : ∀ {more depth cs ms rest}, fuel ≤ more →
    Raw.members charString? fuel depth cs = (ms, some rest) →
      Raw.members byteString? more depth (spread cs) = (ms, some (spread rest))

namespace ReadSpread

variable {fuel more depth : Nat} {cs rest : List Char}

theorem value_succ (h : ReadSpread fuel) (hmore : fuel ≤ more) {tree : Raw}
    (hread : Raw.value charString? (fuel + 1) depth cs = (tree, some rest)) :
    Raw.value byteString? (more + 1) depth (spread cs) = (tree, some (spread rest)) := by
  rw [Raw.value] at hread ⊢
  rw [skipSpace_spread]
  split at hread
  · cases hread
  · next after hquote =>
    rw [hquote, spread_cons_of_lt (by decide)]
    split at hread
    · next s left htext =>
      cases hread
      simp only [text?_spread htext]
    · cases hread
  · next after hbracket =>
    rw [hbracket, spread_cons_of_lt (by decide)]
    simp only [skipSpace_spread]
    split at hread
    · next left hclose =>
      cases hread
      rw [hclose, spread_cons_of_lt (by decide)]
      rfl
    · next hopen =>
      rcases hitems : Raw.items charString? fuel (depth + 1) after with ⟨xs, left⟩
      rw [hitems] at hread
      cases hread
      split
      · next heq =>
        obtain ⟨left, hclose⟩ := exists_cons_of_spread (by decide) heq
        exact absurd hclose (hopen left)
      · rw [h.items hmore hitems]
  · next after hbrace =>
    rw [hbrace, spread_cons_of_lt (by decide)]
    simp only [skipSpace_spread]
    split at hread
    · next left hclose =>
      cases hread
      rw [hclose, spread_cons_of_lt (by decide)]
      rfl
    · next hopen =>
      rcases hmembers : Raw.members charString? fuel (depth + 1) after with ⟨ms, left⟩
      rw [hmembers] at hread
      cases hread
      split
      · next heq =>
        obtain ⟨left, hclose⟩ := exists_cons_of_spread (by decide) heq
        exact absurd hclose (hopen left)
      · rw [h.members hmore hmembers]
  · next hquote hbracket hbrace =>
    obtain ⟨⟨c, after, hcs, hc⟩, hatom⟩ := atom_spread hread
    rw [hcs] at hquote hbracket hbrace
    rw [hcs, spread_cons_of_lt hc] at hatom ⊢
    split
    · next heq => cases heq
    · next heq => exact absurd (by rw [(List.cons.inj heq).1]) (hquote after)
    · next heq => exact absurd (by rw [(List.cons.inj heq).1]) (hbracket after)
    · next heq => exact absurd (by rw [(List.cons.inj heq).1]) (hbrace after)
    · exact hatom

theorem items_succ (h : ReadSpread fuel) (hmore : fuel ≤ more) {xs : List Raw}
    (hread : Raw.items charString? (fuel + 1) depth cs = (xs, some rest)) :
    Raw.items byteString? (more + 1) depth (spread cs) = (xs, some (spread rest)) := by
  rw [Raw.items] at hread ⊢
  split at hread
  · cases hread
  · next x after hvalue =>
    rw [h.value hmore hvalue]
    simp only [skipSpace_spread]
    split at hread
    · next left hclose =>
      cases hread
      rw [hclose, spread_cons_of_lt (by decide)]
      rfl
    · next left hcomma =>
      rcases hitems : Raw.items charString? fuel depth left with ⟨xs, last⟩
      rw [hitems] at hread
      cases hread
      rw [hcomma, spread_cons_of_lt (by decide)]
      simp only [h.items hmore hitems]
    · cases hread

theorem members_succ (h : ReadSpread fuel) (hmore : fuel ≤ more)
    {ms : List (Option String × Raw)}
    (hread : Raw.members charString? (fuel + 1) depth cs = (ms, some rest)) :
    Raw.members byteString? (more + 1) depth (spread cs) = (ms, some (spread rest)) := by
  rw [Raw.members] at hread ⊢
  rw [skipSpace_spread]
  split at hread
  · next after hquote =>
    rw [hquote, spread_cons_of_lt (by decide)]
    split at hread
    · cases hread
    · next key after htext =>
      simp only [text?_spread htext, skipSpace_spread]
      split at hread
      · next after hcolon =>
        rw [hcolon, spread_cons_of_lt (by decide)]
        split at hread
        · cases hread
        · next x after hvalue =>
          simp only [h.value hmore hvalue, skipSpace_spread]
          split at hread
          · next left hclose =>
            cases hread
            rw [hclose, spread_cons_of_lt (by decide)]
            rfl
          · next left hcomma =>
            rcases hmembers : Raw.members charString? fuel depth left with ⟨ms, last⟩
            rw [hmembers] at hread
            cases hread
            rw [hcomma, spread_cons_of_lt (by decide)]
            simp only [h.members hmore hmembers]
          · cases hread
      · cases hread
  · cases hread

end ReadSpread

theorem readSpread (fuel : Nat) : ReadSpread fuel := by
  induction fuel with
  | zero => constructor <;> (intros; next hread => cases hread)
  | succ fuel ih =>
    constructor
    all_goals
      intro more depth cs _ rest hmore hread
      obtain ⟨more, rfl⟩ : ∃ m, more = m + 1 := ⟨more - 1, by omega⟩
    case value => exact ih.value_succ (by omega) hread
    case items => exact ih.items_succ (by omega) hread
    case members => exact ih.members_succ (by omega) hread

/-- **Bytes are read as the text they are the bytes of.** -/
theorem Raw.parseBytes?_encode {s : String} {tree : Raw} (h : Raw.parse? s = some tree) :
    Raw.parseBytes? (encode s) = some tree := by
  have hbytes : (encode s).map (fun b => Char.ofNat b.toNat) = spread s.toList := by
    rw [encode, spread, List.map_flatMap]
    rfl
  rw [parse?, parseChars?, scanChars] at h
  rw [parseBytes?, parseChars?, scanChars, hbytes]
  rcases hread : Raw.value charString? (s.toList.length + 1) 0 s.toList with ⟨tree', _ | rest⟩
  · simp [hread] at h
  · rw [(readSpread _).value (Nat.succ_le_succ (length_le_spread s.toList)) hread]
    simp only [hread, Option.any_some, skipSpace_spread] at h ⊢
    cases hblank : skipSpace rest with
    | nil =>
      rw [hblank] at h
      exact h
    | cons c cs => simp [hblank] at h

end Rulebook.Json
