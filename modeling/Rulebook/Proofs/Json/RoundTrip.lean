import Rulebook.Json.Printer
import Rulebook.Json.Reading

/-!
# Written JSON is read back

A text in quotes is read back as the text, whatever its characters are. A number is read back if
its digits stand for it (`Number.Steady`), which those of every integer do (`Number.steady_int`);
what stands behind it is one of the things its reader does not see (`KeepsNumerals`). Every value
made of these in lists and objects that are not nested too deep is read back too
(`Raw.parse?_render`).
-/

namespace Rulebook.Json

open Raw (Piece pieces? spelled? charString? text? skipSpace unitOf?)

/-! ## Texts -/

/-- The hexadecimal digits of the characters below the blank are read back. -/
theorem unitOf?_hexDigit {n : Nat} (h : n < 0x20) :
    unitOf? '0' '0' (hexDigit (n / 16)) (hexDigit (n % 16)) = some n := by
  have hall : ∀ n : Fin 0x20,
      unitOf? '0' '0' (hexDigit (n.val / 16)) (hexDigit (n.val % 16)) = some n.val := by
    decide
  exact hall ⟨n, h⟩

/-- An escaped character is one piece, which stands for the character. -/
theorem pieces?_escapeChar (c : Char) :
    ∃ p, (∀ cs ps rest, pieces? cs = some (ps, rest) →
        pieces? (escapeChar c ++ cs) = some (p :: ps, rest)) ∧
      ∀ ps, spelled? ([·]) ([·]) (p :: ps) = (spelled? ([·]) ([·]) ps).map (c :: ·) := by
  by_cases hletter : c ∈ ['"', '\\', '\x08', '\x0c', '\n', '\r', '\t']
  · refine ⟨.char c, fun cs ps rest h => ?_, fun ps => rfl⟩
    simp only [List.mem_cons, List.not_mem_nil, or_false] at hletter
    rcases hletter with rfl | rfl | rfl | rfl | rfl | rfl | rfl <;>
      simp [escapeChar, pieces?, Raw.escape?, h]
  simp only [List.mem_cons, List.not_mem_nil, or_false, not_or] at hletter
  obtain ⟨hquote, hback, hb, hf, hn, hr, ht⟩ := hletter
  simp only [escapeChar, hquote, hback, hb, hf, hn, hr, ht, if_false]
  by_cases hcontrol : c.toNat < 0x20
  · -- the control characters without a letter of their own are written by number
    rw [if_pos hcontrol]
    refine ⟨.unit c.toNat, fun cs ps rest h => ?_, fun ps => ?_⟩
    · simp [pieces?, unitOf?_hexDigit hcontrol, h]
    · have hfirst : (0xD800 ≤ c.toNat && c.toNat ≤ 0xDBFF) = false := by simp; omega
      have hsecond : (0xDC00 ≤ c.toNat && c.toNat ≤ 0xDFFF) = false := by simp; omega
      conv => lhs; unfold spelled?
      simp only [hfirst, hsecond, Bool.false_eq_true, if_false, Char.ofNat_toNat,
        List.singleton_append]
  · rw [if_neg hcontrol]
    refine ⟨.char c, fun cs ps rest h => ?_, fun ps => rfl⟩
    simp [pieces?, h, hback, hcontrol]

/-- A text in quotes is read back, whatever comes after it. -/
theorem text?_escape (s : String) (rest : List Char) :
    text? charString? (s.toList.flatMap escapeChar ++ '"' :: rest) = some (some s, rest) := by
  obtain ⟨ps, hps, hchars⟩ : ∃ ps,
      pieces? (s.toList.flatMap escapeChar ++ '"' :: rest) = some (ps, rest) ∧
        spelled? ([·]) ([·]) ps = some s.toList := by
    induction s.toList with
    | nil => exact ⟨[], by simp [pieces?], rfl⟩
    | cons c cs ih =>
      obtain ⟨ps, hps, hchars⟩ := ih
      obtain ⟨p, hp, hc⟩ := pieces?_escapeChar c
      refine ⟨p :: ps, ?_, by rw [hc, hchars, Option.map_some]⟩
      rw [List.flatMap_cons, List.append_assoc]
      exact hp _ ps rest hps
  simp [text?, charString?, hps, hchars]

/-! ## Numbers -/

/-- The characters of a number. -/
def isNumeral (c : Char) : Bool :=
  c.isDigit || c ∈ ['.', 'e', 'E', '+', '-']

/-- A change of texts that the reader of a number does not see: the characters of a number stay
where they are, and none comes to the front that was not there. -/
structure KeepsNumerals (f : List Char → List Char) : Prop where
  cons : ∀ {c}, isNumeral c = true → ∀ cs, f (c :: cs) = c :: f cs
  front : ∀ {c cs left}, isNumeral c = true → f cs = c :: left → ∃ left, cs = c :: left

theorem isNumeral_of_isDigit {c : Char} (h : c.isDigit = true) : isNumeral c = true := by
  rw [isNumeral, h, Bool.true_or]

namespace KeepsNumerals

variable {f : List Char → List Char} (hf : KeepsNumerals f) {cs left : List Char}

include hf

/-- The digits at the front are the same. -/
theorem span_isDigit (cs : List Char) :
    (f cs).takeWhile Char.isDigit = cs.takeWhile Char.isDigit ∧
      (f cs).dropWhile Char.isDigit = f (cs.dropWhile Char.isDigit) := by
  have hstop : ∀ cs : List Char, (∀ c left, cs = c :: left → c.isDigit = false) →
      (f cs).takeWhile Char.isDigit = [] ∧ (f cs).dropWhile Char.isDigit = f cs := by
    intro cs hcs
    cases hfront : f cs with
    | nil => exact ⟨rfl, rfl⟩
    | cons d ds =>
      have hd : d.isDigit = false := by
        cases hdigit : d.isDigit with
        | false => rfl
        | true =>
          obtain ⟨left, rfl⟩ := hf.front (isNumeral_of_isDigit hdigit) hfront
          exact hdigit.symm.trans (hcs d left rfl)
      simp [hd]
  induction cs with
  | nil => exact hstop [] nofun
  | cons c cs ih =>
    cases hc : c.isDigit with
    | true => simp [hf.cons (isNumeral_of_isDigit hc), hc, ih]
    | false =>
      obtain ⟨htake, hdrop⟩ := hstop (c :: cs) fun d left heq => by
        rw [← (List.cons.inj heq).1, hc]
      simp [htake, hdrop, hc]

theorem digits? {ds : List Char} (h : Raw.digits? cs = some (ds, left)) :
    Raw.digits? (f cs) = some (ds, f left) := by
  obtain ⟨htake, hdrop⟩ := hf.span_isDigit cs
  unfold Raw.digits? at h ⊢
  rw [htake, hdrop]
  split at h <;> simp_all

theorem whole? {ds : List Char} (h : Raw.whole? cs = some (ds, left)) :
    Raw.whole? (f cs) = some (ds, f left) := by
  unfold Raw.whole? at h ⊢
  cases hdigits : Raw.digits? cs with
  | none => simp [hdigits] at h
  | some r =>
    obtain ⟨ds', left'⟩ := r
    rw [hf.digits? hdigits]
    rw [hdigits] at h
    split at h
    · cases h
    · cases h
      split
      · next heq =>
        cases heq
        simp_all
      · rfl

theorem fraction? {ds : Option (List Char)} (h : Raw.fraction? cs = some (ds, left)) :
    Raw.fraction? (f cs) = some (ds, f left) := by
  unfold Raw.fraction? at h
  split at h
  · next after =>
    obtain ⟨⟨digits, left'⟩, hdigits, heq⟩ := Option.map_eq_some_iff.mp h
    cases heq
    simp [hf.cons (c := '.') (by decide), Raw.fraction?, hf.digits? hdigits]
  · next hpoint =>
    cases h
    unfold Raw.fraction?
    split
    · next heq =>
      obtain ⟨left', rfl⟩ := hf.front (by decide) heq
      exact absurd rfl (hpoint left')
    · rfl

theorem exponent? {power : Option (Bool × List Char)}
    (h : Raw.exponent? cs = some (power, left)) :
    Raw.exponent? (f cs) = some (power, f left) := by
  -- without a mark in front there is no exponent, before and after the change
  have hnone : ∀ {cs : List Char}, (∀ c ∈ cs.head?, ¬ (c = 'e' ∨ c = 'E')) →
      Raw.exponent? cs = some (none, cs) := by
    intro cs hcs
    cases cs with
    | nil => rfl
    | cons c cs => simp [Raw.exponent?, not_or.mp (hcs c rfl)]
  by_cases hmark : ∃ c after, cs = c :: after ∧ (c = 'e' ∨ c = 'E')
  · obtain ⟨c, after, rfl, hc⟩ := hmark
    have hnumeral : isNumeral c = true := by rcases hc with rfl | rfl <;> decide
    have hc' : (decide (c = 'e') || decide (c = 'E')) = true := by simpa using hc
    rw [hf.cons hnumeral]
    unfold Raw.exponent? at h ⊢
    simp only [hc', if_true] at h ⊢
    split at h
    all_goals
      obtain ⟨⟨digits, left'⟩, hdigits, heq⟩ := Option.map_eq_some_iff.mp h
      cases heq
      have hkept := hf.digits? hdigits
    · simp [hf.cons (c := '-') (by decide), hkept]
    · simp [hf.cons (c := '+') (by decide), hkept]
    · next hminus hplus =>
      split
      · next heq =>
        obtain ⟨left', rfl⟩ := hf.front (by decide) heq
        exact absurd rfl (hminus left')
      · next heq =>
        obtain ⟨left', rfl⟩ := hf.front (by decide) heq
        exact absurd rfl (hplus left')
      · simp [hkept]
  · have hbefore : Raw.exponent? cs = some (none, cs) := hnone fun c hc hc' => by
      obtain ⟨after, rfl⟩ := List.head?_eq_some_iff.mp hc
      exact hmark ⟨c, after, rfl, hc'⟩
    have hafter : Raw.exponent? (f cs) = some (none, f cs) := hnone fun c hc hc' => by
      obtain ⟨after, hfront⟩ := List.head?_eq_some_iff.mp hc
      obtain ⟨after, rfl⟩ := hf.front (by rcases hc' with rfl | rfl <;> decide) hfront
      exact hmark ⟨c, after, rfl, hc'⟩
    rw [hbefore] at h
    cases h
    exact hafter

/-- A literal is read the same after the change. -/
theorem literal? {l : Number.Literal} (h : Raw.literal? cs = some (l, left)) :
    Raw.literal? (f cs) = some (l, f left) := by
  have hunsigned : ∀ {negative : Bool} {cs : List Char},
      Raw.unsigned? negative cs = some (l, left) →
        Raw.unsigned? negative (f cs) = some (l, f left) := by
    intro negative cs h
    obtain ⟨⟨whole, cs₁⟩, hwhole, h⟩ := Option.bind_eq_some_iff.mp h
    obtain ⟨⟨fraction, cs₂⟩, hfraction, h⟩ := Option.bind_eq_some_iff.mp h
    obtain ⟨⟨exponent, cs₃⟩, hexponent, h⟩ := Option.map_eq_some_iff.mp h
    cases h
    simp [Raw.unsigned?, hf.whole? hwhole, hf.fraction? hfraction, hf.exponent? hexponent]
  unfold Raw.literal? at h
  split at h
  · rw [hf.cons (by decide)]
    exact hunsigned h
  · next hminus =>
    unfold Raw.literal?
    split
    · next heq =>
      obtain ⟨left', rfl⟩ := hf.front (by decide) heq
      exact absurd rfl (hminus left')
    · exact hunsigned h

end KeepsNumerals

/-- What may stand behind a number: nothing it could go on with. -/
def Apart (cs : List Char) : Prop :=
  ∀ c ∈ cs.head?, isNumeral c = false

/-- What stands behind a text and is no part of a number is not seen by the reader of a number. -/
theorem Apart.keepsNumerals {rest : List Char} (h : Apart rest) :
    KeepsNumerals (· ++ rest) where
  cons _ _ := rfl
  front := by
    intro c cs left hc heq
    cases cs with
    | nil =>
      have hrest : isNumeral c = false := h c (by simpa using congrArg List.head? heq)
      exact absurd (hc.symm.trans hrest) (by decide)
    | cons d cs => exact ⟨cs, by rw [(List.cons.inj heq).1]⟩

/-! ### Integers -/

namespace Number

theorem naturalOf_eq_ofDigitChars (ds : List Char) : naturalOf ds = Nat.ofDigitChars 10 ds 0 := by
  rw [naturalOf, Nat.ofDigitChars_eq_foldl]
  simp only [digitValue, Nat.mul_comm]

theorem naturalOf_digitsOf (n : Nat) : naturalOf (Decimal.digitsOf n) = n := by
  rw [naturalOf_eq_ofDigitChars]
  exact Nat.ofDigitChars_ten_toDigits

/-- Digits that stay below `2 ^ 64` are gathered to their value. -/
theorem gather_eq {ds : List Char} {n : Nat}
    (h : ds.foldl (fun n c => n * 10 + digitValue c) n < 0x10000000000000000) :
    gather n ds = (ds.foldl (fun n c => n * 10 + digitValue c) n, []) := by
  have hgrows : ∀ (ds : List Char) (n : Nat),
      n ≤ ds.foldl (fun n c => n * 10 + digitValue c) n := by
    intro ds
    induction ds with
    | nil => exact Nat.le_refl
    | cons c ds ih =>
      intro n
      have hstep : n ≤ n * 10 + digitValue c := by omega
      exact Nat.le_trans hstep (ih _)
  induction ds generalizing n with
  | nil => rfl
  | cons c ds ih =>
    rw [List.foldl_cons] at h ⊢
    rw [gather, if_pos (Nat.lt_of_le_of_lt (hgrows ds _) h)]
    exact ih h

/-- The digits of a positive number do not begin with zero. -/
theorem head?_digitsOf_ne {n : Nat} (h : 0 < n) : (Decimal.digitsOf n).head? ≠ some '0' := by
  induction n using Nat.strongRecOn with
  | ind n ih =>
    unfold Decimal.digitsOf
    rcases Nat.lt_or_ge n 10 with hn | hn
    · rw [Nat.toDigits_of_lt_base hn]
      have hall : ∀ k : Fin 10, 0 < k.val → [Nat.digitChar k.val].head? ≠ some '0' := by decide
      exact hall ⟨n, hn⟩ h
    · have hsame : (Nat.toDigits 10 (n / 10) ++ [Nat.digitChar (n % 10)]).head? =
          (Decimal.digitsOf (n / 10)).head? := by
        cases hds : Nat.toDigits 10 (n / 10) with
        | nil => exact absurd hds Nat.toDigits_ne_nil
        | cons c ds => simp [Decimal.digitsOf, hds]
      rw [Nat.toDigits_of_base_le (by decide) hn, hsame]
      exact ih (n / 10) (by omega) (by omega)

end Number

/-- The digits of a number are read as a literal. -/
theorem unsigned?_digitsOf (negative : Bool) (n : Nat) :
    Raw.unsigned? negative (Decimal.digitsOf n) =
      some (⟨negative, Decimal.digitsOf n, none, none⟩, []) := by
  have hall : ∀ c ∈ Decimal.digitsOf n, c.isDigit = true := fun c hc =>
    Nat.isDigit_of_mem_toDigits (by decide) (by decide) hc
  have hdigits : Raw.digits? (Decimal.digitsOf n) = some (Decimal.digitsOf n, []) := by
    have htake : (Decimal.digitsOf n).takeWhile Char.isDigit = Decimal.digitsOf n := by
      have happend : (Decimal.digitsOf n ++ []).takeWhile Char.isDigit = _ :=
        List.takeWhile_append_of_pos hall
      simpa using happend
    have hdrop : (Decimal.digitsOf n).dropWhile Char.isDigit = [] := by
      have happend : (Decimal.digitsOf n ++ []).dropWhile Char.isDigit = _ :=
        List.dropWhile_append_of_pos hall
      simpa using happend
    rw [Raw.digits?, htake, hdrop]
    cases hds : Decimal.digitsOf n with
    | nil => exact absurd hds Nat.toDigits_ne_nil
    | cons c ds => rfl
  have hwhole : Raw.whole? (Decimal.digitsOf n) = some (Decimal.digitsOf n, []) := by
    rw [Raw.whole?, hdigits]
    split
    · next heq =>
      cases n with
      | zero => cases heq
      | succ n =>
        refine absurd ?_ (Number.head?_digitsOf_ne (Nat.succ_pos n))
        rw [(Prod.mk.inj (Option.some.inj heq)).1]
        rfl
    · rfl
  simp [Raw.unsigned?, hwhole, Raw.fraction?, Raw.exponent?]

namespace Number

/-- The number of characters that are one literal and nothing else. -/
def ofChars? (cs : List Char) : Option Number :=
  match Raw.literal? cs with
  | some (l, []) => ofLiteral l
  | _ => none

/-- A number whose text stands for it. A double need not be one: its digits are the fewest that are
nearest to it, but they are read in two roundings. -/
def Steady (n : Number) : Prop :=
  ofChars? n.render = some n

instance (n : Number) : Decidable n.Steady :=
  inferInstanceAs (Decidable (_ = _))

theorem ofInt?_of_inRange {n : Int} (h : IntRange n) : ofInt? n = some (.int n h) :=
  dif_pos h

/-- Every integer is steady. -/
theorem steady_int (n : Int) (h : IntRange n) : Steady (.int n h) := by
  have hrange : -0x8000000000000000 ≤ n ∧ n < 0x10000000000000000 := h
  have hgather : gather 0 (Decimal.digitsOf n.natAbs) = (n.natAbs, []) := by
    have hvalue : (Decimal.digitsOf n.natAbs).foldl (fun n c => n * 10 + digitValue c) 0 =
        n.natAbs := naturalOf_digitsOf n.natAbs
    rw [gather_eq (by rw [hvalue]; omega), hvalue]
  unfold Steady ofChars? render
  dsimp only
  by_cases hneg : n < 0
  · have hzero : n.natAbs ≠ 0 := by omega
    have hvalue : -Int.ofNat n.natAbs = n := by
      rw [Int.ofNat_eq_natCast]
      omega
    rw [if_pos hneg, Raw.literal?, unsigned?_digitsOf]
    unfold ofLiteral
    simp only [hgather, if_true, hzero, if_false, hvalue, ofInt?_of_inRange h]
  · have hvalue : Int.ofNat n.natAbs = n := by
      rw [Int.ofNat_eq_natCast]
      omega
    have hliteral : Raw.literal? (Decimal.digitsOf n.natAbs) =
        some (⟨false, Decimal.digitsOf n.natAbs, none, none⟩, []) := by
      unfold Raw.literal?
      split
      · next rest heq =>
        have hdigit : '-'.isDigit = true :=
          Nat.isDigit_of_mem_toDigits (by decide) (by decide) (heq ▸ List.mem_cons_self)
        exact absurd hdigit (by decide)
      · exact unsigned?_digitsOf false _
    rw [if_neg hneg, hliteral]
    unfold ofLiteral
    simp only [hgather, Bool.false_eq_true, if_false, hvalue, ofInt?_of_inRange h]

end Number

/-! ## Values -/

mutual

/-- Whether all numbers of a value are steady and it nests lists and objects at most so many
deep. -/
def Legible : Nat → Json → Prop
  | _, .null | _, .bool _ | _, .string _ => True
  | _, .number n => n.Steady
  | 0, .array _ | 0, .object _ => False
  | room + 1, .array items => LegibleItems room items
  | room + 1, .object members => LegibleMembers room members

/-- Whether all items are legible. -/
def LegibleItems : Nat → List Json → Prop
  | _, [] => True
  | room, x :: xs => Legible room x ∧ LegibleItems room xs

/-- Whether the values of all members are legible. -/
def LegibleMembers : Nat → List (String × Json) → Prop
  | _, [] => True
  | room, (_, x) :: xs => Legible room x ∧ LegibleMembers room xs

end

theorem legibleItems_iff {room : Nat} {xs : List Json} :
    LegibleItems room xs ↔ ∀ x ∈ xs, Legible room x := by
  induction xs with
  | nil => simp [LegibleItems]
  | cons x xs ih => simp [LegibleItems, ih]

/-- A value is written with something other than a blank or a closing bracket at its beginning, and
it is read back by as many steps as it has characters, whatever comes after it that is no part of a
number. -/
structure ReadBack (room : Nat) (v : Json) : Prop where
  head : ∃ c cs, renderChars v = c :: cs ∧ Raw.isSpace c = false ∧ c ≠ ']'
  value : ∀ fuel depth rest, Apart rest → (renderChars v).length ≤ fuel + 1 →
    depth + room ≤ 127 →
      Raw.value charString? (fuel + 1) depth (renderChars v ++ rest) = (v.raw, some rest)

theorem Apart.cons {c : Char} (h : isNumeral c = false) (cs : List Char) : Apart (c :: cs) := by
  rintro d hd
  cases hd
  exact h

theorem skipSpace_cons {c : Char} (h : Raw.isSpace c = false) (cs : List Char) :
    skipSpace (c :: cs) = c :: cs := by
  simp [skipSpace, h]

section Lists

variable {room : Nat} {depth : Nat} (hdepth : depth + room ≤ 127) (rest : List Char)

include hdepth

/-- Items that are read back one by one are read back up to the closing bracket. -/
theorem items_renderItems (x : Json) (xs : List Json) (h : ∀ y ∈ x :: xs, ReadBack room y)
    (fuel : Nat) (hfuel : (renderItems true (x :: xs)).length ≤ fuel + 1) :
    Raw.items charString? (fuel + 2) depth (renderItems true (x :: xs) ++ ']' :: rest) =
      (rawItems (x :: xs), some rest) := by
  induction xs generalizing x fuel with
  | nil =>
    have hx := h x List.mem_cons_self
    simp only [renderItems, if_true, List.nil_append, List.append_nil] at hfuel ⊢
    rw [Raw.items, hx.value fuel depth (']' :: rest) (.cons (by decide) _) hfuel hdepth]
    simp only [skipSpace_cons (c := ']') (by decide)]
    rfl
  | cons y ys ih =>
    have hx := h x List.mem_cons_self
    have hcomma : renderItems false (y :: ys) = ',' :: renderItems true (y :: ys) := rfl
    obtain ⟨c, cs, hc, -⟩ := hx.head
    obtain ⟨d, ds, hd, -⟩ := (h y (by simp)).head
    have hsplit : renderItems true (x :: y :: ys) =
        renderChars x ++ ',' :: renderItems true (y :: ys) := rfl
    have hlen : 1 ≤ (renderItems true (y :: ys)).length := by simp [renderItems, hd]
    have hlenx : 1 ≤ (renderChars x).length := by simp [hc]
    rw [hsplit, List.length_append, List.length_cons] at hfuel
    obtain ⟨fuel, rfl⟩ : ∃ f, fuel = f + 1 := ⟨fuel - 1, by omega⟩
    have hrest := ih y (fun z hz => h z (List.mem_cons_of_mem x hz)) fuel (by omega)
    rw [hsplit, List.append_assoc, List.cons_append, Raw.items,
      hx.value (fuel + 1) depth _ (.cons (by decide) _) (by omega) hdepth]
    simp only [skipSpace_cons (c := ',') (by decide), hrest]
    rfl

/-- Members whose values are read back are read back up to the closing brace. -/
theorem members_renderMembers (m : String × Json) (ms : List (String × Json))
    (h : ∀ n ∈ m :: ms, ReadBack room n.2) (fuel : Nat)
    (hfuel : (renderMembers true (m :: ms)).length ≤ fuel + 1) :
    Raw.members charString? (fuel + 2) depth (renderMembers true (m :: ms) ++ '\x7d' :: rest) =
      (rawMembers (m :: ms), some rest) := by
  induction ms generalizing m fuel with
  | nil =>
    obtain ⟨k, x⟩ := m
    have hx : ReadBack room x := h (k, x) List.mem_cons_self
    simp only [renderMembers, renderText, if_true, List.nil_append, List.append_nil,
      List.cons_append, List.append_assoc, List.length_cons, List.length_append] at hfuel ⊢
    have hbrace : Apart ('\x7d' :: rest) := .cons (by decide) rest
    rw [Raw.members, skipSpace_cons (c := '"') (by decide)]
    simp only [text?_escape, skipSpace_cons (c := ':') (by decide),
      hx.value fuel depth _ hbrace (by omega) hdepth, skipSpace_cons (c := '\x7d') (by decide)]
    rfl
  | cons n ns ih =>
    obtain ⟨k, x⟩ := m
    have hx : ReadBack room x := h (k, x) List.mem_cons_self
    have hsplit : renderMembers true ((k, x) :: n :: ns) =
        '"' :: (k.toList.flatMap escapeChar ++ '"' :: ':' ::
          (renderChars x ++ ',' :: renderMembers true (n :: ns))) := by
      obtain ⟨l, y⟩ := n
      simp [renderMembers, renderText]
    rw [hsplit] at hfuel ⊢
    simp only [List.length_cons, List.length_append] at hfuel
    obtain ⟨fuel, rfl⟩ : ∃ f, fuel = f + 1 := ⟨fuel - 1, by omega⟩
    have hrest := ih n (fun z hz => h z (List.mem_cons_of_mem _ hz)) fuel (by omega)
    have hcomma : Apart (',' :: (renderMembers true (n :: ns) ++ '\x7d' :: rest)) :=
      .cons (by decide) _
    simp only [List.cons_append, List.append_assoc]
    rw [Raw.members, skipSpace_cons (c := '"') (by decide)]
    simp only [text?_escape, skipSpace_cons (c := ':') (by decide),
      hx.value (fuel + 1) depth _ hcomma (by omega) hdepth,
      skipSpace_cons (c := ',') (by decide), hrest]
    rfl

end Lists

/-! ### Numbers, lists and objects -/

/-- A literal begins with a minus sign or a digit. -/
theorem literal?_head {cs : List Char} {r : Number.Literal × List Char}
    (h : Raw.literal? cs = some r) : ∃ c left, cs = c :: left ∧ (c = '-' ∨ c.isDigit = true) := by
  have hunsigned : ∀ {negative : Bool}, Raw.unsigned? negative cs = some r →
      ∃ c left, cs = c :: left ∧ (c = '-' ∨ c.isDigit = true) := by
    intro negative h
    cases cs with
    | nil => cases h
    | cons c cs =>
      refine ⟨c, cs, rfl, .inr ?_⟩
      cases hc : c.isDigit with
      | true => rfl
      | false => simp [Raw.unsigned?, Raw.whole?, Raw.digits?, hc] at h
  unfold Raw.literal? at h
  split at h
  · exact ⟨_, _, rfl, .inl rfl⟩
  · exact hunsigned h

/-- A steady number is read by its digits. -/
theorem ReadBack.number {room : Nat} {n : Number} (h : n.Steady) : ReadBack room (.number n) := by
  unfold Number.Steady Number.ofChars? at h
  cases hliteral : Raw.literal? n.render with
  | none => simp [hliteral] at h
  | some r =>
  obtain ⟨l, left⟩ := r
  rw [hliteral] at h
  cases left with
  | cons c cs => cases h
  | nil =>
  obtain ⟨c, cs, hcs, hc⟩ := literal?_head hliteral
  have hmark : ∀ d, d.isDigit = false → d ≠ '-' → c ≠ d := by
    rintro d hd hminus rfl
    rcases hc with rfl | hdigit
    · exact hminus rfl
    · exact absurd (hdigit.symm.trans hd) (by decide)
  have hspace : Raw.isSpace c = false := by
    simp [Raw.isSpace, hmark ' ' (by decide) (by decide), hmark '\n' (by decide) (by decide),
      hmark '\t' (by decide) (by decide), hmark '\r' (by decide) (by decide)]
  have hrender : renderChars (.number n) = c :: cs := hcs
  refine ⟨⟨c, cs, hrender, hspace, hmark ']' (by decide) (by decide)⟩,
    fun fuel depth rest hrest _ _ => ?_⟩
  have hread := hrest.keepsNumerals.literal? hliteral
  rw [hcs, List.cons_append, List.nil_append] at hread
  rw [hrender, List.cons_append, Raw.value, skipSpace_cons hspace]
  have hatom : Raw.atom (c :: (cs ++ rest)) = (.number (some n), some rest) := by
    unfold Raw.atom
    split
    · next heq => exact absurd (List.cons.inj heq).1 (hmark 't' (by decide) (by decide))
    · next heq => exact absurd (List.cons.inj heq).1 (hmark 'f' (by decide) (by decide))
    · next heq => exact absurd (List.cons.inj heq).1 (hmark 'n' (by decide) (by decide))
    · simp only [hread, h]
  split
  · next heq => cases heq
  · next heq => exact absurd (List.cons.inj heq).1 (hmark '"' (by decide) (by decide))
  · next heq => exact absurd (List.cons.inj heq).1 (hmark '[' (by decide) (by decide))
  · next heq => exact absurd (List.cons.inj heq).1 (hmark '\x7b' (by decide) (by decide))
  · exact hatom

/-- A list is read by its items. -/
theorem ReadBack.array {room : Nat} (x : Json) (xs : List Json)
    (h : ∀ y ∈ x :: xs, ReadBack room y) :
    ReadBack (room + 1) (.array (x :: xs)) := by
  refine ⟨⟨_, _, by rw [renderChars], by decide, by decide⟩,
    fun fuel depth rest _ hfuel hdepth => ?_⟩
  obtain ⟨c, cs, hc, hspace, hne⟩ := (h x List.mem_cons_self).head
  have hhead : renderItems true (x :: xs) = c :: (cs ++ renderItems false xs) := by
    simp [renderItems, hc]
  simp only [renderChars, List.length_cons, List.length_append, List.length_nil] at hfuel
  have hlen : 1 ≤ (renderItems true (x :: xs)).length := by simp [hhead]
  obtain ⟨fuel, rfl⟩ : ∃ f, fuel = f + 2 := ⟨fuel - 2, by omega⟩
  have hroom : depth + 1 + room ≤ 127 := by omega
  have hitems := items_renderItems hroom rest x xs h fuel (by omega)
  have hnested : ∀ tree, Raw.nested (depth + 1) tree = tree := fun tree => if_pos (by omega)
  rw [renderChars, List.cons_append, List.append_assoc, Raw.value,
    skipSpace_cons (c := '[') (by decide)]
  simp only [List.singleton_append]
  rw [hhead] at hitems ⊢
  simp only [List.cons_append, skipSpace_cons hspace] at hitems ⊢
  split
  · next heq => exact absurd (List.cons.inj heq).1 hne
  · rw [hitems, hnested]
    rfl

/-- An object is read by its members. -/
theorem ReadBack.object {room : Nat} (m : String × Json) (ms : List (String × Json))
    (h : ∀ n ∈ m :: ms, ReadBack room n.2) : ReadBack (room + 1) (.object (m :: ms)) := by
  refine ⟨⟨_, _, by rw [renderChars], by decide, by decide⟩,
    fun fuel depth rest _ hfuel hdepth => ?_⟩
  obtain ⟨cs, hhead⟩ : ∃ cs, renderMembers true (m :: ms) = '"' :: cs := by
    obtain ⟨k, x⟩ := m
    exact ⟨_, rfl⟩
  simp only [renderChars, List.length_cons, List.length_append, List.length_nil] at hfuel
  have hlen : 1 ≤ (renderMembers true (m :: ms)).length := by simp [hhead]
  obtain ⟨fuel, rfl⟩ : ∃ f, fuel = f + 2 := ⟨fuel - 2, by omega⟩
  have hroom : depth + 1 + room ≤ 127 := by omega
  have hmembers := members_renderMembers hroom rest m ms h fuel (by omega)
  have hnested : ∀ tree, Raw.nested (depth + 1) tree = tree := fun tree => if_pos (by omega)
  rw [renderChars, List.cons_append, List.append_assoc, Raw.value,
    skipSpace_cons (c := '\x7b') (by decide)]
  simp only [List.singleton_append]
  rw [hhead] at hmembers ⊢
  simp only [List.cons_append, skipSpace_cons (c := '"') (by decide)] at hmembers ⊢
  split
  · next heq => exact absurd (List.cons.inj heq).1 (by decide)
  · rw [hmembers, hnested]
    rfl

mutual

/-- A legible value is read back. -/
theorem Legible.readBack {room : Nat} {v : Json} (h : Legible room v) : ReadBack room v := by
  cases v with
  | null =>
    refine ⟨⟨_, _, by rw [renderChars], by decide, by decide⟩, fun fuel depth rest _ _ _ => ?_⟩
    simp [renderChars, Raw.value, Raw.atom, skipSpace, Raw.isSpace, raw]
  | bool b =>
    cases b <;>
    · refine ⟨⟨_, _, by rw [renderChars], by decide, by decide⟩, fun fuel depth rest _ _ _ => ?_⟩
      simp [renderChars, Raw.value, Raw.atom, skipSpace, Raw.isSpace, raw]
  | number n =>
    rw [Legible] at h
    exact .number h
  | string s =>
    refine ⟨⟨_, _, by rw [renderChars, renderText], by decide, by decide⟩,
      fun fuel depth rest _ _ _ => ?_⟩
    simp [renderChars, renderText, Raw.value, skipSpace, Raw.isSpace, raw, text?_escape]
  | array items =>
    cases room with
    | zero => simp [Legible] at h
    | succ room =>
    cases items with
    | nil =>
      refine ⟨⟨_, _, by rw [renderChars], by decide, by decide⟩, fun fuel depth rest _ _ _ => ?_⟩
      have hnested : ∀ tree, Raw.nested (depth + 1) tree = tree := fun tree => if_pos (by omega)
      simp [renderChars, renderItems, Raw.value, skipSpace, Raw.isSpace, raw, rawItems, hnested]
    | cons x xs =>
      rw [Legible] at h
      exact .array x xs (LegibleItems.readBack h)
  | object members =>
    cases room with
    | zero => simp [Legible] at h
    | succ room =>
    cases members with
    | nil =>
      refine ⟨⟨_, _, by rw [renderChars], by decide, by decide⟩, fun fuel depth rest _ _ _ => ?_⟩
      have hnested : ∀ tree, Raw.nested (depth + 1) tree = tree := fun tree => if_pos (by omega)
      simp [renderChars, renderMembers, Raw.value, skipSpace, Raw.isSpace, raw, rawMembers, hnested]
    | cons m ms =>
      rw [Legible] at h
      exact .object m ms (LegibleMembers.readBack h)
termination_by sizeOf v

theorem LegibleItems.readBack {room : Nat} {xs : List Json} (h : LegibleItems room xs) :
    ∀ x ∈ xs, ReadBack room x := by
  cases xs with
  | nil => simp
  | cons x xs =>
    rw [LegibleItems] at h
    intro y hy
    rcases List.mem_cons.mp hy with heq | hy
    · exact heq ▸ h.1.readBack
    · exact LegibleItems.readBack h.2 y hy
termination_by sizeOf xs

theorem LegibleMembers.readBack {room : Nat} {ms : List (String × Json)}
    (h : LegibleMembers room ms) : ∀ m ∈ ms, ReadBack room m.2 := by
  match ms with
  | [] => simp
  | (k, x) :: ms =>
    rw [LegibleMembers] at h
    intro n hn
    rcases List.mem_cons.mp hn with heq | hn
    · exact heq ▸ h.1.readBack
    · exact LegibleMembers.readBack h.2 n hn
termination_by sizeOf ms

end

/-- A value that is read back is all there is in its text. -/
theorem ReadBack.scan_render {v : Json} (h : ReadBack 127 v) :
    Raw.scan v.render = (v.raw, true) := by
  have hback := h.value (renderChars v).length 0 [] (by simp [Apart]) (Nat.le_succ _)
    (Nat.le_refl _)
  rw [List.append_nil] at hback
  simp [Raw.scan, Raw.scanChars, render, hback, skipSpace]

/-- **Written JSON is read back.** A value with steady numbers whose lists and objects are nested at
most 127 deep is what its text is read as. -/
theorem Raw.parse?_render {v : Json} (h : Legible 127 v) : Raw.parse? v.render = some v.raw := by
  have hscan : Raw.scanChars charString? v.render.toList = _ := h.readBack.scan_render
  rw [Raw.parse?, Raw.parseChars?, hscan]

/-- Reading the text of a value is reading the value. -/
theorem ReadBack.decodeText_render {α : Type} {v : Json} (h : ReadBack 127 v)
    (read : Raw → Decode α) : decodeText read v.render = decodeWith read v := by
  simp only [decodeText, h.scan_render, decodeWith]
  cases read v.raw <;> rfl

end Rulebook.Json
