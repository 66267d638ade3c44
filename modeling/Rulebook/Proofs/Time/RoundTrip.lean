import Mathlib.Algebra.Group.Nat.Defs
import Rulebook.Proofs.Json.RoundTrip
import Rulebook.User

/-!
# Instants read back from their text

The lenient reader takes the canonical text of every instant to that instant again
(`Timestamp.parse?_render`): years of any sign and length, leap seconds and fractions of each of the
four widths. The text is read piece by piece; each lemma reads one piece and leaves the rest alone.
So the moments that are read back are those of the instants (`Moment.moment_timestamp`).
-/

namespace Rulebook.Time

open Rulebook.Text (isBlank trimStart)
open Rulebook.Json.Number (naturalOf naturalOf_eq_ofDigitChars)

/-! ## Runs of digits -/

/-- A text that does not go on with a digit. -/
def NoDigitNext (cs : List Char) : Prop :=
  cs.takeWhile Char.isDigit = []

theorem isBlank_of_isDigit {c : Char} (h : c.isDigit = true) : isBlank c = false := by
  have hc : 48 ≤ c.toNat ∧ c.toNat ≤ 57 := by
    simpa [Char.isDigit, UInt32.le_iff_toNat_le] using h
  simp only [isBlank, Bool.or_eq_false_iff, Bool.and_eq_false_iff, decide_eq_false_iff_not,
    beq_eq_false_iff_ne]
  omega

theorem trimStart_cons {c : Char} (h : isBlank c = false) (cs : List Char) :
    trimStart (c :: cs) = c :: cs := by
  simp [trimStart, h]

theorem isDigit_of_mem_padded {width n : Nat} {c : Char} (h : c ∈ padded width n) :
    c.isDigit = true := by
  rcases List.mem_append.mp h with h | h
  · rw [List.eq_of_mem_replicate h]
    rfl
  · exact Nat.isDigit_of_mem_toDigits (by decide) (by decide) h

theorem naturalOf_padded (width n : Nat) : naturalOf (padded width n) = n := by
  rw [naturalOf_eq_ofDigitChars, padded, Nat.ofDigitChars_append, Nat.ofDigitChars_replicate_zero,
    Nat.mul_zero]
  exact Nat.ofDigitChars_ten_toDigits

theorem padded_ne_nil (width n : Nat) : padded width n ≠ [] :=
  List.append_ne_nil_of_right_ne_nil _ Nat.toDigits_ne_nil

theorem length_padded {width n : Nat} (hw : 0 < width) (hn : n < 10 ^ width) :
    (padded width n).length = width := by
  have h : (Decimal.digitsOf n).length ≤ width :=
    (Nat.length_toDigits_le_iff (by decide) hw).mpr hn
  simp only [padded, List.length_append, List.length_replicate]
  omega

theorem twoDigits_eq_padded {n : Nat} (h : n < 100) : twoDigits n = padded 2 n := by
  simp only [twoDigits, padded, Decimal.digitsOf]
  rcases Nat.lt_or_ge n 10 with hn | hn
  · rw [Nat.toDigits_of_lt_base hn, Nat.div_eq_of_lt hn, Nat.mod_eq_of_lt hn]
    rfl
  · rw [Nat.toDigits_of_base_le (by decide) hn, Nat.toDigits_of_lt_base (by omega)]
    rfl

/-- A run of digits is read as a number when it is as wide as the reader looks, or ends there. -/
theorem number?_append {width : Nat} {ds rest : List Char} (hne : ds ≠ [])
    (hds : ∀ c ∈ ds, c.isDigit = true) (hw : ds.length ≤ width)
    (hrest : ds.length = width ∨ NoDigitNext rest) :
    number? width (ds ++ rest) = some (naturalOf ds, rest) := by
  have hend : (rest.take (width - ds.length)).takeWhile Char.isDigit = [] := by
    rcases hrest with h | h
    · simp [h]
    · cases rest with
      | nil => simp
      | cons c cs =>
        have hc : c.isDigit = false := by simpa [NoDigitNext, List.takeWhile_cons] using h
        cases width - ds.length <;> simp [hc]
  have htake : ((ds ++ rest).take width).takeWhile Char.isDigit = ds := by
    rw [List.take_append, List.take_of_length_le hw, List.takeWhile_append_of_pos hds, hend,
      List.append_nil]
  rw [number?, htake]
  cases ds with
  | nil => exact absurd rfl hne
  | cons c cs => simp

theorem number?_padded {width k n : Nat} {rest : List Char} (hk : 0 < k) (hn : n < 10 ^ k)
    (hw : k ≤ width) (hrest : k = width ∨ NoDigitNext rest) :
    number? width (padded k n ++ rest) = some (n, rest) := by
  have hlen := length_padded hk hn
  rw [number?_append (padded_ne_nil k n) (fun c => isDigit_of_mem_padded) (by omega)
    (by rwa [hlen]), naturalOf_padded]

/-! ## The pieces of an instant -/

/-- A reading that succeeds is followed by what comes next. -/
theorem bind_of_eq_some {α β : Type} {o : Option α} {f : α → Option β} {x : α} {r : Option β}
    (h : o = some x) (hf : f x = r) : (o >>= f) = r := by
  rw [h]
  exact hf

theorem short?_twoDigits {n : Nat} (h : n < 100) (rest : List Char) :
    short? (twoDigits n ++ rest) = some (n, rest) := by
  rw [twoDigits_eq_padded h]
  have htrim : trimStart (padded 2 n ++ rest) = padded 2 n ++ rest := by
    cases hp : padded 2 n with
    | nil => exact absurd hp (padded_ne_nil 2 n)
    | cons c cs =>
      exact trimStart_cons (isBlank_of_isDigit (isDigit_of_mem_padded (hp ▸ List.mem_cons_self))) _
  rw [short?, htrim]
  exact number?_padded (by decide) h (by decide) (.inl rfl)

theorem mark?_cons {c : Char} (h : isBlank c = false) (rest : List Char) :
    mark? c (c :: rest) = some rest := by
  simp [mark?, trimStart_cons h]

/-- A year without sign, of four digits. -/
theorem year?_plain {n : Nat} (h : n ≤ 9999) (rest : List Char) :
    year? (padded 4 n ++ '-' :: rest) = some (Int.ofNat n, '-' :: rest) := by
  have hnum : number? 4 (padded 4 n ++ '-' :: rest) = some (n, '-' :: rest) :=
    number?_padded (by decide) (by omega) (by decide) (.inl rfl)
  cases hp : padded 4 n with
  | nil => exact absurd hp (padded_ne_nil 4 n)
  | cons c cs =>
    have hc : c.isDigit = true := isDigit_of_mem_padded (hp ▸ List.mem_cons_self)
    rw [hp, List.cons_append] at hnum
    rw [year?, List.cons_append, trimStart_cons (isBlank_of_isDigit hc)]
    -- a digit is neither sign, so the reader takes the year as it stands
    split
    · next heq => exact absurd (List.cons.inj heq).1 (by rintro rfl; exact absurd hc (by decide))
    · next heq => exact absurd (List.cons.inj heq).1 (by rintro rfl; exact absurd hc (by decide))
    · rw [hnum]
      rfl

/-- The digits of a year after its sign. -/
theorem number?_signed (n : Nat) (rest : List Char) :
    number? (padded 4 n ++ '-' :: rest).length (padded 4 n ++ '-' :: rest) =
      some (n, '-' :: rest) := by
  rw [number?_append (padded_ne_nil 4 n) (fun c => isDigit_of_mem_padded)
    (by simp) (.inr (by simp [NoDigitNext])), naturalOf_padded]

theorem year?_renderYear (year : Int) (rest : List Char) :
    year? (renderYear year ++ '-' :: rest) = some (year, '-' :: rest) := by
  rw [renderYear]
  split
  · next h =>
    rw [year?_plain (by omega)]
    simp [Int.toNat_of_nonneg h.1]
  · next h =>
    split
    · next hneg =>
      rw [year?, List.cons_append, trimStart_cons (by decide)]
      simp only [number?_signed, Option.map_some, Option.some.injEq, Prod.mk.injEq, and_true]
      simp only [Int.ofNat_eq_natCast]
      omega
    · next hpos =>
      rw [year?, List.cons_append, trimStart_cons (by decide)]
      simp only [number?_signed, Option.map_some, Option.some.injEq, Prod.mk.injEq, and_true]
      simp only [Int.ofNat_eq_natCast]
      omega

/-- A fraction written in `k` digits. -/
theorem fraction?_padded {k n : Nat} (hk : 0 < k) (hk9 : k ≤ 9) (hn : n < 10 ^ k)
    (rest : List Char) :
    fraction? ('.' :: (padded k n ++ 'Z' :: rest)) = some (n * 10 ^ (9 - k), 'Z' :: rest) := by
  rw [fraction?, number?_padded hk hn hk9 (.inr (by simp [NoDigitNext]))]
  simp [length_padded hk hn]

theorem fraction?_renderFraction {nano : Nat} (h : nano < 1000000000) (rest : List Char) :
    fraction? (renderFraction nano ++ 'Z' :: rest) = some (nano, 'Z' :: rest) := by
  unfold renderFraction
  split
  · next hz => rw [hz]; rfl
  split
  · next hm =>
    rw [List.cons_append, fraction?_padded (by decide) (by decide) (by omega)]
    congr 2
    omega
  split
  · next hm =>
    rw [List.cons_append, fraction?_padded (by decide) (by decide) (by omega)]
    congr 2
    omega
  · rw [List.cons_append, fraction?_padded (by decide) (by decide) (by omega)]
    simp

/-- At offset zero the local date and time are the instant. -/
theorem toUtc?_zero (t : Timestamp) :
    toUtc? t.date t.hour t.minute t.second t.nano 0 = some t := by
  obtain ⟨date, hour, minute, second, nano, hclock⟩ := t
  obtain ⟨hh, hm, -⟩ := id hclock
  have hhour : (hour * 60 + minute) / 60 = hour := by omega
  have hminute : (hour * 60 + minute) % 60 = minute := by omega
  unfold toUtc?
  generalize hshifted : Int.ofNat (hour * 60 + minute) - 0 = shifted
  rw [Int.ofNat_eq_natCast] at hshifted
  have hlow : ¬ shifted < 0 := by omega
  have hhigh : ¬ 1440 ≤ shifted := by omega
  have hminutes : (shifted % 1440).toNat = hour * 60 + minute := by omega
  simp [hlow, hhigh, hminutes, hhour, hminute, hclock]

namespace Timestamp

theorem parseChars?_renderChars (t : Timestamp) : parseChars? t.renderChars = some t := by
  obtain ⟨hh, hm, hs, hn⟩ := t.isClock
  obtain ⟨-, -, -, hmonth, -, hday⟩ := t.date.isDate
  have hday : t.date.day < 100 := by
    have : daysInMonth t.date.year t.date.month ≤ 31 := by unfold daysInMonth; grind
    omega
  have hdate : Date.of? t.date.year t.date.month t.date.day = some t.date := by
    simp [Date.of?, t.date.isDate]
  have hdash : isBlank '-' = false := by decide
  have hcolon : isBlank ':' = false := by decide
  have hzone : offset? (trimStart ['Z']) = some (0, []) := by decide
  unfold parseChars? renderChars
  refine bind_of_eq_some (year?_renderYear _ _) ?_
  refine bind_of_eq_some (mark?_cons hdash _) ?_
  refine bind_of_eq_some (short?_twoDigits (by omega) _) ?_
  refine bind_of_eq_some (mark?_cons hdash _) ?_
  refine bind_of_eq_some (short?_twoDigits hday _) ?_
  refine bind_of_eq_some (x := _) rfl ?_
  refine bind_of_eq_some (short?_twoDigits (by omega) _) ?_
  refine bind_of_eq_some (mark?_cons hcolon _) ?_
  refine bind_of_eq_some (short?_twoDigits (by omega) _) ?_
  refine bind_of_eq_some (mark?_cons hcolon _) ?_
  refine bind_of_eq_some (short?_twoDigits (by omega) _) ?_
  refine bind_of_eq_some (fraction?_renderFraction hn _) ?_
  refine bind_of_eq_some hzone ?_
  have hclock : ([].all isBlank && t.hour ≤ 23 && t.minute ≤ 59) = true := by simp [hh, hm]
  dsimp only
  rw [if_pos hclock, hdate]
  exact toUtc?_zero t

/-- The text of an instant is read as that instant. -/
theorem parse?_render (t : Timestamp) : parse? t.render = some t := by
  simp [parse?, render, parseChars?_renderChars]

/-- An instant in a document is read as that instant. -/
theorem decode_toJson (t : Timestamp) : Json.decodeWith Timestamp.read t.toJson = .ok t := by
  simp [Json.decodeWith, toJson, Json.raw, Timestamp.read, Json.Raw.text, parse?_render]

/-- A moment holds an instant without loss. -/
theorem timestamp_moment (t : Timestamp) : t.moment.timestamp = t := by
  obtain ⟨date, hour, minute, second, nano, hclock⟩ := t
  have hsecond : second ≤ 60 := hclock.2.2.1
  have hnano : nano < 1000000000 := hclock.2.2.2
  simp only [moment, Moment.timestamp, mk.injEq, true_and]
  omega

end Timestamp

namespace Moment

/-- A moment is the one its text is read as exactly if it is plain. -/
theorem moment_timestamp {m : Moment} : m.timestamp.moment = m ↔ m.Plain := by
  obtain ⟨date, hour, minute, second, nano, hreading⟩ := m
  have hsecond : second ≤ 59 := hreading.2.2.1
  have hnano : nano < 2000000000 := hreading.2.2.2
  simp only [timestamp, Timestamp.moment, mk.injEq, true_and, Plain]
  omega

/-- The plain moments are those that hold instants. -/
theorem plain_iff {m : Moment} : m.Plain ↔ ∃ t : Timestamp, t.moment = m := by
  constructor
  · exact fun h => ⟨m.timestamp, moment_timestamp.mpr h⟩
  · rintro ⟨t, rfl⟩
    exact moment_timestamp.mp (by rw [t.timestamp_moment])

/-- A moment in a document is read as the moment its text tells. -/
theorem decode_toJson (m : Moment) :
    Json.decodeWith Moment.read m.toJson = .ok m.timestamp.moment :=
  congrArg (Except.map Timestamp.moment) m.timestamp.decode_toJson

end Moment

end Rulebook.Time
