import Mathlib.Algebra.Group.Nat.Defs
import Rulebook.Proofs.Json.RoundTrip
import Rulebook.Rule.Form

/-!
# The names of condition fields

The grammar of the names of a rule form, apart from the search that takes a name to pieces. A
condition field is named by `conditions[`, an index, `][`, a part and `]`; an index is spelled by
digits, perhaps after a plus sign, so one index has many spellings (`Spells`). No spelling holds a
bracket and parts are known by their names, so the pieces found by cutting off the start, at the
first `][` and before the last character are those of the grammar (`field?_eq_some_iff`).
-/

namespace Rulebook.RuleForm

/-- A text of digits, perhaps after a plus sign, whose value is an index below the limit. -/
def Spells (text : String) (index : Nat) : Prop :=
  ∃ digits : List Char, (text.toList = digits ∨ text.toList = '+' :: digits) ∧ digits ≠ [] ∧
    (∀ c ∈ digits, c.isDigit) ∧ Nat.ofDigitChars 10 digits 0 = index ∧ index ≤ 2 ^ 64 - 1

/-- A name of a part of the condition of an index. -/
def Names (key : String) (index : Nat) (part : Part) : Prop :=
  ∃ text, Spells text index ∧ key = "conditions[" ++ text ++ "][" ++ part.name ++ "]"

/-- A name that begins like that of a condition field but is none. -/
def Malformed (key : String) : Prop :=
  (∃ rest, key = "conditions" ++ rest) ∧ ∀ index part, ¬ Names key index part

variable {start cs left right rest : List Char} {key text : String} {index : Nat} {part : Part}

/-! ## The pieces of a name -/

theorem after?_eq_some_iff : after? start cs = some rest ↔ cs = start ++ rest := by
  induction start generalizing cs with
  | nil => simp [after?, eq_comm]
  | cons p ps ih =>
    cases cs with
    | nil => simp [after?]
    | cons c cs =>
      rw [after?, List.cons_append, List.cons.injEq]
      split
      · next heq => rw [ih, eq_comm (a := c), and_iff_right heq]
      · next hne => exact iff_of_false nofun fun h => hne h.1.symm

theorem after?_append : after? start (start ++ rest) = some rest :=
  after?_eq_some_iff.mpr rfl

theorem looksLikeCondition_iff : looksLikeCondition key ↔ ∃ rest, key = "conditions" ++ rest := by
  rw [looksLikeCondition, Option.isSome_iff_exists]
  constructor
  · rintro ⟨rest, h⟩
    refine ⟨String.ofList rest, String.toList_inj.mp ?_⟩
    rw [after?_eq_some_iff.mp h, String.toList_append, String.toList_ofList (l := rest)]
  · rintro ⟨rest, rfl⟩
    exact ⟨rest.toList, by rw [String.toList_append, after?_append]⟩

theorem eq_append_of_splitBrackets? (h : splitBrackets? cs = some (left, right)) :
    cs = left ++ ']' :: '[' :: right := by
  induction cs generalizing left with
  | nil => cases h
  | cons c cs ih =>
    unfold splitBrackets? at h
    split at h
    · next hafter =>
      cases h
      have hcons := after?_eq_some_iff.mp hafter
      exact hcons
    · obtain ⟨⟨l, r⟩, hsplit, heq⟩ := Option.map_eq_some_iff.mp h
      cases heq
      rw [ih hsplit, List.cons_append]

/-- Brackets behind a text without them are the first ones. -/
theorem splitBrackets?_append (h : ']' ∉ left) :
    splitBrackets? (left ++ ']' :: '[' :: right) = some (left, right) := by
  induction left with
  | nil => rfl
  | cons c left ih =>
    rw [List.mem_cons, not_or] at h
    have hafter : after? [']', '['] (c :: (left ++ ']' :: '[' :: right)) = none := by
      rw [after?, if_neg h.1]
    rw [List.cons_append, splitBrackets?, hafter, ih h.2]
    rfl

/-- A plus sign is no digit, so an index is taken to pieces in one way. -/
theorem index?_eq_some_iff : index? text.toList = some index ↔ Spells text index := by
  have hlimit : indexLimit = 2 ^ 64 := rfl
  unfold index?
  constructor
  · intro h
    obtain ⟨⟨hne, hdigits, hlt⟩, hindex⟩ := Option.ite_none_right_eq_some.mp h
    obtain rfl := Option.some.inj hindex
    refine ⟨_, ?_, hne, List.all_eq_true.mp hdigits,
      (Json.Number.naturalOf_eq_ofDigitChars _).symm, by omega⟩
    cases hplus : after? ['+'] text.toList with
    | none => exact .inl rfl
    | some digits => exact .inr (after?_eq_some_iff.mp hplus)
  · rintro ⟨digits, htext, hne, hdigits, hindex, hle⟩
    have hpieces : (after? ['+'] text.toList).getD text.toList = digits := by
      rcases htext with htext | htext
      · cases hplus : after? ['+'] text.toList with
        | none => exact htext
        | some rest =>
          have hmem : '+' ∈ digits := by
            rw [← htext, after?_eq_some_iff.mp hplus]
            exact List.mem_cons_self
          exact absurd (hdigits _ hmem) (by decide)
      · rw [htext]
        rfl
    dsimp only
    rw [hpieces, Json.Number.naturalOf_eq_ofDigitChars, hindex]
    exact if_pos ⟨hne, List.all_eq_true.mpr hdigits, by omega⟩

theorem Spells.not_mem_bracket (h : Spells text index) : ']' ∉ text.toList := by
  obtain ⟨digits, htext, -, hdigits, -, -⟩ := h
  have hout : ']' ∉ digits := fun hmem => absurd (hdigits _ hmem) (by decide)
  rcases htext with htext | htext <;> simp [htext, hout]

theorem Part.of?_eq_some_iff : Part.of? cs = some part ↔ cs = part.name.toList := by
  constructor
  · intro h
    simpa [eq_comm] using List.find?_some h
  · rintro rfl
    cases part <;> rfl

theorem toList_fieldName (text : String) (part : Part) :
    ("conditions[" ++ text ++ "][" ++ part.name ++ "]").toList =
      "conditions[".toList ++ (text.toList ++ ']' :: '[' :: (part.name.toList ++ [']'])) := by
  simp [String.toList_append]

/-- A name is taken to pieces exactly as the grammar says. -/
theorem field?_eq_some_iff : field? key = some (index, part) ↔ Names key index part := by
  unfold field?
  constructor
  · intro h
    simp only [Option.bind_eq_bind, Option.bind_eq_some_iff, Option.map_eq_some_iff] at h
    obtain ⟨rest, hstart, ⟨left, right⟩, hsplit, _, ⟨name, hend, rfl⟩, _, hindex, _, hpart, h⟩ := h
    obtain ⟨rfl, rfl⟩ := Prod.mk.inj (Option.some.inj h)
    have hright : right = name.reverse ++ [']'] := by
      rw [← right.reverse_reverse, after?_eq_some_iff.mp hend, List.reverse_append]
      rfl
    refine ⟨String.ofList left, ?_, String.toList_inj.mp ?_⟩
    · exact index?_eq_some_iff.mp (by rwa [String.toList_ofList])
    · rw [toList_fieldName, String.toList_ofList (l := left), after?_eq_some_iff.mp hstart,
        eq_append_of_splitBrackets? hsplit, hright, Part.of?_eq_some_iff.mp hpart]
  · rintro ⟨text, htext, rfl⟩
    have hend : after? [']'] (part.name.toList ++ [']']).reverse =
        some part.name.toList.reverse := by
      rw [List.reverse_append, List.reverse_singleton, after?_append]
    simp only [toList_fieldName, after?_append, splitBrackets?_append htext.not_mem_bracket, hend,
      Option.bind_eq_bind, Option.bind_some, Option.map_some, List.reverse_reverse,
      index?_eq_some_iff.mpr htext, Part.of?_eq_some_iff.mpr rfl]
    rfl

/-- A name is that of one part of one condition at most. -/
theorem Names.unique {index' : Nat} {part' : Part} (h : Names key index part)
    (h' : Names key index' part') : index = index' ∧ part = part' := by
  rw [← field?_eq_some_iff] at h h'
  rw [h] at h'
  exact Prod.mk.inj (Option.some.inj h')

theorem Names.looksLikeCondition (h : Names key index part) : looksLikeCondition key := by
  obtain ⟨text, -, rfl⟩ := h
  refine looksLikeCondition_iff.mpr ⟨"[" ++ text ++ "][" ++ part.name ++ "]", ?_⟩
  simp only [← String.append_assoc]
  rfl

theorem malformed_iff_field? :
    Malformed key ↔ looksLikeCondition key = true ∧ field? key = none := by
  rw [Malformed, looksLikeCondition_iff, Option.eq_none_iff_forall_ne_some, Prod.forall]
  simp only [ne_eq, field?_eq_some_iff]

instance : DecidablePred Malformed :=
  fun _ => decidable_of_iff _ malformed_iff_field?.symm

end Rulebook.RuleForm
