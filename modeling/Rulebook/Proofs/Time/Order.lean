import Mathlib.Algebra.Order.Group.Unbundled.Int
import Rulebook.Time.Timestamp

/-!
# The order of instants

Instants compare field by field, the year first (`Timestamp.atMost_iff`). The comparison is a
preorder.
-/

namespace Rulebook.Time.Timestamp

variable {s t u : Timestamp}

theorem atMost_iff :
    s.atMost t = true ↔
      s.date.year < t.date.year ∨ s.date.year = t.date.year ∧
        (s.date.month < t.date.month ∨ s.date.month = t.date.month ∧
          (s.date.day < t.date.day ∨ s.date.day = t.date.day ∧
            (s.hour < t.hour ∨ s.hour = t.hour ∧
              (s.minute < t.minute ∨ s.minute = t.minute ∧
                (s.second < t.second ∨ s.second = t.second ∧ s.nano ≤ t.nano))))) := by
  simp only [atMost, Bool.or_eq_true, Bool.and_eq_true, beq_iff_eq, decide_eq_true_eq]
  exact Iff.rfl

theorem atMost_refl (t : Timestamp) : t.atMost t = true := by
  simp [atMost_iff]

/-- Comparing by one field and then by the rest is transitive if comparing by the rest is. -/
theorem lex_trans {α : Type} [LinearOrder α] {a b c : α} {p q r : Prop} (hrest : p → q → r)
    (hab : a < b ∨ a = b ∧ p) (hbc : b < c ∨ b = c ∧ q) : a < c ∨ a = c ∧ r := by
  rcases hab with hab | ⟨rfl, hp⟩
  · rcases hbc with hbc | ⟨rfl, -⟩
    · exact .inl (lt_trans hab hbc)
    · exact .inl hab
  · exact hbc.imp_right fun ⟨heq, hq⟩ => ⟨heq, hrest hp hq⟩

theorem atMost_trans (hst : s.atMost t = true) (htu : t.atMost u = true) : s.atMost u = true := by
  rw [atMost_iff] at *
  exact lex_trans (lex_trans (lex_trans (lex_trans (lex_trans (lex_trans le_trans))))) hst htu

end Rulebook.Time.Timestamp
