import Rulebook.Proofs.Program.Outage

/-!
# Failures that leave nothing behind

A call of the service that fails has written nothing: the write is the last thing it does, and a
write that fails leaves the store alone (`Attempt.FailsCleanly`). This is about failures of every
kind, a missing or malformed document as well as an outage.
-/

namespace Rulebook

namespace Attempt

variable {ε δ α β : Type}

/-- A program that leaves the store as it was when it fails. -/
def FailsCleanly (p : Attempt ε α) : Prop :=
  ∀ (around : Surroundings) w e, (p.runIn around w).1 = .error e →
    (p.runIn around w).2.store = w.store

theorem FailsCleanly.of_looks {p : Attempt ε α} (h : p.Only Call.Looks) : p.FailsCleanly :=
  fun around w _ _ => congrArg World.store (Program.world_of_only around h w)

/-- It is enough to know what happens without outages. -/
theorem AllOrNothing.failsCleanly {p : Attempt ε α} (h : p.AllOrNothing)
    (hcalm : ∀ (around : Surroundings) w e, (p.runIn around.calm w).1 = .error e →
      (p.runIn around.calm w).2.store = w.store) : p.FailsCleanly := by
  intro around w e he
  rcases h around w with heq | ⟨e', heq⟩
  · rw [heq] at he ⊢
    exact hcalm around w e he
  · rw [heq]

theorem failsCleanly_add (c : Collection) (fields : Json) : (Attempt.add c fields).FailsCleanly :=
  (allOrNothing_add c fields).failsCleanly fun around w e he => by cases he

theorem failsCleanly_set (c : Collection) (id : String) (fields : Json) :
    (Attempt.set c id fields).FailsCleanly :=
  (allOrNothing_set c id fields).failsCleanly fun around w e he => by cases he

theorem failsCleanly_setAll (c : Collection) (docs : List Document) :
    (Attempt.setAll c docs).FailsCleanly :=
  (allOrNothing_setAll c docs).failsCleanly fun around w e he => by cases he

theorem failsCleanly_delete (c : Collection) (id : String) :
    (Attempt.delete c id).FailsCleanly := by
  refine (allOrNothing_delete c id).failsCleanly fun around w e he => ?_
  cases hget : (w.store.shelf c).get? id with
  | none => rw [runIn_calm_delete_of_none around w hget]
  | some fields =>
    rw [runIn_calm_delete_of_some around w hget] at he
    cases he

/-- A program that has only looked has nothing to take back. -/
theorem FailsCleanly.after_looks {p : Attempt ε α} {f : α → Attempt ε β}
    (hp : p.Only Call.Looks) (hf : ∀ x, (f x).FailsCleanly) : (p >>= f).FailsCleanly := by
  intro around w e he
  have hworld : (p.runIn around w).2 = w := Program.world_of_only around hp w
  rw [runIn_bind] at he ⊢
  rcases hrun : p.runIn around w with ⟨e' | x, w'⟩ <;>
    obtain rfl : w' = w := by rw [← hworld, hrun]
  · rfl
  · rw [hrun] at he
    exact hf x around w' e he

theorem FailsCleanly.bind_pure {p : Attempt ε α} (hp : p.FailsCleanly) (f : α → β) :
    (p >>= fun x => pure (f x)).FailsCleanly := by
  intro around w e he
  rw [world_bind_pure]
  rw [runIn_bind] at he
  rcases hrun : p.runIn around w with ⟨e' | x, w'⟩ <;> rw [hrun] at he
  · rw [← show (p.runIn around w).2 = w' by rw [hrun]]
    exact hp around w e' (by rw [hrun])
  · cases he

end Attempt

open Attempt (FailsCleanly)

namespace Rulesets

variable (now : Time.Timestamp) (id : String) (draft : RulesetDraft)

theorem failsCleanly_create : (create now draft).FailsCleanly :=
  (Attempt.failsCleanly_add _ _).bind_pure _

theorem failsCleanly_update : (update now id draft).FailsCleanly :=
  .after_looks (views_get id).looks fun _ => (Attempt.failsCleanly_set _ _ _).bind_pure _

end Rulesets

namespace Rules

variable (now : Time.Timestamp) (rulesetId ruleId : String) (draft : RuleDraft)

theorem failsCleanly_create : (create now rulesetId draft).FailsCleanly :=
  .after_looks (views_list rulesetId).looks fun _ => (Attempt.failsCleanly_add _ _).bind_pure _

theorem failsCleanly_update : (update now rulesetId ruleId draft).FailsCleanly :=
  .after_looks (views_get rulesetId ruleId).looks fun _ =>
    (Attempt.failsCleanly_set _ _ _).bind_pure _

theorem failsCleanly_reorder (direction : Direction) :
    (reorder now rulesetId ruleId direction).FailsCleanly := by
  refine .after_looks (views_list rulesetId).looks fun listing => ?_
  dsimp only
  split
  · exact .of_looks (Attempt.only_throw _)
  · split
    · exact .of_looks (Attempt.only_pure _)
    · exact (Attempt.failsCleanly_setAll _ _).bind_pure _

end Rules

end Rulebook
