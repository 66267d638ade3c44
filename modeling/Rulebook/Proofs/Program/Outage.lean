import Rulebook.Proofs.Program.Kept

/-!
# Outages leave nothing half done

A call of the service looks before it writes and writes once, at its end. So an outage either does
not show or makes the call fail with everything as it was (`Attempt.AllOrNothing`). What is known
about worlds without outages thus carries over to all.
-/

namespace Rulebook

/-- A question to the store meets an outage, or it is answered as if there were none. -/
theorem World.answer_calm_or_refusal (around : Surroundings) (call : StoreCall) (w : World) :
    answer around (.store call) w = answer around.calm (.store call) w ∨
      ∃ e, answer around (.store call) w = (refusal e call, w) := by
  cases h : Outage.meets? around.outages call with
  | some e => exact .inr ⟨e, answer_of_outage h⟩
  | none => exact .inl (answer_of_no_outage h)

namespace Attempt

variable {ε δ α β : Type}

/-- A program that does the same as without outages, or fails and changes nothing. -/
def AllOrNothing (p : Attempt ε α) : Prop :=
  ∀ around w, p.runIn around w = p.runIn around.calm w ∨ ∃ e, p.runIn around w = (.error e, w)

theorem allOrNothing_pure (x : α) : (pure x : Attempt ε α).AllOrNothing :=
  fun _ _ => .inl rfl

theorem allOrNothing_throw (e : ε) : (throw e : Attempt ε α).AllOrNothing :=
  fun _ _ => .inl rfl

theorem allOrNothing_get (c : Collection) (id : String) : (Attempt.get c id).AllOrNothing :=
  fun around w => World.answer_calm_or_refusal around (.get c id) w

theorem allOrNothing_list (c : Collection) (filter : Option FieldFilter) :
    (Attempt.list c filter).AllOrNothing :=
  fun around w => World.answer_calm_or_refusal around (.list c filter) w

theorem allOrNothing_add (c : Collection) (fields : Json) : (Attempt.add c fields).AllOrNothing :=
  fun around w => World.answer_calm_or_refusal around (.add c fields) w

theorem allOrNothing_set (c : Collection) (id : String) (fields : Json) :
    (Attempt.set c id fields).AllOrNothing :=
  fun around w => World.answer_calm_or_refusal around (.set c id fields) w

theorem allOrNothing_delete (c : Collection) (id : String) :
    (Attempt.delete c id).AllOrNothing :=
  fun around w => World.answer_calm_or_refusal around (.delete c id) w

theorem allOrNothing_setAll (c : Collection) (docs : List Document) :
    (Attempt.setAll c docs).AllOrNothing :=
  fun around w => World.answer_calm_or_refusal around (.setAll c docs) w

/-- A program that has only looked has done nothing yet. -/
theorem AllOrNothing.bind {p : Attempt ε α} {f : α → Attempt ε β} (hp : p.AllOrNothing)
    (hlooks : p.Only Call.Looks) (hf : ∀ x, (f x).AllOrNothing) : (p >>= f).AllOrNothing := by
  intro around w
  have hworld : (p.runIn around.calm w).2 = w := Program.world_of_only _ hlooks w
  rw [runIn_bind, runIn_bind]
  rcases hp around w with heq | ⟨e, heq⟩
  · rw [heq]
    rcases hcalm : p.runIn around.calm w with ⟨e | x, w'⟩
    · exact .inl rfl
    · rw [hcalm] at hworld
      rw [show w' = w from hworld]
      exact hf x around w
  · rw [heq]
    exact .inr ⟨e, rfl⟩

/-- Nothing is asked after the result. -/
theorem AllOrNothing.bind_pure {p : Attempt ε α} (hp : p.AllOrNothing) (f : α → β) :
    (p >>= fun x => pure (f x)).AllOrNothing := by
  intro around w
  rw [runIn_bind, runIn_bind]
  rcases hp around w with heq | ⟨e, heq⟩
  · exact .inl (by rw [heq]; rfl)
  · exact .inr ⟨e, by rw [heq]⟩

/-- The world after such a program is that after a run without outages, or the one before. -/
theorem AllOrNothing.world_cases {p : Attempt ε α} (hp : p.AllOrNothing) (around : Surroundings)
    (w : World) :
    (p.runIn around w).2 = (p.runIn around.calm w).2 ∨ (p.runIn around w).2 = w := by
  rcases hp around w with heq | ⟨e, heq⟩
  · exact .inl (by rw [heq])
  · exact .inr (by rw [heq])

end Attempt

open Attempt (AllOrNothing Only only_one only_pure only_throw)

/-! ## The calls of the service -/

namespace Rulesets

theorem allOrNothing_get (id : String) : (get id).AllOrNothing := by
  refine (Attempt.allOrNothing_get _ _).bind (only_one trivial) fun doc => ?_
  cases kind.ofDocument? doc with
  | none => exact Attempt.allOrNothing_throw _
  | some r => exact Attempt.allOrNothing_pure _

theorem allOrNothing_create (now : Time.Timestamp) (draft : RulesetDraft) :
    (create now draft).AllOrNothing :=
  (Attempt.allOrNothing_add _ _).bind_pure _

theorem allOrNothing_update (now : Time.Timestamp) (id : String) (draft : RulesetDraft) :
    (update now id draft).AllOrNothing :=
  (allOrNothing_get id).bind (views_get id).looks fun _ =>
    (Attempt.allOrNothing_set _ _ _).bind_pure _

theorem allOrNothing_delete (id : String) : (delete id).AllOrNothing :=
  Attempt.allOrNothing_delete _ _

end Rulesets

namespace Rules

variable (now : Time.Timestamp) (rulesetId ruleId : String) (draft : RuleDraft)

theorem allOrNothing_list : (list rulesetId).AllOrNothing :=
  (Attempt.allOrNothing_list _ _).bind_pure _

theorem allOrNothing_get : (get rulesetId ruleId).AllOrNothing := by
  refine (Attempt.allOrNothing_get _ _).bind (only_one trivial) fun doc => ?_
  cases kind.ofDocument? doc with
  | none => exact Attempt.allOrNothing_throw _
  | some r => exact Attempt.allOrNothing_pure _

theorem allOrNothing_create : (create now rulesetId draft).AllOrNothing :=
  (allOrNothing_list rulesetId).bind (views_list rulesetId).looks fun _ =>
    (Attempt.allOrNothing_add _ _).bind_pure _

theorem allOrNothing_update : (update now rulesetId ruleId draft).AllOrNothing :=
  (allOrNothing_get rulesetId ruleId).bind (views_get rulesetId ruleId).looks fun _ =>
    (Attempt.allOrNothing_set _ _ _).bind_pure _

theorem allOrNothing_delete : (delete rulesetId ruleId).AllOrNothing :=
  Attempt.allOrNothing_delete _ _

theorem allOrNothing_reorder (direction : Direction) :
    (reorder now rulesetId ruleId direction).AllOrNothing := by
  refine (allOrNothing_list rulesetId).bind (views_list rulesetId).looks fun listing => ?_
  dsimp only
  split
  · exact Attempt.allOrNothing_throw _
  · split
    · exact Attempt.allOrNothing_pure _
    · exact (Attempt.allOrNothing_setAll _ _).bind_pure _

end Rules

end Rulebook
