import Rulebook.Proofs.Program.Only

/-!
# What a program can tell two worlds apart by

A program learns of a world only what its questions are answered. One that asks for nothing but
fresh challenges comes to the same result in all worlds whose next draws are the same
(`runIn_eq_of_draws`), and one that only looks at one collection comes to the same result in all
worlds that have the same documents there (`runIn_eq_of_views`).
-/

namespace Rulebook

/-- Two worlds with the same challenges to come. -/
def SameDraws (around₁ : Surroundings) (w₁ : World) (around₂ : Surroundings) (w₂ : World) : Prop :=
  ∀ n, around₁.challenges (w₁.challengesDrawn + n) = around₂.challenges (w₂.challengesDrawn + n)

variable {around around₁ around₂ : Surroundings} {w₁ w₂ : World}

/-- One draw later the challenges to come are the same again. -/
theorem SameDraws.succ (h : SameDraws around₁ w₁ around₂ w₂) :
    SameDraws around₁ (World.answer around₁ .freshChallenge w₁).2 around₂
      (World.answer around₂ .freshChallenge w₂).2 := by
  intro n
  have hn := h (1 + n)
  rwa [← Nat.add_assoc, ← Nat.add_assoc] at hn

namespace Program

variable {α : Type} {p : Program α}

/-- A program that asks for nothing but fresh challenges knows nothing but these. -/
theorem runIn_eq_of_draws (hp : p.Only fun call => call = .freshChallenge)
    (h : SameDraws around₁ w₁ around₂ w₂) :
    (p.runIn around₁ w₁).1 = (p.runIn around₂ w₂).1 := by
  induction hp generalizing w₁ w₂ with
  | done x => rfl
  | @ask call next hcall _ ih =>
    subst hcall
    have hdraw : (World.answer around₁ .freshChallenge w₁).1 =
        (World.answer around₂ .freshChallenge w₂).1 := h 0
    have hrest := ih (World.answer around₁ .freshChallenge w₁).1 (SameDraws.succ h)
    change ((next _).runIn around₁ _).1 = ((next _).runIn around₂ _).1
    rw [hrest, hdraw]

/-- A program that asks for nothing but fresh challenges leaves the store and the log alone. -/
theorem world_of_draws (hp : p.Only fun call => call = .freshChallenge) (around : Surroundings)
    (w : World) :
    (p.runIn around w).2.store = w.store ∧ (p.runIn around w).2.asked = w.asked := by
  induction hp generalizing w with
  | done x => exact ⟨rfl, rfl⟩
  | ask hcall _ ih =>
    subst hcall
    exact ih _ _

/-- A look at a collection is answered from its shelf. -/
theorem answer_eq_of_views {c : Collection} {call : Call} (hcall : call.Views c)
    (h : w₁.store.shelf c = w₂.store.shelf c) :
    (World.answer around call w₁).1 = (World.answer around call w₂).1 := by
  obtain ⟨habout, hlooks⟩ := hcall
  cases call with
  | platform call => exact habout.elim
  | freshChallenge => exact habout.elim
  | store call =>
    cases hout : Outage.meets? around.outages call with
    | some e => rw [World.answer_of_outage hout, World.answer_of_outage hout]
    | none =>
      rw [World.answer_of_no_outage hout, World.answer_of_no_outage hout]
      cases call with
      | get d id =>
        obtain rfl : d = c := habout
        change w₁.store.get d id = w₂.store.get d id
        rw [Store.get, Store.get, h]
      | list d filter =>
        obtain rfl : d = c := habout
        change Except.ok (w₁.store.list d filter) = Except.ok (w₂.store.list d filter)
        rw [Store.list, Store.list, h]
      | add | set | delete | setAll => exact hlooks.elim

/-- A program that only looks at one collection knows nothing but its documents. -/
theorem runIn_eq_of_views {c : Collection} (hp : p.Only (Call.Views c))
    (h : w₁.store.shelf c = w₂.store.shelf c) :
    (p.runIn around w₁).1 = (p.runIn around w₂).1 := by
  induction hp generalizing w₁ w₂ with
  | done x => rfl
  | @ask call next hcall _ ih =>
    have hlook : ∀ w, (World.answer around call w).2 = w := world_answer around hcall.2
    have hafter : (World.answer around call w₁).2.store.shelf c =
        (World.answer around call w₂).2.store.shelf c := by
      rw [hlook, hlook, h]
    have hrest := ih (World.answer around call w₁).1 hafter
    change ((next _).runIn around _).1 = ((next _).runIn around _).1
    rw [hrest, answer_eq_of_views hcall h]

end Program

end Rulebook
