import Mathlib.Data.List.Nodup
import Mathlib.Logic.Function.Basic
import Rulebook.Proofs.Program.Run

/-!
# Programs side by side

A crowd is a world with programs that run in it side by side. One step answers the next question of
one program; a question is atomic, and between two questions of one program the others may have any
number of theirs answered. A schedule says whose turn it is, step by step; every interleaving is the
run of some schedule. A program that is done stays done. A crowd has come out in some order
(`Crowd.InOrder`) when its world and all results so far are as if the programs that are done had
been carried out one after the other in this order.
-/

namespace Rulebook

/-- A world and the programs that run in it side by side. -/
structure Crowd (ι α : Type) where
  world : World
  program : ι → Program α

namespace Crowd

variable {ι α : Type} [DecidableEq ι] (around : Surroundings)

/-- The next question of one program is answered. A program that is done has none. -/
def step (st : Crowd ι α) (i : ι) : Crowd ι α :=
  match st.program i with
  | .done _ => st
  | .ask call next =>
    ⟨(World.answer around call st.world).2,
      Function.update st.program i (next (World.answer around call st.world).1)⟩

/-- The crowd after the steps of a schedule. -/
def run (st : Crowd ι α) (schedule : List ι) : Crowd ι α :=
  schedule.foldl (step around) st

variable {around} {st : Crowd ι α} {i j : ι} {x : α}

theorem step_of_done (h : st.program i = .done x) : st.step around i = st := by
  rw [step, h]

theorem step_of_ask {call : Call} {next : call.Answer → Program α}
    (h : st.program i = .ask call next) :
    st.step around i = ⟨(World.answer around call st.world).2,
      Function.update st.program i (next (World.answer around call st.world).1)⟩ := by
  rw [step, h]

omit [DecidableEq ι] in
theorem not_done_of_ask {call : Call} {next : call.Answer → Program α}
    (h : st.program i = .ask call next) (x : α) : st.program i ≠ .done x := by
  intro hdone
  cases h.symm.trans hdone

/-- A step leaves the other programs as they are. -/
theorem program_step_of_ne (h : j ≠ i) : (st.step around i).program j = st.program j := by
  cases hi : st.program i with
  | done x => rw [step_of_done hi]
  | ask call next =>
    rw [step_of_ask hi]
    exact Function.update_of_ne h _ _

/-- A program that is done stays done. -/
theorem done_step (h : st.program j = .done x) (i : ι) :
    (st.step around i).program j = .done x := by
  by_cases hij : j = i
  · subst hij
    rw [step_of_done h]
    exact h
  · rw [program_step_of_ne hij]
    exact h

@[simp] theorem run_nil (st : Crowd ι α) : st.run around [] = st :=
  rfl

@[simp] theorem run_cons (st : Crowd ι α) (i : ι) (schedule : List ι) :
    st.run around (i :: schedule) = (st.step around i).run around schedule :=
  rfl

/-- What every step preserves holds after every schedule. -/
theorem run_invariant {P : Crowd ι α → Prop} (hstep : ∀ st i, P st → P (st.step around i))
    (h : P st) (schedule : List ι) : P (st.run around schedule) := by
  induction schedule generalizing st with
  | nil => exact h
  | cons i schedule ih => exact ih (hstep st i h)

/-- The result of a program that is done. -/
def result? (st : Crowd ι α) (i : ι) : Option α :=
  match st.program i with
  | .done x => some x
  | .ask _ _ => none

omit [DecidableEq ι] in
theorem result?_eq_some_iff : st.result? i = some x ↔ st.program i = .done x := by
  rw [result?]
  cases st.program i <;> simp

omit [DecidableEq ι] in
theorem result?_eq_none_iff : st.result? i = none ↔ ∀ x, st.program i ≠ .done x := by
  rw [result?]
  cases st.program i <;> simp

/-- A program is carried out by one step when its next question is its last one. -/
theorem step_of_last {call : Call} {next : call.Answer → Program α}
    (h : st.program i = .ask call next)
    (hnext : next (World.answer around call st.world).1 = .done x) :
    st.step around i = ⟨((st.program i).runIn around st.world).2,
      Function.update st.program i (.done ((st.program i).runIn around st.world).1)⟩ := by
  have hrun :
      (st.program i).runIn around st.world = (x, (World.answer around call st.world).2) := by
    rw [h, Program.runIn, Program.run_ask, hnext]
    rfl
  rw [step_of_ask h, hnext, hrun]

end Crowd

/-! ## One after the other -/

/-- The world after programs one after the other. -/
def Program.inTurn {α : Type} (around : Surroundings) (w : World) (programs : List (Program α)) :
    World :=
  programs.foldl (fun w p => (p.runIn around w).2) w

theorem Program.inTurn_concat {α : Type} (around : Surroundings) (w : World)
    (programs : List (Program α)) (p : Program α) :
    inTurn around w (programs ++ [p]) = (p.runIn around (inTurn around w programs)).2 :=
  List.foldl_append

namespace Crowd

variable {ι α : Type}

/-- The programs that are done could have been carried out one after the other in some order, each
with the result it has, to the world that is there now. -/
structure InOrder (around : Surroundings) (w : World) (p : ι → Program α) (st : Crowd ι α)
    (order : List ι) : Prop where
  nodup : order.Nodup
  mem_iff : ∀ i, i ∈ order ↔ ∃ x, st.program i = .done x
  world : st.world = Program.inTurn around w (order.map p)
  result : ∀ before i, before ++ [i] <+: order →
    st.program i = .done ((p i).runIn around (Program.inTurn around w (before.map p))).1

namespace InOrder

variable {around : Surroundings} {w : World} {p : ι → Program α} {st : Crowd ι α} {order : List ι}
  {i : ι}

theorem start (h : ∀ i x, p i ≠ .done x) : InOrder around w p ⟨w, p⟩ [] where
  nodup := List.nodup_nil
  mem_iff i := by
    refine ⟨fun hi => absurd hi List.not_mem_nil, ?_⟩
    rintro ⟨x, hx⟩
    exact absurd hx (h i x)
  world := rfl
  result before i hinitial := by simp at hinitial

variable [DecidableEq ι]

/-- A program that only goes on is not in the order yet. -/
theorem goOn (h : st.InOrder around w p order) (hrunning : ∀ x, st.program i ≠ .done x)
    {q : Program α} (hq : ∀ x, q ≠ .done x) :
    InOrder around w p ⟨st.world, Function.update st.program i q⟩ order where
  nodup := h.nodup
  mem_iff j := by
    rw [h.mem_iff]
    by_cases hj : j = i
    · subst hj
      simp [hrunning, hq]
    · simp [Function.update_of_ne hj]
  world := h.world
  result before j hinitial := by
    have hdone := h.result before j hinitial
    have hj : j ≠ i := by
      rintro rfl
      exact hrunning _ hdone
    exact (Function.update_of_ne hj _ _).trans hdone

/-- A program that comes out as if it were carried out now is the next one in the order. -/
theorem finish (h : st.InOrder around w p order) (hrunning : ∀ x, st.program i ≠ .done x) :
    InOrder around w p ⟨((p i).runIn around st.world).2,
      Function.update st.program i (.done ((p i).runIn around st.world).1)⟩ (order ++ [i]) where
  nodup := by
    have hnew : i ∉ order := fun hi => by
      obtain ⟨x, hx⟩ := (h.mem_iff i).mp hi
      exact hrunning x hx
    rw [← List.concat_eq_append]
    exact h.nodup.concat hnew
  mem_iff j := by
    rw [List.mem_append, List.mem_singleton, h.mem_iff]
    by_cases hj : j = i
    · subst hj
      simp
    · simp [hj]
  world := by
    rw [List.map_append, List.map_singleton, Program.inTurn_concat, ← h.world]
  result before j hinitial := by
    rcases List.prefix_concat_iff.mp hinitial with heq | hbefore
    · obtain ⟨rfl, hj⟩ := List.append_inj' heq rfl
      obtain rfl : j = i := by simpa using hj
      rw [← h.world]
      exact Function.update_self ..
    · have hdone := h.result before j hbefore
      have hj : j ≠ i := by
        rintro rfl
        exact hrunning _ hdone
      exact (Function.update_of_ne hj _ _).trans hdone

end InOrder

end Crowd

end Rulebook
