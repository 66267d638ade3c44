import Rulebook.Proofs.Program.Run

/-!
# What a program may ask

`Only P` says that every question a program can ever ask satisfies `P`, whatever the answers are.
It is checked along the program and then holds of every run: a program that writes to other
collections only leaves a shelf as it was (`shelf_of_only`), and what it adds to the log of
questions to the platform satisfies `P` too (`logs_of_only`).
-/

namespace Rulebook

/-- The collection that a question may change. -/
def Call.written? : Call → Option Collection
  | .store (.add c _) | .store (.set c _ _) | .store (.delete c _) | .store (.setAll c _) => some c
  | _ => none

/-- A question that changes nothing. -/
def Call.Looks : Call → Prop
  | .store (.get _ _) | .store (.list _ _) => True
  | _ => False

namespace Program

variable {α β : Type} {P Q : Call → Prop}

/-- Every question that a program may ask satisfies a predicate. -/
inductive Only (P : Call → Prop) : Program α → Prop
  | done (x : α) : Only P (.done x)
  | ask {call : Call} {next : call.Answer → Program α} (hcall : P call)
      (hnext : ∀ a, Only P (next a)) : Only P (.ask call next)

theorem Only.mono {p : Program α} (h : p.Only P) (hPQ : ∀ call, P call → Q call) : p.Only Q := by
  induction h with
  | done x => exact .done x
  | ask hcall _ ih => exact .ask (hPQ _ hcall) ih

/-- A sequence asks what its parts ask. -/
theorem Only.bind {p : Program α} {f : α → Program β} (hp : p.Only P) (hf : ∀ x, (f x).Only P) :
    (p >>= f).Only P := by
  induction hp with
  | done x => exact hf x
  | ask hcall _ ih => exact .ask hcall ih

section Run

variable (around : Surroundings)

/-- A question that writes elsewhere leaves a shelf as it was. -/
theorem shelf_answer {call : Call} {c : Collection} (h : call.written? ≠ some c) (w : World) :
    (World.answer around call w).2.store.shelf c = w.store.shelf c := by
  cases call with
  | platform call => rfl
  | freshChallenge => rfl
  | store call =>
    cases hout : Outage.meets? around.outages call with
    | some e => rw [World.answer_of_outage hout]
    | none =>
      have hput : ∀ d s, d ≠ c → (w.store.put d s).shelf c = w.store.shelf c :=
        fun d s hne => Store.shelf_put_ne _ _ hne.symm
      rw [World.answer_of_no_outage hout]
      cases call with
      | get d id => rfl
      | list d filter => rfl
      | add d fields => exact hput d _ fun heq => h (congrArg some heq)
      | set d id fields => exact hput d _ fun heq => h (congrArg some heq)
      | setAll d docs => exact hput d _ fun heq => h (congrArg some heq)
      | delete d id =>
        simp only [World.answerStore, Store.delete]
        cases (w.store.shelf d).get? id with
        | none => rfl
        | some fields => exact hput d _ fun heq => h (congrArg some heq)

/-- A program that never writes to a collection leaves its shelf as it was. -/
theorem shelf_of_only {p : Program α} {c : Collection}
    (h : p.Only fun call => call.written? ≠ some c) (w : World) :
    (p.runIn around w).2.store.shelf c = w.store.shelf c := by
  induction h generalizing w with
  | done x => rfl
  | ask hcall _ ih => exact (ih _ _).trans (shelf_answer around hcall w)

theorem world_answer {call : Call} (h : call.Looks) (w : World) :
    (World.answer around call w).2 = w := by
  cases call with
  | platform call => exact h.elim
  | freshChallenge => exact h.elim
  | store call =>
    cases hout : Outage.meets? around.outages call with
    | some e => rw [World.answer_of_outage hout]
    | none =>
      rw [World.answer_of_no_outage hout]
      cases call <;> first | exact h.elim | rfl

/-- A program that only looks leaves the world as it was. -/
theorem world_of_only {p : Program α} (h : p.Only Call.Looks) (w : World) :
    (p.runIn around w).2 = w := by
  induction h generalizing w with
  | done x => rfl
  | ask hcall _ ih => exact (ih _ _).trans (world_answer around hcall w)

/-- The store neither asks the platform nor draws challenges. -/
theorem answer_store (around : Surroundings) (call : StoreCall) (w : World) :
    (World.answer around (.store call) w).2.asked = w.asked ∧
      (World.answer around (.store call) w).2.challengesDrawn = w.challengesDrawn := by
  cases hout : Outage.meets? around.outages call with
  | some e =>
    rw [World.answer_of_outage hout]
    exact ⟨rfl, rfl⟩
  | none =>
    rw [World.answer_of_no_outage hout]
    cases call with
    | delete c id =>
      simp only [World.answerStore]
      cases w.store.delete c id <;> exact ⟨rfl, rfl⟩
    | _ => exact ⟨rfl, rfl⟩

theorem challengesDrawn_answer {call : Call} (h : call ≠ .freshChallenge) (w : World) :
    (World.answer around call w).2.challengesDrawn = w.challengesDrawn := by
  cases call with
  | platform q => rfl
  | freshChallenge => exact absurd rfl h
  | store call => exact (answer_store around call w).2

/-- A program that never asks for a challenge draws none. -/
theorem challengesDrawn_of_only {p : Program α} (h : p.Only fun call => call ≠ .freshChallenge)
    (w : World) : (p.runIn around w).2.challengesDrawn = w.challengesDrawn := by
  induction h generalizing w with
  | done x => rfl
  | ask hcall _ ih => exact (ih _ _).trans (challengesDrawn_answer around hcall w)

/-- A run adds to the log of questions to the platform nothing but what satisfies a predicate. -/
def Logs (w : World) (K : PlatformCall → Prop) (p : Program α) : Prop :=
  ∃ new, (p.runIn around w).2.asked = new ++ w.asked ∧ ∀ call ∈ new, K call

variable {around} {w : World} {K : PlatformCall → Prop}

theorem Logs.mono {K' : PlatformCall → Prop} {p : Program α} (h : p.Logs around w K)
    (hK : ∀ call, K call → K' call) : p.Logs around w K' := by
  obtain ⟨new, hasked, hnew⟩ := h
  exact ⟨new, hasked, fun call hcall => hK call (hnew call hcall)⟩

theorem runIn_bind (p : Program α) (f : α → Program β) (w : World) :
    (p >>= f).runIn around w = (f (p.runIn around w).1).runIn around (p.runIn around w).2 :=
  run_bind _ p f w

theorem Logs.bind {p : Program α} {f : α → Program β} (hp : p.Logs around w K)
    (hf : (f (p.runIn around w).1).Logs around (p.runIn around w).2 K) :
    (p >>= f).Logs around w K := by
  obtain ⟨first, hfirst, hfirstK⟩ := hp
  obtain ⟨second, hsecond, hsecondK⟩ := hf
  refine ⟨second ++ first, ?_, fun call hcall => ?_⟩
  · rw [runIn_bind, hsecond, hfirst, List.append_assoc]
  · exact (List.mem_append.mp hcall).elim (hsecondK call) (hfirstK call)

theorem asked_answer (around : Surroundings) (w : World) (call : Call) :
    (∃ q, call = .platform q ∧ (World.answer around call w).2.asked = q :: w.asked) ∨
      (World.answer around call w).2.asked = w.asked := by
  cases call with
  | platform q => exact .inl ⟨q, rfl, rfl⟩
  | freshChallenge => exact .inr rfl
  | store call => exact .inr (answer_store around call w).1

/-- What a program adds to the log is among what it may ask. -/
theorem logs_of_only {p : Program α} (h : p.Only P) :
    p.Logs around w fun call => P (.platform call) := by
  induction h generalizing w with
  | done x => exact ⟨[], rfl, by simp⟩
  | @ask call next hcall _ ih =>
    obtain ⟨new, hasked, hnew⟩ :=
      ih (World.answer around call w).1 (w := (World.answer around call w).2)
    rcases asked_answer around w call with ⟨q, rfl, hq⟩ | hq
    · refine ⟨new ++ [q], ?_, fun call hmem => ?_⟩
      · rw [List.append_assoc, List.singleton_append, ← hq]
        exact hasked
      · rcases List.mem_append.mp hmem with hmem | hmem
        · exact hnew call hmem
        · exact List.mem_singleton.mp hmem ▸ hcall
    · exact ⟨new, hq ▸ hasked, hnew⟩

end Run

end Program

/-- A question to the store about a collection. -/
def Call.About (c : Collection) : Call → Prop
  | .store call => call.collection = c
  | _ => False

/-- A question about one collection does not change another. -/
theorem Call.About.written_ne {c d : Collection} {call : Call} (h : call.About c) (hne : c ≠ d) :
    call.written? ≠ some d := by
  intro hw
  cases call with
  | platform call => exact h
  | freshChallenge => exact h
  | store call => cases call <;> simp_all [Call.written?, Call.About, StoreCall.collection]

/-- A look at documents of a collection. -/
def Call.Views (c : Collection) (call : Call) : Prop :=
  call.About c ∧ call.Looks

namespace Attempt

variable {ε δ α β : Type} {P : Call → Prop}

/-- Every question that a program may ask satisfies a predicate. -/
def Only (P : Call → Prop) (p : Attempt ε α) : Prop :=
  Program.Only P p.run

theorem Only.mono {Q : Call → Prop} {p : Attempt ε α} (h : p.Only P)
    (hPQ : ∀ call, P call → Q call) : p.Only Q :=
  Program.Only.mono h hPQ

theorem Only.about {p : Attempt ε α} {c : Collection} (h : p.Only (Call.Views c)) :
    p.Only (Call.About c) :=
  h.mono fun _ => And.left

theorem Only.looks {p : Attempt ε α} {c : Collection} (h : p.Only (Call.Views c)) :
    p.Only Call.Looks :=
  h.mono fun _ => And.right

theorem only_pure (x : α) : (pure x : Attempt ε α).Only P :=
  .done _

theorem only_throw (e : ε) : (throw e : Attempt ε α).Only P :=
  .done _

/-- What comes after a program asks its own questions, or none at all. -/
theorem Only.bind {p : Attempt ε α} {f : α → Attempt ε β} (hp : p.Only P)
    (hf : ∀ x, (f x).Only P) : (p >>= f).Only P := by
  refine Program.Only.bind hp fun r => ?_
  cases r with
  | error e => exact .done _
  | ok x => exact hf x

theorem Only.orFail {p : Attempt ε α} (hp : p.Only P) (tell : ε → δ) : (p.orFail tell).Only P :=
  Program.Only.bind hp fun _ => .done _

theorem Only.outcome {p : Attempt ε α} (hp : p.Only P) :
    (p.outcome : Attempt δ (Except ε α)).Only P :=
  Program.Only.bind hp fun _ => .done _

/-- What comes after a program logs its own questions, if the program has a result. -/
theorem logs_bind {around : Surroundings} {w : World} {K : PlatformCall → Prop}
    {p : Attempt ε α} {f : α → Attempt ε β} (hp : p.run.Logs around w K)
    (hf : ∀ x, (p.runIn around w).1 = .ok x → (f x).run.Logs around (p.runIn around w).2 K) :
    (p >>= f).run.Logs around w K := by
  have hcont : ∀ r, (p.runIn around w).1 = r →
      Program.Logs around (p.runIn around w).2 K (ExceptT.bindCont f r) := by
    rintro (e | x) hr
    · exact ⟨[], rfl, by simp⟩
    · exact hf x hr
  exact Program.Logs.bind hp (hcont _ rfl)

/-- A single question to the store. -/
theorem only_one {call : StoreCall} {next : call.Answer → Except ε α} (h : P (.store call)) :
    (ExceptT.mk (.ask (.store call) fun a => .done (next a)) : Attempt ε α).Only P :=
  .ask h fun _ => .done _

end Attempt

end Rulebook
