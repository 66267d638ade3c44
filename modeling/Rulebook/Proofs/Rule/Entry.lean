import Mathlib.Data.List.Nodup
import Rulebook.Rule.Kept

/-!
# What users see of rules

An `Entry` is a rule without its rank and the time of its last change, so a list of entries says no
more than users of a ruleset can see. A move of an entry is defined on the list itself, along its
constructors. The service finds the place of the rule and swaps it with the neighbouring place;
`move_of_neighbour_some` and `move_of_neighbour_none` say that this is the same.
-/

namespace Rulebook.Rules

/-- What users see of a rule. -/
structure Entry where
  id : String
  name : String
  description : String
  conditions : List Condition
  message : String
  createdAt : Time.Timestamp
deriving DecidableEq

namespace Entry

/-- What users see of a rule. -/
def of (r : Rule) : Entry :=
  ⟨r.id, r.name, r.description, r.conditions, r.message, r.createdAt⟩

/-- The entry of submitted content. -/
def ofDraft (now : Time.Timestamp) (id : String) (d : RuleDraft) : Entry :=
  ⟨id, d.name, d.description, d.conditions, d.message, now⟩

/-- An entry with its content replaced. -/
def withDraft (e : Entry) (d : RuleDraft) : Entry :=
  { e with
    name := d.name, description := d.description, conditions := d.conditions,
    message := d.message }

/-- The sequence with an entry before its predecessor, if it has one. -/
def raise (id : String) : List Entry → List Entry
  | a :: b :: rest => if b.id = id then b :: a :: rest else a :: raise id (b :: rest)
  | es => es

/-- The sequence with an entry after its successor, if it has one. -/
def lower (id : String) : List Entry → List Entry
  | a :: b :: rest => if a.id = id then b :: a :: rest else a :: lower id (b :: rest)
  | es => es

/-- The sequence with an entry moved one place. -/
def move (id : String) : Direction → List Entry → List Entry
  | .up => raise id
  | .down => lower id

theorem raise_split {a b : Entry} {xs ys : List Entry}
    (h : ∀ e ∈ xs ++ [a], e.id ≠ b.id) : raise b.id (xs ++ a :: b :: ys) = xs ++ b :: a :: ys := by
  induction xs with
  | nil => simp [raise]
  | cons c xs ih =>
    have htail : ∀ e ∈ xs ++ [a], e.id ≠ b.id := fun e he => h e (List.mem_cons_of_mem _ he)
    rcases xs with _ | ⟨d, xs⟩
    · have hne : a.id ≠ b.id := htail a (by simp)
      simp [raise, hne]
    · have hne : d.id ≠ b.id := htail d (by simp)
      have := ih htail
      simp only [List.cons_append] at this ⊢
      rw [raise, if_neg hne, this]

theorem lower_split {a b : Entry} {xs ys : List Entry}
    (h : ∀ e ∈ xs, e.id ≠ a.id) : lower a.id (xs ++ a :: b :: ys) = xs ++ b :: a :: ys := by
  induction xs with
  | nil => simp [lower]
  | cons c xs ih =>
    have hne : c.id ≠ a.id := h c (by simp)
    have := ih fun e he => h e (List.mem_cons_of_mem _ he)
    rcases xs with _ | ⟨d, xs⟩
    · simp [lower, hne]
    · simp only [List.cons_append] at this ⊢
      rw [lower, if_neg hne, this]

/-- The first entry has no predecessor. -/
theorem raise_first {a : Entry} {es : List Entry} (h : ∀ e ∈ es, e.id ≠ a.id) :
    raise a.id (a :: es) = a :: es := by
  suffices hall : ∀ b xs, (∀ e ∈ xs, e.id ≠ a.id) → raise a.id (b :: xs) = b :: xs from
    hall a es h
  intro b xs hxs
  induction xs generalizing b with
  | nil => rfl
  | cons c xs ih =>
    have hne : c.id ≠ a.id := hxs c (by simp)
    rw [raise, if_neg hne, ih c fun e he => hxs e (List.mem_cons_of_mem _ he)]

/-- The last entry has no successor. -/
theorem lower_last {a : Entry} {es : List Entry} (h : ∀ e ∈ es, e.id ≠ a.id) :
    lower a.id (es ++ [a]) = es ++ [a] := by
  induction es with
  | nil => rfl
  | cons b es ih =>
    have hne : b.id ≠ a.id := h b (by simp)
    have := ih fun e he => h e (List.mem_cons_of_mem _ he)
    rcases es with _ | ⟨c, es⟩
    · simp [lower, hne]
    · simp only [List.cons_append] at this ⊢
      rw [lower, if_neg hne, this]

end Entry

/-! ## Moves by place -/

theorem exists_split {α : Type} {xs : List α} {i : Nat} (h : i + 1 < xs.length) :
    ∃ before a b after, xs = before ++ a :: b :: after ∧ before.length = i := by
  refine ⟨xs.take i, xs[i], xs[i + 1], xs.drop (i + 2), ?_, by simp; omega⟩
  rw [List.getElem_cons_drop, List.getElem_cons_drop, List.take_append_drop]

/-- A place and its neighbour split a list around them. -/
theorem split_of_neighbour {α : Type} {xs : List α} {i j : Nat} {d : Direction}
    (hi : i < xs.length) (h : neighbour i xs.length d = some j) :
    ∃ before a b after, xs = before ++ a :: b :: after ∧
      (d = .up ∧ i = before.length + 1 ∧ j = before.length ∨
        d = .down ∧ i = before.length ∧ j = before.length + 1) := by
  cases d with
  | up =>
    simp only [neighbour] at h
    split at h
    · cases h
    · cases h
      have hnext : i - 1 + 1 < xs.length := by omega
      obtain ⟨before, a, b, after, hxs, hbefore⟩ := exists_split hnext
      exact ⟨before, a, b, after, hxs, .inl ⟨rfl, by omega, by omega⟩⟩
  | down =>
    simp only [neighbour] at h
    split at h
    · next hlt =>
      cases h
      obtain ⟨before, a, b, after, hxs, hbefore⟩ := exists_split hlt
      exact ⟨before, a, b, after, hxs, .inr ⟨rfl, by omega, by omega⟩⟩
    · cases h

theorem swap_next {α : Type} (xs ys : List α) (a b : α) :
    swap (xs ++ a :: b :: ys) xs.length (xs.length + 1) = xs ++ b :: a :: ys := by
  simp [swap]

theorem swap_previous {α : Type} (xs ys : List α) (a b : α) :
    swap (xs ++ a :: b :: ys) (xs.length + 1) xs.length = xs ++ b :: a :: ys := by
  simp [swap]

section Neighbour

variable {es : List Entry} {i j : Nat} {d : Direction}

/-- Where there is no neighbour in a direction, there is no move. -/
theorem move_of_neighbour_none (hi : i < es.length) (hids : (es.map (·.id)).Nodup)
    (h : neighbour i es.length d = none) : Entry.move es[i].id d es = es := by
  cases d with
  | up =>
    have hfirst : i = 0 := by simpa [neighbour] using h
    subst hfirst
    rcases es with _ | ⟨a, es⟩
    · rfl
    · rw [List.map_cons, List.nodup_cons] at hids
      refine Entry.raise_first fun e he heq => hids.1 ?_
      exact List.mem_map.mpr ⟨e, he, heq⟩
  | down =>
    have hlast : es.length = i + 1 := by
      simp only [neighbour] at h
      split at h <;> simp at h
      omega
    obtain ⟨init, a, rfl⟩ : ∃ init a, es = init ++ [a] := by
      refine ⟨es.dropLast, es.getLast ?_, (List.dropLast_append_getLast _).symm⟩
      rintro rfl
      simp at hi
    have hinit : init.length = i := by simpa using hlast
    subst hinit
    rw [List.map_append, List.map_singleton, List.nodup_append] at hids
    have ha : (init ++ [a])[init.length] = a := by simp
    rw [ha]
    refine Entry.lower_last fun e he => ?_
    exact hids.2.2 _ (List.mem_map_of_mem he) _ (List.mem_singleton_self _)

/-- Swapping the places of an entry and its neighbour is the move. -/
theorem move_of_neighbour_some (hi : i < es.length) (hids : (es.map (·.id)).Nodup)
    (h : neighbour i es.length d = some j) : Entry.move es[i].id d es = swap es i j := by
  obtain ⟨xs, a, b, ys, rfl, ⟨rfl, rfl, rfl⟩ | ⟨rfl, rfl, rfl⟩⟩ := split_of_neighbour hi h
  · have hb : (xs ++ a :: b :: ys)[xs.length + 1] = b := by simp
    rw [hb, swap_previous]
    refine Entry.raise_split fun e he heq => ?_
    rw [List.append_cons, List.map_append, List.nodup_append] at hids
    exact hids.2.2 _ (List.mem_map_of_mem he) _ (by simp) heq
  · have ha : (xs ++ a :: b :: ys)[xs.length] = a := by simp
    rw [ha, swap_next]
    refine Entry.lower_split fun e he heq => ?_
    rw [List.map_append, List.nodup_append] at hids
    exact hids.2.2 _ (List.mem_map_of_mem he) _ (by simp) heq

end Neighbour

/-- A swap with a neighbour keeps all items. -/
theorem swap_perm {α : Type} {xs : List α} {i j : Nat} {d : Direction} (hi : i < xs.length)
    (h : neighbour i xs.length d = some j) : (swap xs i j).Perm xs := by
  obtain ⟨before, a, b, after, rfl, ⟨rfl, rfl, rfl⟩ | ⟨rfl, rfl, rfl⟩⟩ := split_of_neighbour hi h
  · rw [swap_previous]
    exact (List.Perm.swap a b after).append_left before
  · rw [swap_next]
    exact (List.Perm.swap a b after).append_left before

theorem map_swap {α β : Type} (f : α → β) (xs : List α) (i j : Nat) :
    (swap xs i j).map f = swap (xs.map f) i j := by
  unfold swap
  rw [List.getElem?_map, List.getElem?_map]
  rcases xs[i]? with _ | a <;> rcases xs[j]? with _ | b <;> simp

end Rulebook.Rules
