import Rulebook.Proofs.Rule.Move

/-!
# Every order can be reached by moves

A move is undone by the opposite move (`move_back`), and moves reach every order of the listed
rules, whatever ranks these had to begin with (`exists_moves_of_perm`). Both are told by the ids as
they are listed (`Lists`): the first move that changes anything replaces all ranks, so a later move
only has to know in which order the ids stand.
-/

namespace Rulebook.Rules

/-- A rule to be moved, and where it goes. -/
structure Move where
  ruleId : String
  direction : Direction

/-- Moves one after the other, each at its own time of the clock; a failure ends them. -/
def moveAll (rulesetId : String) (clock : Nat → Time.Timestamp) :
    List Move → Attempt StoreError Unit
  | [] => return ()
  | m :: moves => do
    let _ ← reorder (clock 0) rulesetId m.ruleId m.direction
    moveAll rulesetId (fun n => clock (n + 1)) moves

/-- A listing shows rules with these ids in this order, and leaves out a number of documents. -/
def Lists (rulesetId : String) (w : World) (ids : List String) (skipped : Nat) : Prop :=
  (ordered w.store rulesetId).map (·.id) = ids ∧ leftOut w.store rulesetId = skipped

section

variable {rulesetId : String} {around : Surroundings} {w : World} {now : Time.Timestamp}
  {direction : Direction} {before after ids ids' : List String} {first second : String}
  {skipped : Nat}

theorem Lists.length_listed (h : Lists rulesetId w ids skipped) :
    (listed w.store rulesetId).length = ids.length := by
  rw [← h.1, List.length_map, (ordered_perm _ _).length_eq]

theorem Lists.list_runIn (h : Lists rulesetId w ids skipped) (around : Surroundings) :
    ∃ rules, (list rulesetId).runIn around.calm w = (.ok ⟨rules, skipped⟩, w) ∧
      rules.map (·.id) = ids :=
  ⟨_, by rw [list_runIn_ordered, h.2], h.1⟩

/-- Of two ids in a row, the one that is moved passes the other. -/
theorem Lists.move (h : Lists rulesetId w (before ++ first :: second :: after) skipped)
    (hroom : (before ++ first :: second :: after).length ≤ 0x7fffffffffffffff)
    (around : Surroundings) (now : Time.Timestamp) (direction : Direction) :
    ∃ rules w', (reorder now rulesetId (direction.mover first second) direction).runIn
        around.calm w = (.ok rules, w') ∧
      Lists rulesetId w' (before ++ second :: first :: after) skipped := by
  obtain ⟨xs, rest, hsplit, rfl, hrest⟩ := List.map_eq_append_iff.mp h.1
  obtain ⟨a, rest', rfl, rfl, hrest'⟩ := List.map_eq_cons_iff.mp hrest
  obtain ⟨b, ys, rfl, rfl, rfl⟩ := List.map_eq_cons_iff.mp hrest'
  rw [← h.length_listed] at hroom
  obtain ⟨w', hmove, hordered, hleftOut, -⟩ :=
    exists_reorder_split hsplit hroom around now direction
  rw [Direction.mover_map RuleOf.id]
  refine ⟨_, w', hmove, ?_, hleftOut.trans h.2⟩
  rw [hordered, ids_renumber]
  simp

/-- A move is undone by the opposite one. -/
theorem Lists.move_back (h : Lists rulesetId w (before ++ first :: second :: after) skipped)
    (hroom : (before ++ first :: second :: after).length ≤ 0x7fffffffffffffff)
    (around : Surroundings) (now now' : Time.Timestamp) (direction : Direction) :
    ∃ rules w₁ rules' w₂,
      (reorder now rulesetId (direction.mover first second) direction).runIn around.calm w =
        (.ok rules, w₁) ∧
      (reorder now' rulesetId (direction.mover first second) direction.opposite).runIn
        around.calm w₁ = (.ok rules', w₂) ∧
      Lists rulesetId w₁ (before ++ second :: first :: after) skipped ∧
      Lists rulesetId w₂ (before ++ first :: second :: after) skipped := by
  obtain ⟨rules, w₁, hmove, h₁⟩ := h.move hroom around now direction
  have hroom₁ : (before ++ second :: first :: after).length ≤ 0x7fffffffffffffff := by
    simpa using hroom
  obtain ⟨rules', w₂, hback, h₂⟩ := h₁.move hroom₁ around now' direction.opposite
  rw [direction.mover_opposite] at hback
  exact ⟨rules, w₁, rules', w₂, hmove, hback, h₁, h₂⟩

/-- Moves after others that succeed. -/
theorem moveAll_append {clock : Nat → Time.Timestamp} {moves : List Move} {w' : World}
    (h : (moveAll rulesetId clock moves).runIn around w = (.ok (), w')) (moves' : List Move) :
    (moveAll rulesetId clock (moves ++ moves')).runIn around w =
      (moveAll rulesetId (fun n => clock (moves.length + n)) moves').runIn around w' := by
  induction moves generalizing clock w with
  | nil =>
    obtain rfl : w = w' := (Prod.mk.inj h).2
    simp
  | cons m moves ih =>
    rw [moveAll, Attempt.runIn_bind] at h
    rw [List.cons_append, moveAll, Attempt.runIn_bind]
    rcases hmove : (reorder (clock 0) rulesetId m.ruleId m.direction).runIn around w with
      ⟨e | rules, w₁⟩
    · rw [hmove] at h
      cases h
    · rw [hmove] at h
      dsimp only at h ⊢
      rw [ih h, List.length_cons]
      simp only [Nat.add_right_comm]

/-- Wherever a listing shows rules with these ids, the moves succeed and it shows rules with those
ids, whatever the clock says. -/
def Arranges (rulesetId : String) (moves : List Move) (ids ids' : List String) : Prop :=
  ∀ (around : Surroundings) (clock : Nat → Time.Timestamp) (w : World) (skipped : Nat),
    Lists rulesetId w ids skipped → ∃ w',
      (moveAll rulesetId clock moves).runIn around.calm w = (.ok (), w') ∧
      Lists rulesetId w' ids' skipped

theorem Arranges.nil (rulesetId : String) (ids : List String) : Arranges rulesetId [] ids ids :=
  fun _ _ w _ h => ⟨w, rfl, h⟩

/-- One move swaps two neighbours. -/
theorem Arranges.swap (rulesetId : String)
    (hroom : (before ++ first :: second :: after).length ≤ 0x7fffffffffffffff) :
    Arranges rulesetId [⟨first, .down⟩] (before ++ first :: second :: after)
      (before ++ second :: first :: after) := by
  intro around clock w skipped h
  obtain ⟨rules, w', hmove, h'⟩ := h.move hroom around (clock 0) .down
  refine ⟨w', ?_, h'⟩
  rw [Direction.mover] at hmove
  rw [moveAll, Attempt.runIn_bind, hmove]
  rfl

theorem Arranges.append {moves moves' : List Move} {middle : List String}
    (h : Arranges rulesetId moves ids middle) (h' : Arranges rulesetId moves' middle ids') :
    Arranges rulesetId (moves ++ moves') ids ids' := by
  intro around clock w skipped hlists
  obtain ⟨w₁, hrun, hlists₁⟩ := h around clock w skipped hlists
  rw [moveAll_append hrun]
  exact h' around _ w₁ skipped hlists₁

/-- Moves put the ids behind any others into any order. -/
theorem exists_moves_of_perm (rulesetId : String) (h : ids.Perm ids') (before : List String)
    (hroom : (before ++ ids).length ≤ 0x7fffffffffffffff) :
    ∃ moves, Arranges rulesetId moves (before ++ ids) (before ++ ids') := by
  -- along the permutation: what stands first stays, two neighbours change places, or one
  -- permutation follows another
  induction h generalizing before with
  | nil => exact ⟨[], .nil _ _⟩
  | cons id h ih =>
    rw [List.append_cons] at hroom
    obtain ⟨moves, hmoves⟩ := ih (before ++ [id]) hroom
    rw [← List.append_cons, ← List.append_cons] at hmoves
    exact ⟨moves, hmoves⟩
  | swap first second after => exact ⟨[⟨second, .down⟩], .swap rulesetId hroom⟩
  | trans h h' ih ih' =>
    obtain ⟨moves, hmoves⟩ := ih before hroom
    obtain ⟨moves', hmoves'⟩ := ih' before ((h.append_left before).length_eq ▸ hroom)
    exact ⟨moves ++ moves', hmoves.append hmoves'⟩

end

/-- **Moves are undone by their opposites and reach every order, in any store**, as long as there
are not more rules than positive ranks, which no memory holds. A rule that is listed and not at an
end in some direction can be moved in it, and the opposite move then brings the ids back into the
order they had; a rule that is not listed is not moved at all. For every permutation of the listed
ids there are moves that succeed one after the other, at whatever times, and leave a listing with
the ids in that order. Equally many documents are left out all along. -/
theorem moves_reach_every_order (around : Surroundings) (w : World) (rulesetId : String)
    (hroom : (listed w.store rulesetId).length ≤ 0x7fffffffffffffff) :
    ∃ rules skipped, (list rulesetId).runIn around.calm w = (.ok ⟨rules, skipped⟩, w) ∧
      (∀ ruleId ∉ rules.map (·.id), ∀ now direction,
        (reorder now rulesetId ruleId direction).runIn around.calm w =
          (.error (.missing (.rules rulesetId) ruleId), w)) ∧
      (∀ ruleId ∈ rules.map (·.id), ∀ direction, ¬ AtEnd rules ruleId direction →
        ∀ now now', ∃ moved w₁ moved' w₂ rules',
          (reorder now rulesetId ruleId direction).runIn around.calm w = (.ok moved, w₁) ∧
          (reorder now' rulesetId ruleId direction.opposite).runIn around.calm w₁ =
            (.ok moved', w₂) ∧
          (list rulesetId).runIn around.calm w₂ = (.ok ⟨rules', skipped⟩, w₂) ∧
          rules'.map (·.id) = rules.map (·.id)) ∧
      ∀ ids, ids.Perm (rules.map (·.id)) → ∃ moves, ∀ clock, ∃ w' rules',
        (moveAll rulesetId clock moves).runIn around.calm w = (.ok (), w') ∧
        (list rulesetId).runIn around.calm w' = (.ok ⟨rules', skipped⟩, w') ∧
        rules'.map (·.id) = ids := by
  have hlists : Lists rulesetId w ((ordered w.store rulesetId).map (·.id))
      (leftOut w.store rulesetId) := ⟨rfl, rfl⟩
  rw [hlists.length_listed] at hroom
  refine ⟨_, _, list_runIn_ordered around w rulesetId,
    fun ruleId hmem now direction => reorder_runIn_missing hmem, ?_, fun ids hids => ?_⟩
  · intro ruleId hmem direction hend now now'
    obtain ⟨before, a, b, after, hsplit, rfl⟩ := exists_split_of_not_atEnd hmem hend
    rw [hsplit, List.map_append, List.map_cons, List.map_cons] at hlists hroom ⊢
    obtain ⟨moved, w₁, moved', w₂, hmove, hback, -, hlists₂⟩ :=
      hlists.move_back hroom around now now' direction
    rw [Direction.mover_map RuleOf.id] at hmove hback
    obtain ⟨rules', hlist, hids⟩ := hlists₂.list_runIn around
    exact ⟨moved, w₁, moved', w₂, rules', hmove, hback, hlist, hids⟩
  · obtain ⟨moves, hmoves⟩ := exists_moves_of_perm rulesetId hids.symm [] hroom
    refine ⟨moves, fun clock => ?_⟩
    obtain ⟨w', hrun, hlists'⟩ := hmoves around clock w _ hlists
    obtain ⟨rules', hlist, hids'⟩ := hlists'.list_runIn around
    exact ⟨w', rules', hrun, hlist, hids'⟩

/-- Three rules without ranks, which are listed by their ids, are put into another order. -/
theorem moves_reach_order_of_unranked :
    let w : World := { World.start with store := unrankedStore }
    let around := Surroundings.plain ⟨⟨"u-1", by decide⟩, "Ada", "ada@example.com", none⟩
    (listed w.store "a").length ≤ 0x7fffffffffffffff ∧
      ∃ moves, ∀ clock, ∃ w' rules, (moveAll "a" clock moves).runIn around.calm w = (.ok (), w') ∧
        (list "a").runIn around.calm w' = (.ok ⟨rules, 1⟩, w') ∧
        rules.map (·.id) = ["m", "b", "d"] := by
  intro w around
  obtain ⟨rules, skipped, hlist, -, -, hreach⟩ :=
    moves_reach_every_order around w "a" length_listed_unrankedStore
  obtain ⟨rfl, rfl⟩ := list_unrankedStore hlist
  exact ⟨length_listed_unrankedStore, hreach ["m", "b", "d"] (by decide)⟩

end Rulebook.Rules
