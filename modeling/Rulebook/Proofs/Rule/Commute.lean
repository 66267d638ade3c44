import Rulebook.Proofs.Rule.Move
import Rulebook.Proofs.Ruleset.Update

/-!
# Edits and moves commute

An update writes one rule with all its fields and a move writes all rules with all their fields,
each as it has read them. Still the order of the two does not matter (`edits_and_moves_commute`). An
update keeps ids and ranks, so the move finds the same list with one rule edited and does to it what
it would do to the list before (`Rules.reorder_runIn_edited`). A move keeps all that an update
replaces, except for the time of the last change, which is the same for both. So the documents that
are written last are the same ones, and what is left is a fact about the store: one document among
several may be set before them or after them (`Store.setAll_set`). Where the update or the move does
nothing it does nothing in either order, since neither adds, removes or repairs a document.
-/

namespace Rulebook

/-- Two programs may be carried out in either order: the world is the same afterwards, and whether
and how each of them fails does not depend on the order. -/
structure Attempt.Commute {ε α β : Type} (around : Surroundings) (w : World) (p : Attempt ε α)
    (q : Attempt ε β) : Prop where
  world : (q.runIn around (p.runIn around w).2).2 = (p.runIn around (q.runIn around w).2).2
  first : (p.runIn around (q.runIn around w).2).1.map (fun _ => ()) =
    (p.runIn around w).1.map fun _ => ()
  second : (q.runIn around (p.runIn around w).2).1.map (fun _ => ()) =
    (q.runIn around w).1.map fun _ => ()

namespace Attempt.Commute

variable {ε α β : Type} {around : Surroundings} {w : World} {p : Attempt ε α} {q : Attempt ε β}

theorem symm (h : Commute around w p q) : Commute around w q p :=
  ⟨h.world.symm, h.second, h.first⟩

/-- A program that changes nothing, neither before the other one nor after it. -/
theorem of_idle {x y : Except ε α} {z : Except ε β} {w' : World}
    (hq : q.runIn around w = (z, w')) (hbefore : p.runIn around w = (x, w))
    (hafter : p.runIn around w' = (y, w')) (hsame : y.map (fun _ => ()) = x.map fun _ => ()) :
    Commute around w p q where
  world := by rw [hq, hbefore, hafter, hq]
  first := by rw [hq, hbefore, hafter, hsame]
  second := by rw [hbefore]

end Attempt.Commute

namespace Rules

variable {rulesetId ruleId movedId : String} {now : Time.Timestamp} {draft : RuleDraft}
  {direction : Direction} {around : Surroundings} {w w' : World} {rules : List Rule} {r : Rule}

/-! ## One rule of a list edited -/

/-- The edit of the rule of an id, as a function on all rules. -/
def edit (now : Time.Timestamp) (draft : RuleDraft) (ruleId : String) (r : Rule) : Rule :=
  if r.id = ruleId then draft.applyTo now r else r

@[simp] theorem id_edit (now : Time.Timestamp) (draft : RuleDraft) (ruleId : String) (r : Rule) :
    (edit now draft ruleId r).id = r.id := by
  unfold edit
  split <;> rfl

theorem edit_self (now : Time.Timestamp) (draft : RuleDraft) (r : Rule) :
    edit now draft r.id r = draft.applyTo now r :=
  if_pos rfl

theorem edit_of_ne (now : Time.Timestamp) (draft : RuleDraft) (h : r.id ≠ ruleId) :
    edit now draft ruleId r = r :=
  if_neg h

theorem ids_map_edit (rules : List Rule) :
    (rules.map (edit now draft ruleId)).map (·.id) = rules.map (·.id) := by
  simp [Function.comp_def]

theorem map_edit_of_not_mem (h : ruleId ∉ rules.map (·.id)) :
    rules.map (edit now draft ruleId) = rules := by
  refine (List.map_congr_left fun r hr => ?_).trans (List.map_id' rules)
  exact edit_of_ne now draft fun heq => h (heq ▸ List.mem_map_of_mem hr)

theorem map_edit_split {before after : List Rule}
    (hids : ((before ++ r :: after).map (·.id)).Nodup) :
    (before ++ r :: after).map (edit now draft r.id) =
      before ++ draft.applyTo now r :: after := by
  rw [List.map_append, List.map_cons, List.nodup_append, List.nodup_cons] at hids
  obtain ⟨-, ⟨hafter, -⟩, hbefore⟩ := hids
  have hbefore : r.id ∉ before.map (·.id) := fun h => hbefore _ h _ List.mem_cons_self rfl
  rw [List.map_append, List.map_cons, edit_self, map_edit_of_not_mem hafter,
    map_edit_of_not_mem hbefore]

/-- An edit and a numbering at one time leave nothing of each other's time of change. -/
theorem renumber_map_edit (rules : List Rule) :
    renumber now (rules.map (edit now draft ruleId)) =
      (renumber now rules).map (edit now draft ruleId) := by
  refine List.ext_getElem (by simp [renumber]) fun i _ _ => ?_
  simp only [edit, renumber, List.getElem_map, List.getElem_mapIdx]
  split <;> rfl

/-- The documents after one rule is edited are that of this rule and those of the others. -/
theorem mem_documents_map_edit {d : Document} (hids : (rules.map (·.id)).Nodup) (hr : r ∈ rules) :
    d ∈ (rules.map (edit now draft r.id)).map document ↔
      d = document (draft.applyTo now r) ∨ d ∈ rules.map document ∧ d.id ≠ r.id := by
  rw [List.map_map]
  simp only [List.mem_map, Function.comp_apply]
  constructor
  · rintro ⟨q, hq, rfl⟩
    by_cases hid : q.id = r.id
    · obtain rfl : q = r := List.inj_on_of_nodup_map hids hq hr hid
      rw [edit_self]
      exact .inl rfl
    · rw [edit_of_ne now draft hid]
      exact .inr ⟨⟨q, hq, rfl⟩, hid⟩
  · rintro (rfl | ⟨⟨q, hq, rfl⟩, hid⟩)
    · exact ⟨r, hr, by rw [edit_self]⟩
    · exact ⟨q, hq, by rw [edit_of_ne now draft hid]⟩

/-- A rule that is written with all the others may be edited before that or after it. -/
theorem setAll_edited (hids : (rules.map (·.id)).Nodup) (hr : r ∈ rules) (hid : r.id = ruleId)
    (s : Store) (fields : Json) :
    (s.set (.rules rulesetId) ruleId fields).setAll (.rules rulesetId)
        ((rules.map (edit now draft ruleId)).map document) =
      (s.setAll (.rules rulesetId) (rules.map document)).set (.rules rulesetId) ruleId
        (draft.applyTo now r).toJson := by
  subst hid
  refine Store.setAll_set ?_ ?_ fun d => mem_documents_map_edit hids hr
  · rwa [map_id_document]
  · rw [map_id_document, map_id_document, ids_map_edit]

/-! ## The update and the move on their own -/

/-- A rule that is not listed cannot be updated, and how this fails depends on its document only. -/
theorem exists_refusal (around : Surroundings) (now : Time.Timestamp) (draft : RuleDraft)
    (h : ruleId ∉ (ordered w.store rulesetId).map (·.id)) :
    ∃ e, ∀ w', (w'.store.shelf (.rules rulesetId)).get? ruleId =
        (w.store.shelf (.rules rulesetId)).get? ruleId →
      (update now rulesetId ruleId draft).runIn around.calm w' = (.error e, w') := by
  rw [update_eq]
  cases hget : (w.store.shelf (.rules rulesetId)).get? ruleId with
  | none => exact ⟨_, fun w' hsame => DocumentKind.rewrite_runIn_missing hsame⟩
  | some fields =>
    have hread : kind.ofDocument? ⟨ruleId, fields⟩ = none := by
      refine Option.eq_none_iff_forall_ne_some.mpr fun r hr => h ?_
      have hlisted : r ∈ listed w.store rulesetId :=
        mem_listed.mpr ⟨_, Shelf.get?_eq_some_iff.mp hget, hr⟩
      exact List.mem_map.mpr ⟨r, (ordered_perm _ _).mem_iff.mpr hlisted,
        writes.idOf_of_ofDocument? hr⟩
    exact ⟨_, fun w' hsame => DocumentKind.rewrite_runIn_malformed hsame hread⟩

/-- A listed rule is written with its new content and listed where it was. -/
theorem update_runIn_listed (around : Surroundings) (now : Time.Timestamp) (draft : RuleDraft)
    (hr : r ∈ ordered w.store rulesetId) :
    (update now rulesetId r.id draft).runIn around.calm w = (.ok (draft.applyTo now r), { w with
        store := w.store.set (.rules rulesetId) r.id (draft.applyTo now r).toJson }) ∧
      ordered (w.store.set (.rules rulesetId) r.id (draft.applyTo now r).toJson) rulesetId =
        (ordered w.store rulesetId).map (edit now draft r.id) := by
  obtain ⟨⟨id, fields⟩, hd, hread⟩ := mem_listed.mp ((ordered_perm _ _).mem_iff.mp hr)
  obtain rfl : r.id = id := writes.idOf_of_ofDocument? hread
  have hget := Shelf.get?_eq_some_iff.mpr hd
  constructor
  · rw [update_eq]
    exact (DocumentKind.rewrite_runIn_eq_ok_iff _).mpr
      ⟨r, DocumentKind.fetch_runIn_eq_ok_iff.mpr ⟨rfl, fields, hget, hread⟩, rfl, rfl⟩
  · have hnew : kind.ofDocument? ⟨r.id, (draft.applyTo now r).toJson⟩ =
        some (draft.applyTo now r) := writes.ofDocument?_self rfl
    obtain ⟨xs, ys, skipped, hbefore, hafter⟩ := DocumentKind.listing_insert hget hread hnew
    rw [← Store.shelf_set_self] at hafter
    obtain ⟨before, after, hordered, hordered'⟩ := ordered_replace
      (congrArg Listing.items hbefore) (congrArg Listing.items hafter) rfl rfl
    have hids := ids_ordered_nodup w.store rulesetId
    rw [hordered] at hids
    rw [hordered', hordered, map_edit_split hids]

/-- A move leaves documents of ids that are not listed as they are. -/
theorem get?_reorder (h : ruleId ∉ (ordered w.store rulesetId).map (·.id)) :
    (((reorder now rulesetId movedId direction).runIn around.calm w).2.store.shelf
      (.rules rulesetId)).get? ruleId = (w.store.shelf (.rules rulesetId)).get? ruleId := by
  rcases reorder_runIn_cases around w now rulesetId movedId direction with
    ⟨out, hrun, -⟩ | ⟨moved, hperm, hrun⟩
  · rw [hrun]
  · have hids : (((renumber now moved).map document).map (·.id)).Perm
        ((ordered w.store rulesetId).map (·.id)) := by
      rw [map_id_document, ids_renumber]
      exact (hperm.trans (ordered_perm _ _).symm).map _
    rw [hrun]
    exact Store.get?_setAll_of_not_mem (hids.symm.nodup (ids_ordered_nodup _ _))
      fun hmem => h (hids.mem_iff.mp hmem)

theorem atEnd_map_edit :
    AtEnd (rules.map (edit now draft ruleId)) movedId direction ↔
      AtEnd rules movedId direction := by
  cases direction <;> simp [AtEnd, Function.comp_def]

/-! ## One after the other -/

/-- A move makes of an edited list what it makes of the list before, edited. -/
theorem reorder_runIn_edited (around : Surroundings) (direction : Direction)
    {before after : List Rule} {a b : Rule}
    (hedited : ordered w'.store rulesetId =
      (before ++ a :: b :: after).map (edit now draft ruleId)) :
    let moved := (renumber now (before ++ b :: a :: after)).map (edit now draft ruleId)
    (reorder now rulesetId (direction.mover a b).id direction).runIn around.calm w' =
      (.ok moved,
        { w' with store := w'.store.setAll (.rules rulesetId) (moved.map document) }) := by
  intro moved
  rw [List.map_append, List.map_cons, List.map_cons] at hedited
  have hmover : (direction.mover a b).id =
      (direction.mover (edit now draft ruleId a) (edit now draft ruleId b)).id := by
    rw [Direction.mover_map, id_edit]
  have hmoved : renumber now (before.map (edit now draft ruleId) ++ edit now draft ruleId b ::
      edit now draft ruleId a :: after.map (edit now draft ruleId)) = moved := by
    rw [← List.map_cons, ← List.map_cons, ← List.map_append, renumber_map_edit]
  rw [hmover, reorder_runIn_split hedited, hmoved]

theorem commute_of_split {before after : List Rule} {a b : Rule}
    (h : ordered w.store rulesetId = before ++ a :: b :: after)
    (hr : r ∈ ordered w.store rulesetId) :
    (update now rulesetId r.id draft).Commute around.calm w
      (reorder now rulesetId (direction.mover a b).id direction) := by
  let moved := renumber now (before ++ b :: a :: after)
  have hids : (moved.map (·.id)).Perm ((listed w.store rulesetId).map (·.id)) := by
    rw [ids_renumber]
    exact (swapped_perm h).map _
  have hnodup : (moved.map (·.id)).Nodup := hids.symm.nodup (ids_listed_nodup _ _)
  -- the update first
  obtain ⟨hupdate, hedited⟩ := update_runIn_listed around now draft hr
  let w₁ : World := { w with
    store := w.store.set (.rules rulesetId) r.id (draft.applyTo now r).toJson }
  have hthenMove : (reorder now rulesetId (direction.mover a b).id direction).runIn around.calm w₁ =
      _ := reorder_runIn_edited around direction (h ▸ hedited)
  -- the move first: the rule is among those that are written, with another rank
  let w₂ : World := { w with store := w.store.setAll (.rules rulesetId) (moved.map document) }
  have hmove : (reorder now rulesetId (direction.mover a b).id direction).runIn around.calm w =
      (.ok moved, w₂) := reorder_runIn_split h
  obtain ⟨q, hq, hid⟩ : ∃ q ∈ moved, q.id = r.id :=
    List.mem_map.mp (hids.mem_iff.mpr (List.mem_map_of_mem ((ordered_perm _ _).mem_iff.mp hr)))
  have hq' : q ∈ ordered w₂.store rulesetId :=
    (ordered_perm _ _).mem_iff.mpr ((listed_setAll_perm hids).mem_iff.mpr hq)
  obtain ⟨hthenUpdate, -⟩ := update_runIn_listed around now draft hq'
  rw [hid] at hthenUpdate
  refine ⟨?_, ?_, ?_⟩
  · rw [hupdate, hthenMove, hmove, hthenUpdate]
    exact congrArg (fun s => { w with store := s }) (setAll_edited hnodup hq hid _ _)
  · rw [hmove, hthenUpdate, hupdate]
    rfl
  · rw [hupdate, hthenMove, hmove]
    rfl

end Rules

open Rules in
/-- **Edits and moves commute, in any store.** An update of one rule and a move of the same rule or
of another one, at one time, leave the same world whichever is made first, and each of them succeeds
in both orders or fails with the same error in both. Either rule may be missing or have a document
that is no rule, the move may be one past an end, and there may be any other documents. -/
theorem edits_and_moves_commute (around : Surroundings) (w : World) (now : Time.Timestamp)
    (rulesetId ruleId movedId : String) (draft : RuleDraft) (direction : Direction) :
    (Rules.update now rulesetId ruleId draft).Commute around.calm w
      (Rules.reorder now rulesetId movedId direction) := by
  by_cases hlisted : ruleId ∈ (ordered w.store rulesetId).map (·.id)
  · obtain ⟨r, hr, rfl⟩ := List.mem_map.mp hlisted
    obtain ⟨hupdate, hedited⟩ := update_runIn_listed around now draft hr
    by_cases hmoved : movedId ∈ (ordered w.store rulesetId).map (·.id)
    · by_cases hend : AtEnd (ordered w.store rulesetId) movedId direction
      · -- a move past an end changes nothing, and the update changes no places
        have hend' : AtEnd ((ordered w.store rulesetId).map (edit now draft r.id)) movedId
            direction := atEnd_map_edit.mpr hend
        rw [← hedited] at hend'
        exact (Attempt.Commute.of_idle hupdate (reorder_runIn_atEnd hend)
          (reorder_runIn_atEnd hend') rfl).symm
      · obtain ⟨before, a, b, after, hsplit, rfl⟩ := exists_split_of_not_atEnd hmoved hend
        exact commute_of_split hsplit hr
    · have hmoved' : movedId ∉ (ordered (w.store.set (.rules rulesetId) r.id
          (draft.applyTo now r).toJson) rulesetId).map (·.id) := by
        rwa [hedited, ids_map_edit]
      exact (Attempt.Commute.of_idle hupdate (reorder_runIn_missing hmoved)
        (reorder_runIn_missing hmoved') rfl).symm
  · -- what cannot be updated is not listed, so the move does not touch it
    obtain ⟨e, hrefused⟩ := exists_refusal around now draft hlisted
    exact .of_idle rfl (hrefused w rfl) (hrefused _ (get?_reorder hlisted)) rfl

end Rulebook
