import Rulebook.Proofs.Program.Outage
import Rulebook.Proofs.Ruleset.ReadBack
import Rulebook.Proofs.Store.Path

/-!
# What may change in the store

Three ways in which a store may differ from what it was before: at most one document is changed
(`Store.ChangesAt`), at most one is added (`Store.Adds`), or the documents of a collection get other
bodies, with none added or removed (`Store.Rewrites`). Each call of the service that writes does so
in one of these ways, with or without outages, since it looks first and writes once.
-/

namespace Rulebook

namespace Store

variable {s : Store} {c : Collection} {path id : String} {fields : Json}

/-- At most the document with a path and an id differs. -/
def ChangesAt (path id : String) (s t : Store) : Prop :=
  ∀ p i, (p, i) ≠ (path, id) → t.body? p i = s.body? p i

/-- At most one document is new under a path, with an id that was free. -/
def Adds (path : String) (s t : Store) : Prop :=
  t = s ∨ ∃ id fields, s.body? path id = none ∧ t.body? path id = some fields ∧
    ChangesAt path id s t

/-- The documents under a path are those that were there, but their bodies may differ. -/
def Rewrites (path : String) (s t : Store) : Prop :=
  (∀ p i, p ≠ path → t.body? p i = s.body? p i) ∧
    ∀ i, (t.body? path i).isSome = (s.body? path i).isSome

theorem ChangesAt.refl (path id : String) (s : Store) : ChangesAt path id s s :=
  fun _ _ _ => rfl

theorem Rewrites.refl (path : String) (s : Store) : Rewrites path s s :=
  ⟨fun _ _ _ => rfl, fun _ => rfl⟩

/-- Whatever is changed under one path, nothing is changed under another. -/
theorem ChangesAt.elsewhere {t : Store} (h : ChangesAt path id s t) {p : String} (hp : p ≠ path)
    (i : String) : t.body? p i = s.body? p i :=
  h p i fun heq => hp (Prod.mk.inj heq).1

theorem Adds.elsewhere {t : Store} (h : Adds path s t) {p : String} (hp : p ≠ path) (i : String) :
    t.body? p i = s.body? p i := by
  rcases h with rfl | ⟨id, fields, -, -, hchange⟩
  · rfl
  · exact hchange.elsewhere hp i

theorem changesAt_set (s : Store) (c : Collection) (id : String) (fields : Json) :
    ChangesAt c.path id s (s.set c id fields) := fun p i hne => by
  rw [body?_set, if_neg hne]

theorem changesAt_erase (s : Store) (c : Collection) (id : String) :
    ChangesAt c.path id s (s.put c ((s.shelf c).erase id)) := fun p i hne => by
  rw [body?_put_erase, if_neg hne]

/-- A document set under a free id is one more. -/
theorem adds_set (hfree : s.body? c.path id = none) (fields : Json) :
    Adds c.path s (s.set c id fields) :=
  .inr ⟨id, fields, hfree, by rw [body?_set, if_pos rfl], s.changesAt_set c id fields⟩

/-- Documents set under ids that are taken take the places of those that were there. -/
theorem rewrites_setAll {docs : List Document}
    (htaken : ∀ d ∈ docs, (s.body? c.path d.id).isSome) :
    Rewrites c.path s (s.setAll c docs) := by
  induction docs generalizing s with
  | nil =>
    rw [setAll_nil]
    exact .refl _ _
  | cons d docs ih =>
    have hisSome : ∀ i, ((s.set c d.id d.fields).body? c.path i).isSome =
        (s.body? c.path i).isSome := fun i => by
      rw [body?_set]
      split
      · next heq => rw [(Prod.mk.inj heq).2, htaken d List.mem_cons_self, Option.isSome_some]
      · rfl
    obtain ⟨helsewhere, hrest⟩ := ih (s := s.set c d.id d.fields) fun e he => by
      rw [hisSome]
      exact htaken e (List.mem_cons_of_mem d he)
    rw [setAll_cons]
    refine ⟨fun p i hp => ?_, fun i => (hrest i).trans (hisSome i)⟩
    rw [helsewhere p i hp, (s.changesAt_set c d.id d.fields).elsewhere hp]

end Store

/-! ## Programs -/

namespace Attempt

variable {ε α β : Type} (around : Surroundings) (w : World)

/-- What holds of a program that only looks, as for its world, holds of what comes after it. -/
theorem store_bind_of_looks {R : Store → Store → Prop} (hrefl : R w.store w.store)
    {p : Attempt ε α} {f : α → Attempt ε β} (hp : p.Only Call.Looks)
    (hf : ∀ x, R w.store ((f x).runIn around w).2.store) :
    R w.store ((p >>= f).runIn around w).2.store := by
  have hworld : (p.runIn around w).2 = w := Program.world_of_only around hp w
  rw [runIn_bind]
  rcases hrun : p.runIn around w with ⟨e | x, w'⟩ <;>
    obtain rfl : w' = w := by rw [← hworld, hrun]
  · exact hrefl
  · exact hf x

theorem changesAt_set (c : Collection) (id : String) (fields : Json) :
    Store.ChangesAt c.path id w.store ((Attempt.set c id fields).runIn around w).2.store := by
  rw [runIn_set]
  split
  · exact .refl _ _ _
  · exact w.store.changesAt_set c id fields

theorem changesAt_delete (c : Collection) (id : String) :
    Store.ChangesAt c.path id w.store ((Attempt.delete c id).runIn around w).2.store := by
  rcases (allOrNothing_delete c id).world_cases around w with hcalm | hsame
  · rw [hcalm]
    cases hget : (w.store.shelf c).get? id with
    | none =>
      rw [runIn_calm_delete_of_none around w hget]
      exact .refl _ _ _
    | some fields =>
      rw [runIn_calm_delete_of_some around w hget]
      exact w.store.changesAt_erase c id
  · rw [hsame]
    exact .refl _ _ _

theorem adds_add (c : Collection) (fields : Json) :
    Store.Adds c.path w.store ((Attempt.add c fields).runIn around w).2.store := by
  rcases (allOrNothing_add c fields).world_cases around w with hcalm | hsame
  · obtain ⟨id, next, -, hfree, hrun⟩ := runIn_calm_add around w c fields
    rw [hcalm, hrun]
    exact Store.adds_set (by rw [Store.body?_path, Shelf.get?_eq_none_iff.mpr hfree]) _
  · exact .inl (by rw [hsame])

end Attempt

/-! ## Calls of the service -/

namespace Rulesets

variable (around : Surroundings) (w : World) (now : Time.Timestamp) (id : String)
  (draft : RulesetDraft)

theorem adds_create :
    Store.Adds Collection.rulesets.path w.store ((create now draft).runIn around w).2.store := by
  rw [create, Attempt.world_bind_pure]
  exact Attempt.adds_add around w _ _

theorem changesAt_update :
    Store.ChangesAt Collection.rulesets.path id w.store
      ((update now id draft).runIn around w).2.store := by
  refine Attempt.store_bind_of_looks around w (.refl _ _ _) (views_get id).looks fun old => ?_
  rw [Attempt.world_bind_pure]
  exact Attempt.changesAt_set around w _ _ _

end Rulesets

namespace Rules

variable (around : Surroundings) (w : World) (now : Time.Timestamp) (rulesetId ruleId : String)
  (draft : RuleDraft)

theorem adds_create :
    Store.Adds (Collection.rules rulesetId).path w.store
      ((create now rulesetId draft).runIn around w).2.store := by
  refine Attempt.store_bind_of_looks around w (.inl rfl) (views_list rulesetId).looks
    fun listing => ?_
  dsimp only
  rw [Attempt.world_bind_pure]
  exact Attempt.adds_add around w _ _

theorem changesAt_update :
    Store.ChangesAt (Collection.rules rulesetId).path ruleId w.store
      ((update now rulesetId ruleId draft).runIn around w).2.store := by
  refine Attempt.store_bind_of_looks around w (.refl _ _ _) (views_get rulesetId ruleId).looks
    fun old => ?_
  rw [Attempt.world_bind_pure]
  exact Attempt.changesAt_set around w _ _ _

/-- A move writes rules that were listed, under the ids they have. -/
theorem rewrites_reorder (direction : Direction) :
    Store.Rewrites (Collection.rules rulesetId).path w.store
      ((reorder now rulesetId ruleId direction).runIn around w).2.store := by
  rcases (allOrNothing_reorder now rulesetId ruleId direction).world_cases around w with
    hcalm | hsame
  · rw [hcalm]
    rcases reorder_runIn_cases around w now rulesetId ruleId direction with
      ⟨out, hrun, -⟩ | ⟨moved, hperm, hrun⟩
    · rw [hrun]
      exact .refl _ _
    · rw [hrun]
      refine Store.rewrites_setAll fun d hd => ?_
      have hid : d.id ∈ moved.map (·.id) := by
        rw [← ids_renumber now, ← map_id_document]
        exact List.mem_map_of_mem hd
      obtain ⟨r, hr, hrid⟩ := List.mem_map.mp hid
      obtain ⟨e, he, hread⟩ := mem_listed.mp (hperm.mem_iff.mp hr)
      rw [Store.body?_path, ← hrid, writes.idOf_of_ofDocument? hread,
        Shelf.get?_eq_some_iff.mpr he, Option.isSome_some]
  · rw [hsame]
    exact .refl _ _

end Rules

end Rulebook
