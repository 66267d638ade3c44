import Rulebook.Proofs.Rule.Ordered
import Rulebook.Proofs.Store.Change

/-!
# Updates in any store

An update fetches a value, changes it and writes it under its id. What this does to the store and to
the listing is the same for rulesets and rules (`DocumentKind.ReplacesInPlace`), and follows for any
kind of documents from three facts: the change keeps the id, making it twice is making it once, and
a listing shows what is written where the old value has stood (`DocumentKind.Writes.replacesInPlace`).
Only the last one differs: rulesets are listed as they lie on the shelf, and rules by rank and id,
which an update keeps.
-/

namespace Rulebook

namespace DocumentKind

variable {α : Type}

/-- An update changes the value under an id where it stands: nothing happens if there is no document
or one that is no value; otherwise the document is written as the changed value, with its key in it,
no other document differs, a listing shows the changed value in the place of the old one and leaves
out equally many documents, and another update of the kind changes nothing more. -/
structure ReplacesInPlace (kind : DocumentKind α) (c : Collection) (id : String)
    (list : Attempt StoreError (Listing α)) (update : Attempt StoreError α) (change : α → α)
    (around : Surroundings) (w : World) : Prop where
  missing : (w.store.shelf c).get? id = none →
    update.runIn around w = (.error (.missing c id), w)
  malformed : ∀ fields, (w.store.shelf c).get? id = some fields →
    kind.ofDocument? ⟨id, fields⟩ = none →
    update.runIn around w = (.error (.malformedDocument c id), w)
  changed : ∀ fields old, (w.store.shelf c).get? id = some fields →
    kind.ofDocument? ⟨id, fields⟩ = some old →
    ∃ stored w', update.runIn around w = (.ok (change old), w') ∧
      (w'.store.shelf c).get? id = some stored ∧
      Json.decodeWith kind.read stored = .ok (change old) ∧
      stored.get? "id" = some (.string id) ∧
      Store.ChangesAt c.path id w.store w'.store ∧
      (∃ before after skipped,
        list.runIn around w = (.ok ⟨before ++ old :: after, skipped⟩, w) ∧
        list.runIn around w' = (.ok ⟨before ++ change old :: after, skipped⟩, w')) ∧
      update.runIn around w' = (.ok (change old), w')

/-- A value written under an id that is taken is listed in the place of the old one. -/
def ListsInPlace (kind : DocumentKind α) (c : Collection) (id : String)
    (list : Attempt StoreError (Listing α)) (change : α → α) (around : Surroundings) (w : World) :
    Prop :=
  ∀ fields stored old, (w.store.shelf c).get? id = some fields →
    kind.ofDocument? ⟨id, fields⟩ = some old → kind.ofDocument? ⟨id, stored⟩ = some (change old) →
    ∃ before after skipped,
      list.runIn around w = (.ok ⟨before ++ old :: after, skipped⟩, w) ∧
      list.runIn around { w with store := w.store.set c id stored } =
        (.ok ⟨before ++ change old :: after, skipped⟩, { w with store := w.store.set c id stored })

variable {kind : DocumentKind α} {write : α → Json} {idOf : α → String} {c : Collection}
  {malformed : String → StoreError} {id : String} {fields : Json} {change : α → α}
  {around : Surroundings} {w : World}

theorem rewrite_runIn_missing (h : (w.store.shelf c).get? id = none) :
    (kind.rewrite c malformed write change id).runIn around.calm w =
      (.error (.missing c id), w) := by
  rw [rewrite, Attempt.runIn_bind, fetch_runIn, h]

theorem rewrite_runIn_malformed (hget : (w.store.shelf c).get? id = some fields)
    (hread : kind.ofDocument? ⟨id, fields⟩ = none) :
    (kind.rewrite c malformed write change id).runIn around.calm w =
      (.error (malformed id), w) := by
  rw [rewrite, Attempt.runIn_bind, fetch_runIn, hget]
  simp only [hread]

/-- A change that keeps the id and is the same when it is made twice replaces in place, if the
listing does. -/
theorem Writes.replacesInPlace (h : kind.Writes write idOf) (change : α → α)
    (hkeeps : ∀ x, idOf (change x) = idOf x) (hagain : ∀ x, change (change x) = change x)
    (hkey : ∀ x, (write x).get? "id" = some (.string (idOf x)))
    {list : Attempt StoreError (Listing α)}
    (hlist : kind.ListsInPlace c id list change around.calm w) :
    kind.ReplacesInPlace c id list (kind.rewrite c (.malformedDocument c) write change id) change
      around.calm w where
  missing hget := rewrite_runIn_missing hget
  malformed fields hget hread := rewrite_runIn_malformed hget hread
  changed fields old hget hread := by
    have hid : idOf (change old) = id := (hkeeps old).trans (h.idOf_of_ofDocument? hread)
    have hread' : kind.ofDocument? ⟨id, write (change old)⟩ = some (change old) :=
      h.ofDocument?_self hid
    let w' : World := { w with store := w.store.set c id (write (change old)) }
    have hget' : (w'.store.shelf c).get? id = some (write (change old)) := by
      rw [Store.shelf_set_self, Shelf.get?_insert, if_pos rfl]
    have hupdate : (kind.rewrite c (.malformedDocument c) write change id).runIn around.calm w =
        (.ok (change old), w') :=
      (rewrite_runIn_eq_ok_iff change).mpr
        ⟨old, fetch_runIn_eq_ok_iff.mpr ⟨rfl, fields, hget, hread⟩, rfl, rfl⟩
    -- the second update writes the same body once more
    have hupdate' : (kind.rewrite c (.malformedDocument c) write change id).runIn around.calm w' =
        (.ok (change old), w') := by
      refine (rewrite_runIn_eq_ok_iff change).mpr
        ⟨change old, fetch_runIn_eq_ok_iff.mpr ⟨rfl, _, hget', hread'⟩, hagain old, ?_⟩
      rw [Store.set_set]
    exact ⟨_, w', hupdate, hget', h.read_write _, by rw [hkey, hid], w.store.changesAt_set _ _ _,
      hlist _ _ _ hget hread hread', hupdate'⟩

end DocumentKind

/-- Rulesets are listed as they lie on the shelf. -/
theorem Rulesets.listsInPlace (around : Surroundings) (w : World) (id : String)
    (change : Ruleset → Ruleset) :
    kind.ListsInPlace .rulesets id list change around.calm w := by
  intro fields stored old hget hold hnew
  obtain ⟨before, after, skipped, hbefore, hafter⟩ := DocumentKind.listing_insert hget hold hnew
  rw [← Store.shelf_set_self] at hafter
  exact ⟨before, after, skipped, hbefore ▸ rfl, hafter ▸ rfl⟩

/-- Rules are listed by rank and id, so one that keeps its rank keeps its place. -/
theorem Rules.listsInPlace (around : Surroundings) (w : World) (rulesetId ruleId : String)
    {change : Rule → Rule} (hrank : ∀ r, (change r).order = r.order) :
    kind.ListsInPlace (.rules rulesetId) ruleId (list rulesetId) change around.calm w := by
  intro fields stored old hget hold hnew
  obtain ⟨xs, ys, skipped, hbefore, hafter⟩ := DocumentKind.listing_insert hget hold hnew
  rw [← Store.shelf_set_self] at hafter
  have hid : (change old).id = old.id :=
    (writes.idOf_of_ofDocument? hnew).trans (writes.idOf_of_ofDocument? hold).symm
  obtain ⟨before, after, hordered, hordered'⟩ := ordered_replace
    (congrArg Listing.items hbefore) (congrArg Listing.items hafter) hid (hrank old)
  have hskipped : leftOut w.store rulesetId = skipped := congrArg Listing.skipped hbefore
  have hskipped' : leftOut (w.store.set (.rules rulesetId) ruleId stored) rulesetId = skipped :=
    congrArg Listing.skipped hafter
  exact ⟨before, after, skipped, by rw [list_runIn_ordered, hordered, hskipped],
    by rw [list_runIn_ordered, hordered', hskipped']⟩

/-- **Updates replace in place, in any store.** An update of a ruleset replaces name, description
and project, one of a rule name, description, message and conditions, and both the time of the last
change; everything else is kept, the time of creation, the rank and the rules inside a ruleset among
it. The value is replaced where it stands in the list and no other document differs. Where there is
nothing to update, or something that does not read as a value, the update fails and changes
nothing. -/
theorem updates_replace_in_place (around : Surroundings) (w : World) (now : Time.Timestamp) :
    (∀ id draft, Rulesets.kind.ReplacesInPlace .rulesets id Rulesets.list
      (Rulesets.update now id draft)
      (fun r => { r with
        name := draft.name, description := draft.description, projectId := draft.projectId,
        updatedAt := now })
      around.calm w) ∧
    ∀ rulesetId ruleId draft, Rules.kind.ReplacesInPlace (.rules rulesetId) ruleId
      (Rules.list rulesetId) (Rules.update now rulesetId ruleId draft)
      (fun r => { r with
        name := draft.name, description := draft.description, message := draft.message,
        conditions := draft.conditions, updatedAt := now })
      around.calm w := by
  refine ⟨fun id draft => ?_, fun rulesetId ruleId draft => ?_⟩
  · rw [Rulesets.update_eq]
    exact Rulesets.writes.replacesInPlace (draft.applyTo now) (fun _ => rfl) (fun _ => rfl)
      (fun _ => rfl) (Rulesets.listsInPlace around w id _)
  · rw [Rules.update_eq]
    exact Rules.writes.replacesInPlace (draft.applyTo now) (fun _ => rfl) (fun _ => rfl)
      (fun _ => rfl) (Rules.listsInPlace around w rulesetId ruleId fun _ => rfl)

/-- The second of three rules without ranks is updated; its document named another id before. -/
theorem update_replaces_unranked :
    let now : Time.Timestamp := ⟨⟨2024, 6, 1, by decide⟩, 12, 30, 0, 0, by decide⟩
    let around := Surroundings.plain ⟨⟨"u-1", by decide⟩, "Ada", "ada@example.com", none⟩
    let w : World := { World.start with store := Rules.unrankedStore }
    let new : Rule := { Rules.unranked "d" "renamed" with message := "m", updatedAt := now }
    ∃ w', (Rules.update now "a" "d" ⟨"renamed", "", "m", []⟩).runIn around.calm w = (.ok new, w') ∧
      (Rules.list "a").runIn around.calm w' =
        (.ok ⟨[Rules.unranked "b" "first", new, Rules.unranked "m" "third"], 1⟩, w') := by
  intro now around w new
  obtain ⟨fields, hget, hread⟩ : ∃ fields, (w.store.shelf (.rules "a")).get? "d" = some fields ∧
      Rules.kind.ofDocument? ⟨"d", fields⟩ = some (Rules.unranked "d" "second") :=
    ⟨_, rfl, by decide +kernel⟩
  obtain ⟨-, w', hupdate, -, -, -, -, ⟨before, after, skipped, hlist, hlist'⟩, -⟩ :=
    ((updates_replace_in_place around w now).2 "a" "d" ⟨"renamed", "", "m", []⟩).changed
      fields _ hget hread
  obtain ⟨hsplit, rfl⟩ := Rules.list_unrankedStore hlist
  obtain ⟨rfl, -, rfl⟩ : [Rules.unranked "b" "first"] = before ∧ _ ∧
      [Rules.unranked "m" "third"] = after :=
    (List.append_cons_inj_of_notMem (by decide) (by decide)).mp hsplit
  exact ⟨w', hupdate, hlist'⟩

end Rulebook
