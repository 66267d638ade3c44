import Mathlib.Data.Set.Basic
import Rulebook.Proofs.Program.Crowd
import Rulebook.Proofs.Ruleset.Calls

/-!
# Calls on one document

Any number of calls change or delete one document side by side. A change is an update: it fetches
the document and then sets it, whatever has happened in the meantime. As long as no deletion
succeeds while an update stands between its two questions (`Crowd.Undisturbed`), the calls come out
in the order in which they are done, and a deletion is final (`Editing.final_of_undisturbed`). What
carries the proof is that the changes leave nothing of one another (`Editing.absorbs`): what an
update is about to write is what it would write if it had been told the document as it is now.
-/

namespace Rulebook

/-! ## Changing and deleting a document -/

/-- A way to change documents of a collection, none of whose changes leaves anything of another. -/
structure Editing (α : Type) where
  kind : DocumentKind α
  collection : Collection
  malformed : String → StoreError
  write : α → Json
  idOf : α → String
  changes : Set (α → α)
  writes : kind.Writes write idOf
  idOf_change : ∀ f ∈ changes, ∀ v, idOf (f v) = idOf v
  absorbs : ∀ f ∈ changes, ∀ g ∈ changes, ∀ v, f (g v) = f v

namespace Editing

variable {α : Type} (e : Editing α) (id : String)

/-- A document is fetched and its changed value is set. -/
def update (change : α → α) : Program Reply :=
  .ask (.store (.get e.collection id)) (e.kind.goOn e.collection e.malformed e.write change id)

/-- An update that has been told a value sets what has become of it. -/
def setting (change : α → α) (old : α) : Program Reply :=
  .ask (.store (.set e.collection id (e.write (change old)))) fun a => .done (a.map fun _ => id)

/-- A document is deleted. -/
def deletion : Program Reply :=
  .ask (.store (.delete e.collection id)) fun a => .done (a.map fun _ => id)

/-- A call that changes or deletes one document. -/
inductive Edits : Program Reply → Prop
  | update {change : α → α} (h : change ∈ e.changes) : Edits (e.update id change)
  | deletion : Edits (e.deletion id)

/-- The document is missing. -/
def Absent (s : Store) : Prop :=
  (s.shelf e.collection).get? id = none

/-- Where a call stands: it has not begun, it is an update that has been told a value which any
change makes into what it makes of the value that is there, or it is done. -/
inductive Stands (s : Store) (p : Program Reply) : Program Reply → Prop
  | waiting : Stands s p p
  | pending {change : α → α} {old v : α} {fields : Json} (hp : p = e.update id change)
      (hchange : change ∈ e.changes) (hget : (s.shelf e.collection).get? id = some fields)
      (hread : e.kind.ofDocument? ⟨id, fields⟩ = some v)
      (hsame : ∀ f ∈ e.changes, f old = f v) : Stands s p (e.setting id change old)
  | done (r : Reply) : Stands s p (.done r)

end Editing

namespace Crowd

variable {ι : Type}

/-- A program is about to set a document. -/
def pending (st : Crowd ι Reply) (i : ι) : Bool :=
  match st.program i with
  | .ask (.store (.set _ _ _)) _ => true
  | _ => false

/-- A program is about to delete a document that is there. -/
def deletes (st : Crowd ι Reply) (i : ι) : Bool :=
  match st.program i with
  | .ask (.store (.delete c id)) _ => ((st.world.store.shelf c).get? id).isSome
  | _ => false

variable [DecidableEq ι]

/-- No deletion succeeds while a program is about to set a document. -/
def Undisturbed (around : Surroundings) (st : Crowd ι Reply) : List ι → Prop
  | [] => True
  | i :: schedule =>
    (st.deletes i = true → ∀ j, st.pending j = false) ∧
      (st.step around i).Undisturbed around schedule

end Crowd

namespace Editing

variable {ι α : Type} {e : Editing α} {id : String} {s : Store} {p q : Program Reply}

section Standing

variable {change : α → α} {old : α}

/-- A call that is not about to set anything stands as it does whatever happens to the store. -/
theorem Stands.of_not_setting (h : e.Stands id s p q)
    (hq : ∀ change old, q ≠ e.setting id change old) (s' : Store) : e.Stands id s' p q := by
  cases h with
  | waiting => exact .waiting
  | pending => exact absurd rfl (hq _ _)
  | done r => exact .done r

/-- An update that sets the document does not disturb others: what they are about to write is what
they would make of its value, too. -/
theorem Stands.set (h : e.Stands id s p q) {fields : Json} {v : α}
    (hget : (s.shelf e.collection).get? id = some fields)
    (hread : e.kind.ofDocument? ⟨id, fields⟩ = some v) (hchange : change ∈ e.changes)
    (hsame : ∀ f ∈ e.changes, f old = f v) :
    e.Stands id (s.set e.collection id (e.write (change old))) p q := by
  cases h with
  | waiting => exact .waiting
  | done r => exact .done r
  | @pending change' old' v' fields' hp hchange' hget' hread' hsame' =>
    obtain rfl : fields' = fields := Option.some.inj (hget'.symm.trans hget)
    obtain rfl : v' = v := Option.some.inj (hread'.symm.trans hread)
    have hid : e.idOf (change old) = id := by
      rw [hsame change hchange, e.idOf_change change hchange]
      exact e.writes.idOf_of_ofDocument? hread
    have hnew : ((s.set e.collection id (e.write (change old))).shelf e.collection).get? id =
        some (e.write (change old)) := by
      rw [Store.shelf_set_self, Shelf.get?_insert, if_pos rfl]
    have hreadNew : e.kind.ofDocument? ⟨id, e.write (change old)⟩ = some (change old) :=
      e.writes.ofDocument?_self hid
    refine .pending hp hchange' hnew hreadNew fun f hf => ?_
    rw [hsame' f hf, e.absorbs f hf change hchange, hsame f hf]

end Standing

/-! ## Calls carried out at once -/

section Run

variable (around : Surroundings) (w : World) {change : α → α} {fields : Json} {v : α}

theorem runIn_deletion_of_absent (h : e.Absent id w.store) :
    (e.deletion id).runIn around.calm w = (.error (.missing e.collection id), w) := by
  have hdelete := Attempt.runIn_calm_delete_of_none around w h
  change World.answer around.calm (.store (.delete e.collection id)) w = _ at hdelete
  change (((World.answer around.calm (.store (.delete e.collection id)) w).1.map fun _ => id),
    (World.answer around.calm (.store (.delete e.collection id)) w).2) = _
  rw [hdelete]
  rfl

theorem runIn_deletion_of_get? (h : (w.store.shelf e.collection).get? id = some fields) :
    (e.deletion id).runIn around.calm w = (.ok id, { w with
      store := w.store.put e.collection ((w.store.shelf e.collection).erase id) }) := by
  have hdelete := Attempt.runIn_calm_delete_of_some around w h
  change World.answer around.calm (.store (.delete e.collection id)) w = _ at hdelete
  change (((World.answer around.calm (.store (.delete e.collection id)) w).1.map fun _ => id),
    (World.answer around.calm (.store (.delete e.collection id)) w).2) = _
  rw [hdelete]
  rfl

/-- The program of an update after its first question. -/
def told (e : Editing α) (id : String) (w : World) (change : α → α) : Program Reply :=
  e.kind.goOn e.collection e.malformed e.write change id (w.store.get e.collection id)

theorem runIn_update : (e.update id change).runIn around.calm w =
    (e.told id w change).runIn around.calm w :=
  rfl

theorem told_of_absent (h : e.Absent id w.store) :
    e.told id w change = .done (.error (.missing e.collection id)) := by
  have hget : (w.store.shelf e.collection).get? id = none := h
  rw [told, Store.get, hget]
  rfl

theorem told_of_unreadable (hget : (w.store.shelf e.collection).get? id = some fields)
    (hread : e.kind.ofDocument? ⟨id, fields⟩ = none) :
    e.told id w change = .done (.error (e.malformed id)) := by
  rw [told, Store.get, hget]
  simp only [DocumentKind.goOn, hread]

theorem told_of_value (hget : (w.store.shelf e.collection).get? id = some fields)
    (hread : e.kind.ofDocument? ⟨id, fields⟩ = some v) :
    e.told id w change = e.setting id change v := by
  rw [told, Store.get, hget]
  simp only [DocumentKind.goOn, hread]
  rfl

theorem runIn_setting : (e.setting id change v).runIn around.calm w =
    (.ok id, { w with store := w.store.set e.collection id (e.write (change v)) }) :=
  rfl

end Run

/-! ## Steps -/

section Steps

variable [DecidableEq ι] {around : Surroundings} {w : World} {st : Crowd ι Reply} {i : ι}
  {change : α → α} {v : α} {p : ι → Program Reply}

theorem step_update (h : st.program i = e.update id change) : st.step around.calm i =
    ⟨st.world, Function.update st.program i (e.told id st.world change)⟩ :=
  Crowd.step_of_ask h

theorem step_deletion (h : st.program i = e.deletion id) : st.step around.calm i =
    ⟨((e.deletion id).runIn around.calm st.world).2,
      Function.update st.program i (.done ((e.deletion id).runIn around.calm st.world).1)⟩ := by
  have hlast : st.step around.calm i = _ := Crowd.step_of_last h rfl
  rwa [h] at hlast

theorem step_setting (h : st.program i = e.setting id change v) : st.step around.calm i =
    ⟨{ st.world with store := st.world.store.set e.collection id (e.write (change v)) },
      Function.update st.program i (.done (.ok id))⟩ :=
  Crowd.step_of_ask h

/-- What holds of calls on one document at every moment, as long as no deletion disturbs an update:
each stands where a call can stand, those that are done could have been carried out one after the
other, and the document is missing once it has been deleted. -/
structure Sound (e : Editing α) (id : String) (around : Surroundings) (w : World)
    (p : ι → Program Reply) (st : Crowd ι Reply) : Prop where
  stands : ∀ i, e.Stands id st.world.store (p i) (st.program i)
  inOrder : ∃ order, st.InOrder around.calm w p order
  final : ∀ j, p j = e.deletion id → st.program j = .done (.ok id) → e.Absent id st.world.store

namespace Sound

omit [DecidableEq ι] in
theorem init (hp : ∀ i, e.Edits id (p i)) : Sound e id around w p ⟨w, p⟩ where
  stands _ := .waiting
  inOrder := by
    refine ⟨[], .start fun i x hdone => ?_⟩
    cases hdone ▸ hp i
  final j _ hdone := by
    change p j = _ at hdone
    cases hdone ▸ hp j

/-- A call is done, with the result and the world it would have now if carried out at once. -/
theorem finish (h : Sound e id around w p st) (hrunning : ∀ r, st.program i ≠ .done r) {r : Reply}
    {w' : World} (hrun : (p i).runIn around.calm st.world = (r, w'))
    (hothers : ∀ j, e.Stands id w'.store (p j) (st.program j))
    (hfinal : ∀ j, p j = e.deletion id →
      Function.update st.program i (.done r) j = .done (.ok id) → e.Absent id w'.store) :
    Sound e id around w p ⟨w', Function.update st.program i (.done r)⟩ where
  stands := (Function.forall_update_iff st.program fun j q => e.Stands id w'.store (p j) q).mpr
    ⟨.done r, fun j _ => hothers j⟩
  inOrder := by
    obtain ⟨order, horder⟩ := h.inOrder
    have hfinish := horder.finish hrunning
    rw [hrun] at hfinish
    exact ⟨order ++ [i], hfinish⟩
  final := hfinal

/-- A call fails. -/
theorem fail (h : Sound e id around w p st) (hrunning : ∀ r, st.program i ≠ .done r)
    {err : StoreError} (hrun : (p i).runIn around.calm st.world = (.error err, st.world)) :
    Sound e id around w p ⟨st.world, Function.update st.program i (.done (.error err))⟩ := by
  refine h.finish hrunning hrun h.stands ((Function.forall_update_iff st.program fun j q =>
    p j = e.deletion id → q = .done (.ok id) → e.Absent id st.world.store).mpr
    ⟨fun _ hdone => ?_, fun j _ => h.final j⟩)
  cases hdone

/-- A call goes on and is not done yet. -/
theorem wait (h : Sound e id around w p st) (hrunning : ∀ r, st.program i ≠ .done r)
    (hstands : e.Stands id st.world.store (p i) q) (hq : ∀ r, q ≠ .done r) :
    Sound e id around w p ⟨st.world, Function.update st.program i q⟩ where
  stands := (Function.forall_update_iff st.program fun j q =>
    e.Stands id st.world.store (p j) q).mpr ⟨hstands, fun j _ => h.stands j⟩
  inOrder := h.inOrder.imp fun _ horder => horder.goOn hrunning hq
  final := (Function.forall_update_iff st.program fun j q =>
    p j = e.deletion id → q = .done (.ok id) → e.Absent id st.world.store).mpr
    ⟨fun _ hdone => absurd hdone (hq _), fun j _ => h.final j⟩

/-- One step of a deletion that has not begun. -/
theorem step_deletion (h : Sound e id around w p st) (hp : p i = e.deletion id)
    (hi : st.program i = e.deletion id)
    (hquiet : st.deletes i = true → ∀ j, st.pending j = false) :
    Sound e id around w p (st.step around.calm i) := by
  have hrunning : ∀ r, st.program i ≠ .done r := Crowd.not_done_of_ask hi
  rw [Editing.step_deletion hi]
  cases hget : (st.world.store.shelf e.collection).get? id with
  | none =>
    have hrun := e.runIn_deletion_of_absent around st.world hget
    rw [hrun]
    exact h.fail hrunning (hp ▸ hrun)
  | some fields =>
    have hrun := e.runIn_deletion_of_get? around st.world hget
    have hdeletes : st.deletes i = true := by
      rw [Crowd.deletes, hi]
      exact Option.isSome_iff_exists.mpr ⟨fields, hget⟩
    rw [hrun]
    refine h.finish hrunning (hp ▸ hrun) (fun j => ?_) fun _ _ _ => ?_
    · refine (h.stands j).of_not_setting (fun change old hj => ?_) _
      have hpending := hquiet hdeletes j
      rw [Crowd.pending, hj] at hpending
      cases hpending
    · refine Shelf.get?_eq_none_iff.mpr fun d hd => ?_
      rw [Store.shelf_put_self, Shelf.mem_erase] at hd
      exact hd.2

/-- One step of an update that has not begun. -/
theorem step_update (h : Sound e id around w p st) (hp : p i = e.update id change)
    (hchange : change ∈ e.changes) (hi : st.program i = e.update id change) :
    Sound e id around w p (st.step around.calm i) := by
  have hrunning : ∀ r, st.program i ≠ .done r := Crowd.not_done_of_ask hi
  have hfails : ∀ {err}, e.told id st.world change = .done (.error err) →
      Sound e id around w p (st.step around.calm i) := by
    intro err htold
    rw [Editing.step_update hi, htold]
    refine h.fail hrunning ?_
    rw [hp, runIn_update, htold]
    rfl
  cases hget : (st.world.store.shelf e.collection).get? id with
  | none => exact hfails (told_of_absent st.world hget)
  | some fields =>
    cases hread : e.kind.ofDocument? ⟨id, fields⟩ with
    | none => exact hfails (told_of_unreadable st.world hget hread)
    | some v =>
      rw [Editing.step_update hi, told_of_value st.world hget hread]
      exact h.wait hrunning (.pending hp hchange hget hread fun _ _ => rfl) fun r hr => by cases hr

/-- The step in which an update sets the document. -/
theorem step_setting (h : Sound e id around w p st) {old : α} {fields : Json}
    (hi : st.program i = e.setting id change old) (hp : p i = e.update id change)
    (hchange : change ∈ e.changes)
    (hget : (st.world.store.shelf e.collection).get? id = some fields)
    (hread : e.kind.ofDocument? ⟨id, fields⟩ = some v) (hsame : ∀ f ∈ e.changes, f old = f v) :
    Sound e id around w p (st.step around.calm i) := by
  have hrunning : ∀ r, st.program i ≠ .done r := Crowd.not_done_of_ask hi
  have hrun : (p i).runIn around.calm st.world = (.ok id, { st.world with
      store := st.world.store.set e.collection id (e.write (change old)) }) := by
    rw [hp, runIn_update, told_of_value st.world hget hread, runIn_setting, hsame change hchange]
  rw [Editing.step_setting hi]
  refine h.finish hrunning hrun (fun j => (h.stands j).set hget hread hchange hsame)
    ((Function.forall_update_iff st.program fun j q => p j = e.deletion id → q = .done (.ok id) →
      e.Absent id _).mpr ⟨fun hdeletion _ => ?_, fun j _ hj hdone => ?_⟩)
  · cases hp.symm.trans hdeletion
  · cases (h.final j hj hdone).symm.trans hget

/-- One step, as long as it is no deletion that disturbs an update. -/
theorem step (h : Sound e id around w p st) (hp : ∀ i, e.Edits id (p i))
    (hquiet : st.deletes i = true → ∀ j, st.pending j = false) :
    Sound e id around w p (st.step around.calm i) := by
  have hstands := h.stands i
  generalize hi : st.program i = q at hstands
  cases hstands with
  | waiting =>
    have hedits := hp i
    generalize hpi : p i = q at hedits hi
    cases hedits with
    | update hchange => exact h.step_update hpi hchange hi
    | deletion => exact h.step_deletion hpi hi hquiet
  | pending hpi hchange hget hread hsame => exact h.step_setting hi hpi hchange hget hread hsame
  | done r =>
    rw [Crowd.step_of_done hi]
    exact h

/-- Every schedule in which no deletion disturbs an update. -/
theorem run (h : Sound e id around w p st) (hp : ∀ i, e.Edits id (p i)) {schedule : List ι}
    (hundisturbed : st.Undisturbed around.calm schedule) :
    Sound e id around w p (st.run around.calm schedule) := by
  induction schedule generalizing st with
  | nil => exact h
  | cons i schedule ih => exact ih (h.step hp hundisturbed.1) hundisturbed.2

omit [DecidableEq ι] in
/-- Where the document is missing no update is about to set it. -/
theorem waiting_or_done (h : Sound e id around w p st) (habsent : e.Absent id st.world.store)
    (i : ι) : st.program i = p i ∨ ∃ r, st.program i = .done r := by
  have hstands := h.stands i
  generalize st.program i = q at hstands
  cases hstands with
  | waiting => exact .inl rfl
  | pending _ _ hget _ _ => cases habsent.symm.trans hget
  | done r => exact .inr ⟨r, rfl⟩

end Sound

/-! ## After a deletion -/

/-- A call that begins where the document is missing fails in its first step. -/
theorem step_of_absent (habsent : e.Absent id st.world.store) (hedits : e.Edits id (st.program i)) :
    st.step around.calm i = ⟨st.world,
      Function.update st.program i (.done (.error (.missing e.collection id)))⟩ := by
  generalize hi : st.program i = q at hedits
  cases hedits with
  | update hchange => rw [step_update hi, told_of_absent st.world habsent]
  | deletion => rw [step_deletion hi, runIn_deletion_of_absent around st.world habsent]

/-- Where the document is missing and no update has begun, nothing changes any more, and every call
fails. -/
theorem run_of_absent (hp : ∀ i, e.Edits id (p i)) (habsent : e.Absent id st.world.store)
    (hall : ∀ i, st.program i = p i ∨ ∃ r, st.program i = .done r) (later : List ι) :
    (st.run around.calm later).world = st.world ∧
      ∀ i, (st.run around.calm later).program i = st.program i ∨
        (st.run around.calm later).program i = .done (.error (.missing e.collection id)) := by
  refine Crowd.run_invariant (P := fun st' => st'.world = st.world ∧
    ∀ i, st'.program i = st.program i ∨
      st'.program i = .done (.error (.missing e.collection id))) ?_ ⟨rfl, fun _ => .inl rfl⟩ later
  rintro st' i ⟨hworld, hprograms⟩
  by_cases hdone : ∃ r, st'.program i = .done r
  · obtain ⟨r, hr⟩ := hdone
    rw [Crowd.step_of_done hr]
    exact ⟨hworld, hprograms⟩
  · have hi : st'.program i = p i := by
      rcases hprograms i with hkept | hmissing
      · rcases hall i with hwaiting | ⟨r, hr⟩
        · exact hkept.trans hwaiting
        · exact absurd ⟨r, hkept.trans hr⟩ hdone
      · exact absurd ⟨_, hmissing⟩ hdone
    rw [step_of_absent (hworld ▸ habsent) (hi ▸ hp i)]
    exact ⟨hworld, (Function.forall_update_iff st'.program fun j q =>
      q = st.program j ∨ q = .done (.error (.missing e.collection id))).mpr
      ⟨.inr rfl, fun j _ => hprograms j⟩⟩

/-- Calls on one document, as long as no deletion disturbs an update: once the document has been
deleted it stays missing and all calls that are not done fail, and the calls come out in some
order. -/
theorem final_of_undisturbed (hp : ∀ i, e.Edits id (p i)) {schedule : List ι}
    (hundisturbed : (Crowd.mk w p).Undisturbed around.calm schedule) (later : List ι) :
    let st := (Crowd.mk w p).run around.calm schedule
    let st' := st.run around.calm later
    (∀ j, p j = e.deletion id → st.result? j = some (.ok id) →
      e.Absent id st'.world.store ∧ ∀ i, st.result? i = none →
        (st'.step around.calm i).result? i = some (.error (.missing e.collection id))) ∧
    ∃ order, st.InOrder around.calm w p order := by
  intro st st'
  have hsound : Sound e id around w p st := (Sound.init hp).run hp hundisturbed
  refine ⟨fun j hj hdone => ?_, hsound.inOrder⟩
  have habsent : e.Absent id st.world.store :=
    hsound.final j hj (Crowd.result?_eq_some_iff.mp hdone)
  have hall := hsound.waiting_or_done habsent
  obtain ⟨hworld, hprograms⟩ : st'.world = st.world ∧ ∀ i, st'.program i = st.program i ∨
      st'.program i = .done (.error (.missing e.collection id)) :=
    run_of_absent hp habsent hall later
  have habsent' : e.Absent id st'.world.store := hworld ▸ habsent
  refine ⟨habsent', fun i hi => Crowd.result?_eq_some_iff.mpr ?_⟩
  rcases hprograms i with hkept | hmissing
  · rcases hall i with hwaiting | ⟨r, hr⟩
    · have hedits : e.Edits id (st'.program i) := (hkept.trans hwaiting) ▸ hp i
      rw [step_of_absent habsent' hedits]
      exact Function.update_self ..
    · exact absurd hr (Crowd.result?_eq_none_iff.mp hi r)
  · exact Crowd.done_step hmissing i

end Steps

end Editing

end Rulebook
