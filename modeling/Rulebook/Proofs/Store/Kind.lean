import Rulebook.Listing
import Rulebook.Proofs.Program.Run
import Rulebook.Proofs.Store.Shelf

/-!
# Kinds of documents

A listing shows the value of every document that reads as one, under the id the document has
(`DocumentKind.mem_items`), and its count of left-out documents is zero exactly when all of them
read (`DocumentKind.skipped_eq_zero_iff`). On a shelf no id stands twice, so a shown value is known
by the id it has (`DocumentKind.eq_of_ofDocument?`).

Rulesets and rules are kept in one way: a value is made from its body and put under a fresh id, it is
fetched by its id, and it is fetched, changed and written under the same id. These three programs
are stated here for any kind of documents that writes what it reads (`DocumentKind.Writes`). What
such a program returns is what a fetch returns right afterwards (`DocumentKind.readBack_make`,
`DocumentKind.readBack_rewrite`).
-/

namespace Rulebook.DocumentKind

variable {α : Type} {kind : DocumentKind α} {d e : Document} {docs : List Document} {x y : α}

/-- A document has a value exactly when its body reads as one, and then it has its key as id. -/
theorem ofDocument?_eq_some_iff :
    kind.ofDocument? d = some x ↔
      ∃ y, Json.decodeWith kind.read d.fields = .ok y ∧ kind.withId d.id y = x := by
  unfold ofDocument?
  cases Json.decodeWith kind.read d.fields <;> simp

/-- A document has no value exactly when its body does not read. -/
theorem ofDocument?_eq_none_iff :
    kind.ofDocument? d = none ↔ ∃ e, Json.decodeWith kind.read d.fields = .error e := by
  unfold ofDocument?
  cases Json.decodeWith kind.read d.fields <;> simp

/-- The values shown are those of the documents. -/
theorem mem_items : x ∈ (kind.listing docs).items ↔ ∃ d ∈ docs, kind.ofDocument? d = some x :=
  List.mem_filterMap

/-- Nothing is left out exactly when every document has a value. -/
theorem skipped_eq_zero_iff :
    (kind.listing docs).skipped = 0 ↔ ∀ d ∈ docs, ∃ x, kind.ofDocument? d = some x := by
  change docs.countP (fun d => (kind.ofDocument? d).isNone) = 0 ↔ _
  rw [List.countP_eq_zero]
  refine forall₂_congr fun d _ => ?_
  rw [Bool.not_eq_true, Option.isNone_eq_false_iff, Option.isSome_iff_exists]

/-- The values of two documents on a shelf are one if they have one id. -/
theorem eq_of_ofDocument? {s : Shelf} {id : α → String}
    (hid : ∀ {d x}, kind.ofDocument? d = some x → id x = d.id) (hd : d ∈ s.documents)
    (he : e ∈ s.documents) (hx : kind.ofDocument? d = some x) (hy : kind.ofDocument? e = some y)
    (heq : id x = id y) : x = y := by
  have hkeys : d.id = e.id := by rw [← hid hx, heq, hid hy]
  have hsame : d = e := List.inj_on_of_nodup_map s.ids_nodup hd he hkeys
  subst hsame
  rw [hx] at hy
  exact Option.some.inj hy

/-- The first shown value that passes a test is the value of a document that passes it. -/
theorem find?_items (kind : DocumentKind α) (docs : List Document)
    (test : α → Bool) :
    (kind.listing docs).items.find? test =
      (kind.listing (docs.filter fun d => (kind.ofDocument? d).any test)).items.head? := by
  induction docs with
  | nil => rfl
  | cons d docs ih =>
    change (List.filterMap _ docs).find? _ = _ at ih
    change (List.filterMap _ (d :: docs)).find? _ = (List.filterMap _ _).head?
    cases hd : kind.ofDocument? d with
    | none =>
      rw [List.filterMap_cons_none hd, List.filter_cons_of_neg (by simp [hd])]
      exact ih
    | some x =>
      rw [List.filterMap_cons_some hd]
      by_cases hx : test x
      · rw [List.find?_cons_of_pos hx, List.filter_cons_of_pos (by simpa [hd] using hx),
          List.filterMap_cons_some hd, List.head?_cons]
      · rw [List.find?_cons_of_neg hx, List.filter_cons_of_neg (by simpa [hd] using hx)]
        exact ih

end Rulebook.DocumentKind

namespace Rulebook

/-- What a program returns is what `again` returns right afterwards, and asking again changes
nothing. -/
def Attempt.ReadBack {ε α : Type} (around : Surroundings) (w : World) (p : Attempt ε α)
    (again : α → Attempt ε α) : Prop :=
  ∀ x w', p.runIn around w = (.ok x, w') → (again x).runIn around w' = (.ok x, w')

namespace DocumentKind

variable {α : Type}

/-- How a kind of documents writes its values: a body reads as the value it was written for, and an
id put into the body is put into the value. -/
structure Writes (kind : DocumentKind α) (write : α → Json) (idOf : α → String) : Prop where
  read_write : ∀ x, Json.decodeWith kind.read (write x) = .ok x
  write_withId : ∀ x id, (write x).withId id = write (kind.withId id x)
  idOf_withId : ∀ x id, idOf (kind.withId id x) = id
  withId_idOf : ∀ x, kind.withId (idOf x) x = x

/-- The value under an id; a document that is no value fails. -/
def fetch (kind : DocumentKind α) (c : Collection) (malformed : String → StoreError) (id : String) :
    Attempt StoreError α := do
  let doc ← Attempt.get c id
  match kind.ofDocument? doc with
  | some x => return x
  | none => throw (malformed id)

/-- A new value; the result carries its id. -/
def make (kind : DocumentKind α) (c : Collection) (write : α → Json) (x : α) :
    Attempt StoreError α := do
  let id ← Attempt.add c (write x)
  return kind.withId id x

/-- A value changed and written under the id it has. -/
def rewrite (kind : DocumentKind α) (c : Collection) (malformed : String → StoreError)
    (write : α → Json) (change : α → α) (id : String) : Attempt StoreError α := do
  let old ← kind.fetch c malformed id
  let new := change old
  Attempt.set c id (write new)
  return new

section

variable {kind : DocumentKind α} {write : α → Json} {idOf : α → String} {c : Collection}
  {malformed : String → StoreError} {d : Document} {id : String} {x : α} {around : Surroundings}
  {w w' : World}

theorem Writes.ofDocument?_write (h : kind.Writes write idOf) (id : String) (x : α) :
    kind.ofDocument? ⟨id, write x⟩ = some (kind.withId id x) :=
  ofDocument?_eq_some_iff.mpr ⟨x, h.read_write x, rfl⟩

/-- A value written under its id is read as it was. -/
theorem Writes.ofDocument?_self (h : kind.Writes write idOf) (hid : idOf x = id) :
    kind.ofDocument? ⟨id, write x⟩ = some x := by
  rw [h.ofDocument?_write, ← hid, h.withId_idOf]

/-- A value has the key of its document as its id. -/
theorem Writes.idOf_of_ofDocument? (h : kind.Writes write idOf) (hx : kind.ofDocument? d = some x) :
    idOf x = d.id := by
  obtain ⟨y, -, rfl⟩ := ofDocument?_eq_some_iff.mp hx
  exact h.idOf_withId y d.id

/-- A fetch changes nothing; it fails where there is no document or one that is no value. -/
theorem fetch_runIn (kind : DocumentKind α) (c : Collection) (malformed : String → StoreError)
    (id : String) (around : Surroundings) (w : World) :
    (kind.fetch c malformed id).runIn around.calm w =
      (match (w.store.shelf c).get? id with
        | none => .error (.missing c id)
        | some fields =>
          match kind.ofDocument? ⟨id, fields⟩ with
          | none => .error (malformed id)
          | some x => .ok x, w) := by
  rw [fetch, Attempt.runIn_bind, Attempt.runIn_calm_get, Store.get]
  cases (w.store.shelf c).get? id with
  | none => rfl
  | some fields => cases hread : kind.ofDocument? ⟨id, fields⟩ <;> simp [hread]

/-- A fetch succeeds exactly with the value of the document under the id. -/
theorem fetch_runIn_eq_ok_iff :
    (kind.fetch c malformed id).runIn around.calm w = (.ok x, w') ↔
      w' = w ∧ ∃ fields, (w.store.shelf c).get? id = some fields ∧
        kind.ofDocument? ⟨id, fields⟩ = some x := by
  rw [fetch_runIn]
  cases (w.store.shelf c).get? id with
  | none => simp
  | some fields => cases hread : kind.ofDocument? ⟨id, fields⟩ <;> simp [hread, and_comm, eq_comm]

/-- A value written under its id is fetched. -/
theorem Writes.fetch_of_insert (h : kind.Writes write idOf) {shelf : Shelf} (hid : idOf x = id)
    (hshelf : w.store.shelf c = shelf.insert id (write x)) :
    (kind.fetch c malformed id).runIn around.calm w = (.ok x, w) := by
  refine fetch_runIn_eq_ok_iff.mpr ⟨rfl, write x, ?_, h.ofDocument?_self hid⟩
  rw [hshelf, Shelf.get?_insert, if_pos rfl]

/-- A new value is put under a fresh id. -/
theorem Writes.make_runIn (h : kind.Writes write idOf) (c : Collection) (around : Surroundings)
    (w : World) (x : α) :
    ∃ id next, (∃ n, id = around.supply.candidate n) ∧
      (∀ d ∈ (w.store.shelf c).documents, d.id ≠ id) ∧
      (kind.make c write x).runIn around.calm w = (.ok (kind.withId id x),
        { w with store := w.store.set c id (write (kind.withId id x)), idsTried := next }) := by
  obtain ⟨id, next, hid, hfree, hadd⟩ := Attempt.runIn_calm_add around w c (write x)
  refine ⟨id, next, hid, hfree, ?_⟩
  rw [make, Attempt.runIn_bind, hadd, h.write_withId]
  rfl

/-- A change succeeds exactly where a fetch does, and writes the changed value under the id. -/
theorem rewrite_runIn_eq_ok_iff (change : α → α) :
    (kind.rewrite c malformed write change id).runIn around.calm w = (.ok x, w') ↔
      ∃ old, (kind.fetch c malformed id).runIn around.calm w = (.ok old, w) ∧ change old = x ∧
        w' = { w with store := w.store.set c id (write x) } := by
  rw [rewrite, Attempt.runIn_bind]
  rcases hfetch : (kind.fetch c malformed id).runIn around.calm w with ⟨e | old, w₁⟩
  · simp
  · obtain ⟨rfl, -⟩ := fetch_runIn_eq_ok_iff.mp hfetch
    simp only [Attempt.runIn_bind, Attempt.runIn_calm_set, Attempt.runIn_pure, Prod.mk.injEq,
      Except.ok.injEq, and_true, exists_eq_left']
    constructor
    · rintro ⟨rfl, rfl⟩
      exact ⟨rfl, rfl⟩
    · rintro ⟨rfl, rfl⟩
      exact ⟨rfl, rfl⟩

/-- A change that fails leaves everything as it was. -/
theorem world_of_rewrite_error {change : α → α} {e : StoreError}
    (h : (kind.rewrite c malformed write change id).runIn around.calm w = (.error e, w')) :
    w' = w := by
  rw [rewrite, fetch, Attempt.runIn_bind, Attempt.runIn_bind, Attempt.runIn_calm_get] at h
  cases hget : w.store.get c id with
  | error e' =>
    rw [hget] at h
    exact (congrArg Prod.snd h).symm
  | ok doc =>
    rw [hget] at h
    cases hread : kind.ofDocument? doc with
    | none =>
      simp only [hread, Attempt.runIn_throw] at h
      exact (congrArg Prod.snd h).symm
    | some old =>
      simp only [hread, Attempt.runIn_pure, Attempt.runIn_bind, Attempt.runIn_calm_set] at h
      cases congrArg Prod.fst h

/-- What is made is read back. -/
theorem Writes.readBack_make (h : kind.Writes write idOf) (x : α) :
    (kind.make c write x).ReadBack around.calm w fun y => kind.fetch c malformed (idOf y) := by
  intro y w' hrun
  obtain ⟨id, next, -, -, hmake⟩ := h.make_runIn c around w x
  rw [hmake, Prod.mk.injEq, Except.ok.injEq] at hrun
  obtain ⟨rfl, rfl⟩ := hrun
  dsimp only
  rw [h.idOf_withId]
  exact h.fetch_of_insert (h.idOf_withId x id) (Store.shelf_set_self _ _ _ _)

/-- What is changed is read back, if the change keeps the id. -/
theorem Writes.readBack_rewrite (h : kind.Writes write idOf) {change : α → α}
    (hchange : ∀ x, idOf (change x) = idOf x) :
    (kind.rewrite c malformed write change id).ReadBack around.calm w
      fun _ => kind.fetch c malformed id := by
  intro x w' hrun
  obtain ⟨old, hfetch, rfl, rfl⟩ := (rewrite_runIn_eq_ok_iff change).mp hrun
  obtain ⟨-, fields, -, hread⟩ := fetch_runIn_eq_ok_iff.mp hfetch
  have hid : idOf (change old) = id := (hchange old).trans (h.idOf_of_ofDocument? hread)
  exact h.fetch_of_insert hid (Store.shelf_set_self _ _ _ _)

/-- A change succeeds exactly where a fetch does. -/
theorem isOk_rewrite (change : α → α) :
    ((kind.rewrite c malformed write change id).runIn around.calm w).1.isOk =
      ((kind.fetch c malformed id).runIn around.calm w).1.isOk := by
  rw [rewrite, Attempt.runIn_bind]
  rcases (kind.fetch c malformed id).runIn around.calm w with ⟨e | old, w₁⟩ <;> rfl

end

end DocumentKind

end Rulebook
