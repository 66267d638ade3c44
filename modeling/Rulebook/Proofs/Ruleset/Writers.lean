import Rulebook.Proofs.Program.Crowd
import Rulebook.Proofs.Ruleset.Calls
import Rulebook.Proofs.Store.WellFormed

/-!
# Writers side by side

Any number of calls make and update rulesets and rules and move rules, all at once, one question of
one of them at a time. An update and a move write what they have read before, so their writes may be
late; but what they write has the time of creation the document still has, and content that was
submitted for this very document (`Crowd.Fit`). Everything that a call without a deletion may be
about to do is of this kind (`Crowd.Stage`), and stays so whatever the other calls do
(`Crowd.Later.stage`).
-/

namespace Rulebook

/-! ## What a document shows -/

/-- The part of a document that an update replaces as a whole. -/
inductive Content where
  | ruleset (content : RulesetDraft)
  | rule (content : RuleDraft)
deriving DecidableEq

/-- The content of a ruleset. -/
def Ruleset.content (r : Ruleset) : Content :=
  .ruleset ⟨r.name, r.description, r.projectId⟩

/-- The content of a rule. -/
def Rule.content (r : Rule) : Content :=
  .rule ⟨r.name, r.description, r.message, r.conditions⟩

/-- When a document was created and its content, if it reads as one of its collection. -/
def Collection.shows? (c : Collection) (d : Document) : Option (Time.Timestamp × Content) :=
  match c with
  | .rulesets => (Rulesets.kind.ofDocument? d).map fun r => (r.createdAt, r.content)
  | .rules _ => (Rules.kind.ofDocument? d).map fun r => (r.createdAt, r.content)
  | .userTokens => none

/-- When a document was created, if it reads as one of its collection. -/
def Collection.createdAt? (c : Collection) (d : Document) : Option Time.Timestamp :=
  (c.shows? d).map (·.1)

/-- A document is there that was created at a given time. -/
def Store.Born (s : Store) (c : Collection) (id : String) (created : Time.Timestamp) : Prop :=
  ∃ d ∈ (s.shelf c).documents, d.id = id ∧ c.createdAt? d = some created

/-- A store in which all documents of another one are still there, created when they were. -/
def Store.Grows (s s' : Store) : Prop :=
  ∀ c, ∀ d ∈ (s.shelf c).documents,
    ∃ d' ∈ (s'.shelf c).documents, d'.id = d.id ∧ c.createdAt? d' = c.createdAt? d

namespace Store.Grows

variable {s s' s'' : Store} {c : Collection}

theorem refl (s : Store) : s.Grows s :=
  fun _ d hd => ⟨d, hd, rfl, rfl⟩

theorem trans (h : s.Grows s') (h' : s'.Grows s'') : s.Grows s'' := by
  intro c d hd
  obtain ⟨d', hd', hid', hcreated'⟩ := h c d hd
  obtain ⟨d'', hd'', hid'', hcreated''⟩ := h' c d' hd'
  exact ⟨d'', hd'', hid''.trans hid', hcreated''.trans hcreated'⟩

theorem born (h : s.Grows s') {id : String} {created : Time.Timestamp}
    (hborn : s.Born c id created) : s'.Born c id created := by
  obtain ⟨d, hd, hid, hcreated⟩ := hborn
  obtain ⟨d', hd', hid', hcreated'⟩ := h c d hd
  exact ⟨d', hd', hid'.trans hid, hcreated'.trans hcreated⟩

theorem mem_ids (h : s.Grows s') {id : String} (hid : id ∈ (s.shelf c).ids) :
    id ∈ (s'.shelf c).ids := by
  obtain ⟨d, hd, rfl⟩ := List.mem_map.mp hid
  obtain ⟨d', hd', hid', -⟩ := h c d hd
  exact List.mem_map.mpr ⟨d', hd', hid'⟩

/-- A store grows by a document under a free id. -/
theorem set_free (s : Store) {id : String} (hfree : id ∉ (s.shelf c).ids) (fields : Json) :
    s.Grows (s.set c id fields) := by
  intro e d hd
  refine ⟨d, Store.mem_set.mpr (.inr ⟨hd, ?_⟩), rfl, rfl⟩
  rintro ⟨rfl, rfl⟩
  exact hfree (List.mem_map_of_mem hd)

/-- A store grows, without new ids, when documents are written that were created at the times at
which those under their ids were. -/
theorem setAll (s : Store) {docs : List Document} (hnodup : (docs.map (·.id)).Nodup)
    (hdocs : ∀ d ∈ docs, ∃ created, c.createdAt? d = some created ∧ s.Born c d.id created) :
    s.Grows (s.setAll c docs) := by
  intro e d hd
  by_cases hwritten : e = c ∧ d.id ∈ docs.map (·.id)
  · obtain ⟨rfl, hmem⟩ := hwritten
    obtain ⟨d', hd', hid⟩ := List.mem_map.mp hmem
    obtain ⟨created, hcreated, old, hold, holdId, holdCreated⟩ := hdocs d' hd'
    -- no id stands twice on a shelf
    obtain rfl : old = d := List.inj_on_of_nodup_map (s.shelf e).ids_nodup hold hd
      (holdId.trans hid)
    exact ⟨d', (Store.mem_setAll hnodup).mpr (.inl ⟨rfl, hd'⟩), hid,
      hcreated.trans holdCreated.symm⟩
  · exact ⟨d, (Store.mem_setAll hnodup).mpr (.inr ⟨hd, hwritten⟩), rfl, rfl⟩

end Store.Grows

/-! ## What a call submits -/

namespace Writer

variable (k : Writer) (c : Collection)

/-- A call makes a document with some content. -/
def Makes (x : Content) : Prop :=
  match k.writing with
  | .createRuleset draft => c = .rulesets ∧ x = .ruleset draft
  | .editRule rulesetId (.create draft) => c = .rules rulesetId ∧ x = .rule draft
  | _ => False

/-- A call updates a document to some content. -/
def Submits (id : String) (x : Content) : Prop :=
  match k.writing with
  | .updateRuleset rulesetId draft => c = .rulesets ∧ id = rulesetId ∧ x = .ruleset draft
  | .editRule rulesetId (.update ruleId draft) =>
    c = .rules rulesetId ∧ id = ruleId ∧ x = .rule draft
  | _ => False

end Writer

namespace Crowd

variable {ι : Type}

section

variable (w : World) (calls : ι → Writer) (st : Crowd ι Reply)

/-- Content that was submitted for a document: it had it at first, or it was made with it by a call
that has told its id, or a call updates it to it. -/
def Submitted (c : Collection) (id : String) (x : Content) : Prop :=
  (∃ d ∈ (w.store.shelf c).documents, d.id = id ∧ ∃ created, c.shows? d = some (created, x)) ∨
  (∃ i, (calls i).Makes c x ∧ st.program i = .done (.ok id)) ∨
  ∃ i, (calls i).Submits c id x

/-- A document shows content that was submitted for it. -/
def Shows (c : Collection) (d : Document) : Prop :=
  ∃ created x, c.shows? d = some (created, x) ∧ st.Submitted w calls c d.id x

/-- A document that may be written in place of the one under its id. -/
def Fit (c : Collection) (d : Document) : Prop :=
  st.Shows w calls c d ∧ ∃ created, c.createdAt? d = some created ∧
    st.world.store.Born c d.id created

/-- Where a call that does not delete stands: it has not begun, it is about to write documents in
place of others or to make one, or it is done. -/
inductive Stage (k : Writer) : Program Reply → Prop
  | waiting : Stage k k.program
  | setting {c : Collection} {d : Document} (hmakes : ∀ c x, ¬ k.Makes c x)
      (hfit : st.Fit w calls c d) (tell : Except StoreError Unit → Reply) :
      Stage k (.ask (.store (.set c d.id d.fields)) fun a => .done (tell a))
  | settingAll {c : Collection} {docs : List Document} (hmakes : ∀ c x, ¬ k.Makes c x)
      (hnodup : (docs.map (·.id)).Nodup) (hfit : ∀ d ∈ docs, st.Fit w calls c d)
      (tell : Except StoreError Unit → Reply) :
      Stage k (.ask (.store (.setAll c docs)) fun a => .done (tell a))
  | adding {c : Collection} {fields : Json} {x : Content} (hmakes : k.Makes c x)
      (hshows : ∀ id, ∃ created, c.shows? ⟨id, fields.withId id⟩ = some (created, x)) :
      Stage k (.ask (.store (.add c fields)) .done)
  | done (r : Reply) : Stage k (.done r)

/-- Every ruleset and every rule shows content that was submitted for it. -/
def Shown : Prop :=
  ∀ c, c ≠ .userTokens → ∀ d ∈ (st.world.store.shelf c).documents, st.Shows w calls c d

end

/-- A later moment: all that is done is still done, and all documents are still there. -/
structure Later (st st' : Crowd ι Reply) : Prop where
  done : ∀ i r, st.program i = .done r → st'.program i = .done r
  grows : st.world.store.Grows st'.world.store

namespace Later

variable {st st' st'' : Crowd ι Reply} {w : World} {calls : ι → Writer} {c : Collection}
  {d : Document} {k : Writer}

theorem refl (st : Crowd ι Reply) : st.Later st :=
  ⟨fun _ _ h => h, .refl _⟩

theorem trans (h : st.Later st') (h' : st'.Later st'') : st.Later st'' :=
  ⟨fun i r hdone => h'.done i r (h.done i r hdone), h.grows.trans h'.grows⟩

theorem submitted (h : st.Later st') {id : String} {x : Content}
    (hx : st.Submitted w calls c id x) : st'.Submitted w calls c id x := by
  rcases hx with hfirst | ⟨i, hmakes, hdone⟩ | hupdate
  · exact .inl hfirst
  · exact .inr (.inl ⟨i, hmakes, h.done i _ hdone⟩)
  · exact .inr (.inr hupdate)

theorem shows (h : st.Later st') (hd : st.Shows w calls c d) : st'.Shows w calls c d := by
  obtain ⟨created, x, hview, hx⟩ := hd
  exact ⟨created, x, hview, h.submitted hx⟩

theorem fit (h : st.Later st') (hd : st.Fit w calls c d) : st'.Fit w calls c d := by
  obtain ⟨hshows, created, hcreated, hborn⟩ := hd
  exact ⟨h.shows hshows, created, hcreated, h.grows.born hborn⟩

/-- What a call is about to write may still be written later. -/
theorem stage (h : st.Later st') {p : Program Reply} (hp : st.Stage w calls k p) :
    st'.Stage w calls k p := by
  cases hp with
  | waiting => exact .waiting
  | setting hmakes hfit tell => exact .setting hmakes (h.fit hfit) tell
  | settingAll hmakes hnodup hfit tell =>
    exact .settingAll hmakes hnodup (fun d hd => h.fit (hfit d hd)) tell
  | adding hmakes hshows => exact .adding hmakes hshows
  | done r => exact .done r

end Later

/-! ## The first question of a call -/

section Beginning

variable {w : World} {calls : ι → Writer} {st : Crowd ι Reply} {k : Writer} {c : Collection}
  {id : String} {x : Content}

/-- A document that is told shows what its value shows. -/
theorem Stage.goOn {α : Type} {kind : DocumentKind α} {write : α → Json} {idOf : α → String}
    {view : α → Time.Timestamp × Content} (hwrites : kind.Writes write idOf)
    (hshows : ∀ d, c.shows? d = (kind.ofDocument? d).map view) (change : α → α)
    (hid : ∀ v, idOf (change v) = idOf v) (hchange : ∀ v, view (change v) = ((view v).1, x))
    (hmakes : ∀ c x, ¬ k.Makes c x) (hx : st.Submitted w calls c id x)
    (malformed : String → StoreError) :
    st.Stage w calls k
      (kind.goOn c malformed write change id (st.world.store.get c id)) := by
  cases hget : (st.world.store.shelf c).get? id with
  | none =>
    rw [Store.get, hget]
    exact .done _
  | some fields =>
    rw [Store.get, hget, DocumentKind.goOn]
    cases hread : kind.ofDocument? ⟨id, fields⟩ with
    | none => exact .done _
    | some old =>
      have hkey : idOf (change old) = id := (hid old).trans (hwrites.idOf_of_ofDocument? hread)
      have hnew : kind.ofDocument? ⟨id, write (change old)⟩ = some (change old) :=
        hwrites.ofDocument?_self hkey
      have hborn : st.world.store.Born c id (view old).1 := by
        refine ⟨⟨id, fields⟩, Shelf.get?_eq_some_iff.mp hget, rfl, ?_⟩
        rw [Collection.createdAt?, hshows, hread]
        rfl
      have hview : c.shows? ⟨id, write (change old)⟩ = some ((view old).1, x) := by
        rw [hshows, hnew, Option.map_some, hchange]
      have hfit : st.Fit w calls c ⟨id, write (change old)⟩ :=
        ⟨⟨_, x, hview, hx⟩, _, by rw [Collection.createdAt?, hview]; rfl, hborn⟩
      exact .setting hmakes hfit fun a => a.map fun _ => id

/-- Numbering afresh changes neither what a rule shows nor its id. -/
theorem mem_renumber {now : Time.Timestamp} {rules : List Rule} {r : Rule}
    (h : r ∈ Rules.renumber now rules) :
    ∃ old ∈ rules, r.id = old.id ∧ r.createdAt = old.createdAt ∧ r.content = old.content := by
  obtain ⟨i, hi, rfl⟩ := List.mem_iff_getElem.mp h
  rw [Rules.length_renumber] at hi
  exact ⟨rules[i], List.getElem_mem hi, by simp [Rules.renumber], by simp [Rules.renumber],
    by simp [Rules.renumber, Rule.content]⟩

theorem shows?_document (rulesetId : String) (r : Rule) :
    (Collection.rules rulesetId).shows? (Rules.document r) = some (r.createdAt, r.content) := by
  simp [Collection.shows?, Rules.ofDocument?_document]

/-- The rules of a listing may be written in their places in any order and with any ranks. -/
theorem fit_of_moved (hshown : st.Shown w calls) {rulesetId : String} {moved : List Rule}
    (hmoved : ∀ r ∈ moved, r ∈ Rules.listed st.world.store rulesetId) (now : Time.Timestamp) :
    ∀ d ∈ (Rules.renumber now moved).map Rules.document, st.Fit w calls (.rules rulesetId) d := by
  intro d hd
  obtain ⟨r, hr, rfl⟩ := List.mem_map.mp hd
  obtain ⟨old, hold, hid, hcreated, hcontent⟩ := mem_renumber hr
  obtain ⟨doc, hdoc, hread⟩ := Rules.mem_listed.mp (hmoved old hold)
  have hkey : old.id = doc.id := Rules.writes.idOf_of_ofDocument? hread
  have hview : (Collection.rules rulesetId).shows? doc = some (old.createdAt, old.content) := by
    simp [Collection.shows?, hread]
  obtain ⟨created, x, hshows, hx⟩ := hshown _ (by simp) doc hdoc
  obtain ⟨rfl, rfl⟩ : old.createdAt = created ∧ old.content = x := by
    simpa using hview.symm.trans hshows
  have hsame : (Rules.document r).id = doc.id := hid.trans hkey
  have hnew : (Collection.rules rulesetId).shows? (Rules.document r) =
      some (old.createdAt, old.content) := by
    rw [shows?_document, hcreated, hcontent]
  refine ⟨⟨_, _, hnew, hsame ▸ hx⟩, old.createdAt, ?_, doc, hdoc, hsame.symm, ?_⟩
  · rw [Collection.createdAt?, hnew]
    rfl
  · rw [Collection.createdAt?, hview]
    rfl

/-- What a call that does not delete asks first: it makes a ruleset, or it looks at the store and
then is about to write or done. -/
inductive First (w : World) (calls : ι → Writer) (k : Writer) : Prop
  | adds {c : Collection} {fields : Json} {x : Content} (hmakes : k.Makes c x)
      (hshows : ∀ id, ∃ created, c.shows? ⟨id, fields.withId id⟩ = some (created, x))
      (hprogram : k.program = .ask (.store (.add c fields)) .done)
  | looks {q : StoreCall} {next : q.Answer → Program Reply} (hlooks : Call.Looks (.store q))
      (hprogram : k.program = .ask (.store q) next)
      (hnext : ∀ (supply : IdSupply) (st : Crowd ι Reply), st.Shown w calls →
        st.Stage w calls k (next (st.world.answerStore supply q).1) ∧
          ∀ r, next (st.world.answerStore supply q).1 = .done r → ∀ c x, ¬ k.Makes c x)

namespace First

variable {now : Time.Timestamp} {rulesetId ruleId : String}

theorem makeRuleset (draft : RulesetDraft) : First w calls ⟨now, .createRuleset draft⟩ := by
  have hshows : ∀ id, Collection.shows? .rulesets
      ⟨id, (Rulesets.fresh now draft).toJson.withId id⟩ = some (now, .ruleset draft) := by
    intro id
    rw [Ruleset.withId_toJson, Collection.shows?, Rulesets.writes.ofDocument?_write]
    rfl
  exact .adds (c := .rulesets) ⟨rfl, rfl⟩ (fun id => ⟨now, hshows id⟩)
    (DocumentKind.run_make Rulesets.writes .rulesets (Rulesets.fresh now draft))

theorem makeRule (draft : RuleDraft) :
    First w calls ⟨now, .editRule rulesetId (.create draft)⟩ := by
  have hshows : ∀ order id, (Collection.rules rulesetId).shows?
      ⟨id, (Rules.fresh now order draft).toJson.withId id⟩ = some (now, .rule draft) := by
    intro order id
    rw [Rule.withId_toJson, Collection.shows?, Rules.writes.ofDocument?_write]
    rfl
  refine .looks (q := .list (.rules rulesetId) none) trivial
    (Rules.run_create now rulesetId draft) fun supply st hshown => ⟨?_, fun r hr => ?_⟩
  · exact .adding (c := .rules rulesetId) ⟨rfl, rfl⟩ fun id => ⟨now, hshows _ id⟩
  · cases hr

/-- An update is told the document it is about. -/
theorem rewrite {α : Type} {kind : DocumentKind α} {write : α → Json} {idOf : α → String}
    {view : α → Time.Timestamp × Content} {malformed : String → StoreError} {change : α → α}
    (hprogram : k.program = .ask (.store (.get c id)) (kind.goOn c malformed write change id))
    (hwrites : kind.Writes write idOf) (hshows : ∀ d, c.shows? d = (kind.ofDocument? d).map view)
    (hid : ∀ v, idOf (change v) = idOf v) (hchange : ∀ v, view (change v) = ((view v).1, x))
    (hmakes : ∀ c x, ¬ k.Makes c x)
    (hsubmitted : ∀ st : Crowd ι Reply, st.Submitted w calls c id x) : First w calls k := by
  refine .looks (q := .get c id) trivial hprogram fun supply st hshown => ⟨?_, fun _ _ => hmakes⟩
  exact Stage.goOn hwrites hshows change hid hchange hmakes (hsubmitted st) malformed

theorem move (direction : Direction) :
    First w calls ⟨now, .editRule rulesetId (.move ruleId direction)⟩ := by
  have hmakes : ∀ c x, ¬ (Writer.mk now (.editRule rulesetId (.move ruleId direction))).Makes c x :=
    fun _ _ h => h
  refine .looks (q := .list (.rules rulesetId) none) trivial
    (Rules.run_reorder now rulesetId ruleId direction) fun supply st hshown =>
    ⟨?_, fun _ _ => hmakes⟩
  change st.Stage w calls _ (Rules.moveAfter now rulesetId ruleId direction
    (.ok (st.world.store.shelf (.rules rulesetId)).documents))
  rcases Rules.moveAfter_cases now rulesetId ruleId direction
    (st.world.store.shelf (.rules rulesetId)).documents with ⟨r, hr⟩ | ⟨moved, hperm, hmoved⟩
  · rw [hr]
    exact .done r
  · have hids : (((Rules.renumber now moved).map Rules.document).map (·.id)).Nodup := by
      rw [Rules.map_id_document, Rules.ids_renumber]
      exact (hperm.map _).symm.nodup (Rules.ids_listed_nodup st.world.store rulesetId)
    rw [hmoved]
    exact .settingAll hmakes hids
      (fit_of_moved hshown (fun r hr => hperm.mem_iff.mp hr) now) fun a => a.map fun _ => ruleId

end First

theorem first (w : World) (calls : ι → Writer) (i : ι) (hdeletes : ¬ (calls i).Deletes) :
    First w calls (calls i) := by
  obtain ⟨now, writing, hk⟩ : ∃ now writing, calls i = ⟨now, writing⟩ := ⟨_, _, rfl⟩
  have hsubmitted : ∀ {c id x}, (calls i).Submits c id x →
      ∀ st : Crowd ι Reply, st.Submitted w calls c id x := fun h _ => .inr (.inr ⟨i, h⟩)
  rw [hk] at hdeletes hsubmitted ⊢
  cases writing with
  | deleteRuleset id => exact absurd trivial hdeletes
  | createRuleset draft => exact .makeRuleset draft
  | updateRuleset id draft =>
    exact .rewrite (Writer.program_updateRuleset now id draft) Rulesets.writes (fun _ => rfl)
      (fun _ => rfl) (fun _ => rfl) (fun _ _ h => h) (hsubmitted ⟨rfl, rfl, rfl⟩)
  | editRule rulesetId e =>
    cases e with
    | delete ruleId => exact absurd trivial hdeletes
    | create draft => exact .makeRule draft
    | update ruleId draft =>
      exact .rewrite (Writer.program_updateRule now rulesetId ruleId draft) Rules.writes
        (fun _ => rfl) (fun _ => rfl) (fun _ => rfl) (fun _ _ h => h) (hsubmitted ⟨rfl, rfl, rfl⟩)
    | move ruleId direction => exact .move direction

end Beginning

end Crowd

end Rulebook
