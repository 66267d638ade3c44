import Rulebook.Proofs.Ruleset.Link

/-!
# The rulesets of a project

The listing of a project is made of the documents whose raw project id is that of the project, and
only then are they read. This gives the rulesets of the full listing that are of the project,
because a body that reads as a ruleset and names a project at all names it by a text
(`Ruleset.projectId_of_decode`). Every body the service writes does name one, so after any run of
changes a ruleset is listed under one project, that of the content it was given last
(`Progress.Follows`).
-/

namespace Rulebook

open Json (decodeWith)

/-- Nothing but a text is read as a text. -/
theorem Json.eq_string_of_decode_text {v : Json} {s : String}
    (h : decodeWith Json.Raw.text v = .ok s) : v = .string s := by
  cases v with
  | string t => rw [Except.ok.inj h]
  | _ => cases h

/-- A body that is read as a ruleset names the project of the ruleset by a text, if it names one. -/
theorem Ruleset.projectId_of_decode {fields v : Json} {r : Ruleset}
    (h : decodeWith Ruleset.read fields = .ok r)
    (hv : fields.get? Rulesets.projectField = some v) : v = .string r.projectId := by
  cases fields with
  | object members =>
    obtain ⟨rec, hbuild, hfind⟩ := Json.Record.of_decodeWith_read_object h
    simp only [Json.Reading.seq_eq_ok_iff, Json.Reading.map_eq_ok_iff] at hbuild
    obtain ⟨_, _, ⟨_, _, ⟨_, _, ⟨_, projectId, ⟨_, _, ⟨_, _, ⟨_, -, rfl⟩, -, rfl⟩, -, rfl⟩,
      hproject, rfl⟩, -, rfl⟩, -, rfl⟩, -, rfl⟩ := hbuild
    have hread := Json.Record.decodeWith_of_orElse (hfind "projectId" (by decide)) hv hproject
    exact Json.eq_string_of_decode_text hread
  | _ => cases hv

/-- A value is the same as a text exactly if it is that text. -/
theorem Json.same_string_iff {v : Json} {s : String} : v.same (.string s) ↔ v = .string s := by
  cases v <;> simp [Json.same]

/-! ## Listing part of the documents -/

namespace DocumentKind

variable {α : Type} {kind : DocumentKind α} {docs : List Document} {accepts : Document → Bool}
  {test : α → Bool}

/-- Documents may be filtered before they are read, if the two tests agree on those that read. -/
theorem items_filter
    (h : ∀ d ∈ docs, ∀ x, kind.ofDocument? d = some x → accepts d = test x) :
    (kind.listing (docs.filter accepts)).items = (kind.listing docs).items.filter test := by
  change (docs.filter accepts).filterMap _ = (docs.filterMap _).filter test
  rw [List.filterMap_filter, List.filter_filterMap]
  refine List.filterMap_congr fun d hd => ?_
  cases hread : kind.ofDocument? d with
  | none => simp
  | some x => simp [h d hd x hread, Option.filter]

end DocumentKind

namespace Rulesets

variable {s : Store} {around : Surroundings} {w : World} {projectId : String} {r : Ruleset}
  {now : Time.Timestamp}

/-- Every document of a ruleset is an object that names a project, whatever it names it by. -/
def NamesProjects (s : Store) : Prop :=
  ∀ d ∈ (s.shelf .rulesets).documents, (d.fields.get? projectField).isSome

theorem accepts_ofProjectFilter_iff {fields : Json} :
    (ofProjectFilter projectId).accepts fields = true ↔
      fields.get? projectField = some (.string projectId) := by
  rw [FieldFilter.accepts, ofProjectFilter]
  cases fields.get? projectField <;> simp [Json.same_string_iff]

/-- The documents that the listing of a project is made of. -/
def documentsOf (s : Store) (projectId : String) : List Document :=
  s.list .rulesets (some (ofProjectFilter projectId))

theorem mem_documentsOf {d : Document} :
    d ∈ documentsOf s projectId ↔ d ∈ (s.shelf .rulesets).documents ∧
      d.fields.get? projectField = some (.string projectId) :=
  List.mem_filter.trans (and_congr_right fun _ => accepts_ofProjectFilter_iff)

/-- The items of the listing of a project are those of the full listing that are of the project. -/
theorem items_documentsOf (h : NamesProjects s) (projectId : String) :
    (kind.listing (documentsOf s projectId)).items =
      (listed s).filter fun r => r.projectId = projectId := by
  refine DocumentKind.items_filter fun d hd r hread => ?_
  obtain ⟨body, hbody, rfl⟩ := DocumentKind.ofDocument?_eq_some_iff.mp hread
  obtain ⟨v, hv⟩ := Option.isSome_iff_exists.mp (h d hd)
  -- what the body is read as and what the filter looks at are the same text
  obtain rfl := Ruleset.projectId_of_decode hbody hv
  rw [Bool.eq_iff_iff, accepts_ofProjectFilter_iff, hv, Option.some.injEq, Json.string.injEq,
    decide_eq_true_iff]
  rfl

/-! ## Changes -/

/-- A change to the rulesets. -/
inductive Edit where
  | create (draft : RulesetDraft)
  | update (id : String) (draft : RulesetDraft)
  | delete (id : String)

namespace Edit

/-- A change as a call of the service; the result is the id of the ruleset it is about. -/
def perform (now : Time.Timestamp) : Edit → Attempt StoreError String
  | create draft => do return (← Rulesets.create now draft).id
  | update id draft => do
    let _ ← Rulesets.update now id draft
    return id
  | delete id => do
    Rulesets.delete id
    return id

/-- The content a change gives to its ruleset; a deletion takes away what it has been given. -/
def draft? : Edit → Option RulesetDraft
  | create draft | update _ draft => some draft
  | delete _ => none

/-- A change fails and changes nothing, or it writes the document of a ruleset of its project, or it
removes a document. -/
inductive Outcome (edit : Edit) (w : World) : Except StoreError String × World → Prop where
  | refused (e : StoreError) : Outcome edit w (.error e, w)
  | written (new : Ruleset) (draft : RulesetDraft) (idsTried : Nat)
      (hdraft : edit.draft? = some draft) (hproject : new.projectId = draft.projectId) :
      Outcome edit w (.ok new.id,
        { w with store := w.store.set .rulesets new.id new.toJson, idsTried := idsTried })
  | removed (id : String) (hdraft : edit.draft? = none) :
      Outcome edit w (.ok id,
        { w with store := w.store.put .rulesets ((w.store.shelf .rulesets).erase id) })

theorem outcome (around : Surroundings) (w : World) (now : Time.Timestamp) (edit : Edit) :
    edit.Outcome w ((edit.perform now).runIn around.calm w) := by
  cases edit with
  | create draft =>
    obtain ⟨id, next, -, -, hmake⟩ := writes.make_runIn .rulesets around w (fresh now draft)
    rw [perform, create_eq, Attempt.runIn_bind, hmake]
    exact .written (kind.withId id (fresh now draft)) draft next rfl rfl
  | update id draft =>
    rw [perform, Attempt.runIn_bind, update_eq]
    rcases hrun : (kind.rewrite .rulesets malformed Ruleset.toJson (draft.applyTo now) id).runIn
      around.calm w with ⟨e | new, w'⟩
    · obtain rfl := DocumentKind.world_of_rewrite_error hrun
      exact .refused e
    · obtain ⟨old, hfetch, rfl, rfl⟩ := (DocumentKind.rewrite_runIn_eq_ok_iff _).mp hrun
      obtain ⟨-, fields, -, hread⟩ := DocumentKind.fetch_runIn_eq_ok_iff.mp hfetch
      obtain rfl : old.id = id := writes.idOf_of_ofDocument? hread
      exact .written (draft.applyTo now old) draft w.idsTried rfl rfl
  | delete id =>
    rw [perform, Attempt.runIn_bind, Rulesets.delete]
    cases hget : (w.store.shelf .rulesets).get? id with
    | none =>
      rw [Attempt.runIn_calm_delete_of_none _ _ hget]
      exact .refused _
    | some fields =>
      rw [Attempt.runIn_calm_delete_of_some _ _ hget]
      exact .removed id rfl

end Edit

/-! ## Runs -/

/-- How far a run has come: the world, and the content each ruleset was given last in the run. -/
structure Progress where
  world : World
  latest : String → Option RulesetDraft

namespace Progress

/-- One change at a time of the clock later. -/
def next (around : Surroundings) (p : Progress) (step : Time.Timestamp × Edit) : Progress :=
  match (step.2.perform step.1).runIn around p.world with
  | (.ok changed, w) => ⟨w, fun id => if id = changed then step.2.draft? else p.latest id⟩
  | (.error _, w) => ⟨w, p.latest⟩

/-- A whole run of changes later. -/
def after (around : Surroundings) (w : World) (steps : List (Time.Timestamp × Edit)) : Progress :=
  steps.foldl (next around) ⟨w, fun _ => none⟩

/-- Every document names a project; what was given content last is listed under the project of that
content, and what was given none was listed from the start. -/
structure Follows (start : Store) (p : Progress) : Prop where
  named : NamesProjects p.world.store
  drafted : ∀ id draft, p.latest id = some draft →
    ∃ r ∈ listed p.world.store, r.id = id ∧ r.projectId = draft.projectId
  kept : ∀ r ∈ listed p.world.store, p.latest r.id = none → r ∈ listed start

variable {start : Store} {p : Progress} {new : Ruleset} {draft : RulesetDraft}

/-- A ruleset written under its id is of the project of the content it was given. -/
theorem Follows.set (h : Follows start p) (hproject : new.projectId = draft.projectId)
    (hw : w.store = p.world.store.set .rulesets new.id new.toJson) :
    Follows start ⟨w, fun id => if id = new.id then some draft else p.latest id⟩ where
  named d hd := by
    rw [hw, Store.shelf_set_self, Shelf.mem_insert] at hd
    rcases hd with rfl | ⟨hd, -⟩
    · rfl
    · exact h.named d hd
  drafted id latest hlatest := by
    simp only [hw, mem_listed_set]
    dsimp only at hlatest
    by_cases hid : id = new.id
    · rw [if_pos hid, Option.some.injEq] at hlatest
      exact ⟨new, .inl rfl, hid.symm, hlatest ▸ hproject⟩
    · rw [if_neg hid] at hlatest
      obtain ⟨r, hr, rfl, hof⟩ := h.drafted id latest hlatest
      exact ⟨r, .inr ⟨hr, hid⟩, rfl, hof⟩
  kept r hr hlatest := by
    dsimp only at hlatest
    rw [hw] at hr
    rcases (mem_listed_set new).mp hr with rfl | ⟨hr, hne⟩
    · rw [if_pos rfl] at hlatest
      cases hlatest
    · rw [if_neg hne] at hlatest
      exact h.kept r hr hlatest

/-- A document removed is of no project. -/
theorem Follows.erase (h : Follows start p) {removed : String}
    (hw : w.store = p.world.store.put .rulesets ((p.world.store.shelf .rulesets).erase removed)) :
    Follows start ⟨w, fun id => if id = removed then none else p.latest id⟩ where
  named d hd := by
    rw [hw, Store.shelf_put_self, Shelf.mem_erase] at hd
    exact h.named d hd.1
  drafted id latest hlatest := by
    simp only [hw, mem_listed_erase]
    obtain ⟨hid, hlatest⟩ := Option.ite_none_left_eq_some.mp hlatest
    obtain ⟨r, hr, rfl, hof⟩ := h.drafted id latest hlatest
    exact ⟨r, ⟨hr, hid⟩, rfl, hof⟩
  kept r hr hlatest := by
    dsimp only at hlatest
    rw [hw] at hr
    obtain ⟨hr, hne⟩ := (mem_listed_erase removed).mp hr
    rw [if_neg hne] at hlatest
    exact h.kept r hr hlatest

/-- A change keeps every ruleset under the project of its latest content. -/
theorem Follows.next (h : Follows start p) (around : Surroundings)
    (step : Time.Timestamp × Edit) : Follows start (p.next around.calm step) := by
  have houtcome := step.2.outcome around p.world step.1
  unfold Progress.next
  revert houtcome
  generalize (step.2.perform step.1).runIn around.calm p.world = out
  rintro (e | ⟨new, draft, n, hdraft, hproject⟩ | ⟨id, hdraft⟩)
  case refused => exact h
  case written => exact hdraft ▸ h.set hproject rfl
  case removed => exact hdraft ▸ h.erase rfl

theorem follows_after (around : Surroundings) (h : NamesProjects w.store)
    (steps : List (Time.Timestamp × Edit)) : Follows w.store (after around.calm w steps) := by
  have hstart : Follows w.store ⟨w, fun _ => none⟩ := ⟨h, nofun, fun _ hr _ => hr⟩
  exact List.foldlRecOn steps _ hstart fun p hp step _ => hp.next around step

end Progress

/-! ## Rulesets under projects -/

/-- A ruleset is an item of the listing of a project. -/
def ListedUnder (around : Surroundings) (w : World) (projectId : String) (r : Ruleset) : Prop :=
  ∃ listing, (listOfProject projectId).runIn around w = (.ok listing, w) ∧ r ∈ listing.items

theorem listOfProject_runIn (around : Surroundings) (w : World) (projectId : String) :
    (listOfProject projectId).runIn around.calm w =
      (.ok (kind.listing (documentsOf w.store projectId)), w) :=
  rfl

/-- A ruleset is listed under its project and no other. -/
theorem listedUnder_iff (h : NamesProjects w.store) :
    ListedUnder around.calm w projectId r ↔ r ∈ listed w.store ∧ r.projectId = projectId := by
  rw [ListedUnder, listOfProject_runIn]
  constructor
  · rintro ⟨listing, hlisting, hr⟩
    cases hlisting
    rwa [items_documentsOf h, List.mem_filter, decide_eq_true_iff] at hr
  · intro hr
    refine ⟨_, rfl, ?_⟩
    rwa [items_documentsOf h, List.mem_filter, decide_eq_true_iff]

/-- What the listing of a project leaves out are the documents of its raw project id that do not
read. -/
theorem exists_counted (s : Store) (projectId : String) :
    ∃ counted : List Document,
      (kind.listing (documentsOf s projectId)).skipped = counted.length ∧
      counted.Sublist (s.shelf .rulesets).documents ∧
      ∀ d, d ∈ counted ↔ d ∈ (s.shelf .rulesets).documents ∧
        (∃ e, decodeWith Ruleset.read d.fields = .error e) ∧
        d.fields.get? projectField = some (.string projectId) := by
  refine ⟨(documentsOf s projectId).filter fun d => (kind.ofDocument? d).isNone,
    List.countP_eq_length_filter, List.filter_sublist.trans List.filter_sublist, fun d => ?_⟩
  rw [List.mem_filter, mem_documentsOf, Option.isNone_iff_eq_none,
    DocumentKind.ofDocument?_eq_none_iff, and_assoc]
  exact and_congr_right fun _ => and_comm

/-- **The listing of a project is the full listing filtered by project.** In every store whose
ruleset documents name a project, by whatever value:

* the listing of a project has the items of the full listing that are of the project, in the same
  order, and counts the documents that do not read whose raw project id is the project;
* the same is so after every run of changes, and each ruleset is then listed under exactly one
  project, by one item: that of the content it was given last, or the one it had at the start if the
  run gave it none. -/
theorem project_listings_partition (around : Surroundings) (w : World)
    (h : NamesProjects w.store) :
    (∀ projectId, ∃ (items : List Ruleset) (skipped : Nat) (counted : List Document),
      list.runIn around.calm w = (.ok ⟨items, skipped⟩, w) ∧
      (listOfProject projectId).runIn around.calm w =
        (.ok ⟨items.filter fun r => r.projectId = projectId, counted.length⟩, w) ∧
      counted.Sublist (w.store.shelf .rulesets).documents ∧
      ∀ d, d ∈ counted ↔ d ∈ (w.store.shelf .rulesets).documents ∧
        (∃ e, decodeWith Ruleset.read d.fields = .error e) ∧
        d.fields.get? projectField = some (.string projectId)) ∧
    ∀ steps, let p := Progress.after around.calm w steps
      NamesProjects p.world.store ∧
      (∀ r ∈ listed p.world.store, ∃! projectId, ListedUnder around.calm p.world projectId r) ∧
      (∀ r projectId r' projectId', ListedUnder around.calm p.world projectId r →
        ListedUnder around.calm p.world projectId' r' → r.id = r'.id →
        r = r' ∧ projectId = projectId') ∧
      (∀ id draft, p.latest id = some draft →
        ∃ r, r.id = id ∧ ListedUnder around.calm p.world draft.projectId r) ∧
      ∀ r projectId, ListedUnder around.calm p.world projectId r → p.latest r.id = none →
        r ∈ listed w.store := by
  refine ⟨fun projectId => ?_, fun steps => ?_⟩
  · obtain ⟨counted, hskipped, hcounted⟩ := exists_counted w.store projectId
    refine ⟨listed w.store, _, counted, rfl, ?_, hcounted⟩
    rw [listOfProject_runIn, ← hskipped, ← items_documentsOf h]
  · intro p
    have hfollows : Progress.Follows w.store p := Progress.follows_after around h steps
    have hunder : ∀ {projectId r}, ListedUnder around.calm p.world projectId r ↔
        r ∈ listed p.world.store ∧ r.projectId = projectId := listedUnder_iff hfollows.named
    refine ⟨hfollows.named, fun r hr => ?_, fun r projectId r' projectId' hr hr' hid => ?_,
      fun id draft hdraft => ?_, fun r projectId hr => hfollows.kept r (hunder.mp hr).1⟩
    · exact ⟨r.projectId, hunder.mpr ⟨hr, rfl⟩, fun projectId hother => (hunder.mp hother).2.symm⟩
    · obtain ⟨hlisted, rfl⟩ := hunder.mp hr
      obtain ⟨hlisted', rfl⟩ := hunder.mp hr'
      obtain rfl := eq_of_mem_listed hlisted hlisted' hid
      exact ⟨rfl, rfl⟩
    · obtain ⟨r, hr, hid, hproject⟩ := hfollows.drafted id draft hdraft
      exact ⟨r, hid, hunder.mpr ⟨hr, hproject⟩⟩

/-- A ruleset moved to another project is listed there, next to a document that is no ruleset and
names that project, and one whose project is no text. -/
theorem moved_ruleset_is_listed :
    let now : Time.Timestamp := ⟨⟨2024, 6, 1, by decide⟩, 12, 30, 0, 0, by decide⟩
    let around := Surroundings.plain ⟨⟨"u-1", by decide⟩, "Ada", "ada@example.com", none⟩
    let walls : Ruleset := ⟨"c", "walls", "", "a", [], now, now⟩
    let store := Store.empty.setAll .rulesets
      [⟨"c", walls.toJson⟩, ⟨"x", .object [("projectId", .string "b")]⟩,
        ⟨"y", .object [("projectId", .null)]⟩]
    let w : World := { World.start with store := store }
    let p := Progress.after around.calm w [(now, .update "c" ⟨"walls", "", "b"⟩)]
    NamesProjects w.store ∧ (∃ r, r.id = "c" ∧ ListedUnder around.calm p.world "b" r) ∧
      ∃ items, (listOfProject "b").runIn around.calm w = (.ok ⟨items, 1⟩, w) := by
  intro now around walls store w p
  have hnamed : NamesProjects w.store := by
    unfold NamesProjects
    decide +kernel
  obtain ⟨hlistings, hruns⟩ := project_listings_partition around w hnamed
  obtain ⟨-, -, -, hlatest, -⟩ := hruns [(now, .update "c" ⟨"walls", "", "b"⟩)]
  obtain ⟨items, -, counted, -, hlist, -⟩ := hlistings "b"
  have hone : counted.length = 1 := by
    have hskipped : (kind.listing (documentsOf w.store "b")).skipped = 1 := by decide +kernel
    rw [listOfProject_runIn, Prod.mk.injEq, Except.ok.injEq] at hlist
    exact (congrArg Listing.skipped hlist.1).symm.trans hskipped
  exact ⟨hnamed, hlatest "c" ⟨"walls", "", "b"⟩ (by decide +kernel), _, hone ▸ hlist⟩

end Rulesets

end Rulebook
