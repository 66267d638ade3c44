import Mathlib.Data.Fin.VecNotation
import Rulebook.Proofs.Ruleset.Writers

/-!
# Nothing is lost or mixed

Writers side by side keep an invariant (`Crowd.Sound`): each of them stands where a writer can
stand, every document shows content that was submitted for it, and the ids on the shelves are those
from before and those that calls have been told. One step keeps it, whoever's turn it is
(`Crowd.Sound.step`), and so does every schedule. What the invariant says of all moments together is
`writers_lose_and_mix_nothing`.
-/

namespace Rulebook

/-- A call makes documents in one collection only. -/
theorem Writer.Makes.collection_eq {k : Writer} {c e : Collection} {x y : Content}
    (hx : k.Makes c x) (hy : k.Makes e y) : e = c := by
  obtain ⟨now, writing⟩ := k
  cases writing with
  | createRuleset draft => exact hy.1.trans hx.1.symm
  | updateRuleset id draft => exact hx.elim
  | deleteRuleset id => exact hx.elim
  | editRule rulesetId e =>
    cases e with
    | create draft => exact hy.1.trans hx.1.symm
    | _ => exact hx.elim

namespace Crowd

variable {ι : Type}

/-- A call has made a document and told its id. -/
def Told (calls : ι → Writer) (st : Crowd ι Reply) (i : ι) (c : Collection) (id : String) : Prop :=
  (∃ x, (calls i).Makes c x) ∧ st.program i = .done (.ok id)

/-- What holds of writers side by side at every moment. -/
structure Sound (w : World) (calls : ι → Writer) (st : Crowd ι Reply) : Prop where
  stage : ∀ i, st.Stage w calls (calls i) (st.program i)
  shown : st.Shown w calls
  grown : w.store.Grows st.world.store
  known : ∀ c, ∀ id ∈ (st.world.store.shelf c).ids,
    id ∈ (w.store.shelf c).ids ∨ ∃ i, st.Told calls i c id
  present : ∀ {i c id}, st.Told calls i c id → id ∈ (st.world.store.shelf c).ids
  fresh : ∀ {i c id}, st.Told calls i c id → id ∉ (w.store.shelf c).ids
  unique : ∀ {i j c id}, st.Told calls i c id → st.Told calls j c id → j = i

section Update

variable [DecidableEq ι] {w : World} {calls : ι → Writer} {st : Crowd ι Reply} {i : ι} {w' : World}
  {p : Program Reply}

/-- A call that is not done goes on, and the store grows. -/
theorem later_update (hrunning : ∀ r, st.program i ≠ .done r)
    (hgrows : st.world.store.Grows w'.store) :
    st.Later ⟨w', Function.update st.program i p⟩ := by
  refine ⟨fun j r hj => ?_, hgrows⟩
  have hne : j ≠ i := by
    rintro rfl
    exact hrunning r hj
  exact (Function.update_of_ne hne _ _).trans hj

/-- The other calls stand where they stood. -/
theorem stage_update (hlater : st.Later ⟨w', Function.update st.program i p⟩)
    (hstage : ∀ j, st.Stage w calls (calls j) (st.program j))
    (hp : st.Stage w calls (calls i) p) (j : ι) :
    Stage w calls ⟨w', Function.update st.program i p⟩ (calls j)
      (Function.update st.program i p j) :=
  (Function.forall_update_iff st.program fun j q =>
    Stage w calls ⟨w', Function.update st.program i p⟩ (calls j) q).mpr
    ⟨hlater.stage hp, fun j _ => hlater.stage (hstage j)⟩ j

omit [DecidableEq ι] in
theorem Later.known {st st' : Crowd ι Reply} (h : st.Later st') {c : Collection} {id : String}
    (hid : id ∈ (w.store.shelf c).ids ∨ ∃ i, st.Told calls i c id) :
    id ∈ (w.store.shelf c).ids ∨ ∃ i, st'.Told calls i c id :=
  hid.imp_right fun ⟨i, hmakes, hdone⟩ => ⟨i, hmakes, h.done i _ hdone⟩

/-- When a call tells an id, what has been told is this or was told before. -/
theorem Told.cases_update {j : ι} {c e : Collection} {id other : String} {x : Content}
    (ht : Told calls ⟨w', Function.update st.program i (.done (.ok id))⟩ j e other)
    (hmakes : (calls i).Makes c x) : st.Told calls j e other ∨ (j = i ∧ e = c ∧ other = id) := by
  obtain ⟨⟨y, hy⟩, hdone⟩ := ht
  by_cases hj : j = i
  · subst hj
    have hid : (Program.done (.ok id) : Program Reply) = .done (.ok other) :=
      (Function.update_self j _ st.program).symm.trans hdone
    injection hid with hid
    injection hid with hid
    exact .inr ⟨rfl, hmakes.collection_eq hy, hid.symm⟩
  · exact .inl ⟨⟨y, hy⟩, (Function.update_of_ne hj _ _).symm.trans hdone⟩

namespace Sound

/-- A call that tells no id goes on, and nothing is written but documents in place of others. -/
theorem overwrite (h : st.Sound w calls) (hrunning : ∀ r, st.program i ≠ .done r)
    (hgrows : st.world.store.Grows w'.store)
    (hids : ∀ c, ∀ id ∈ (w'.store.shelf c).ids, id ∈ (st.world.store.shelf c).ids)
    (hshown : ∀ c, ∀ d ∈ (w'.store.shelf c).documents,
      d ∈ (st.world.store.shelf c).documents ∨ st.Shows w calls c d)
    (hp : st.Stage w calls (calls i) p) (hquiet : ∀ r, p = .done r → ∀ c x, ¬ (calls i).Makes c x) :
    st.Later ⟨w', Function.update st.program i p⟩ ∧
      Sound w calls ⟨w', Function.update st.program i p⟩ := by
  have hlater : st.Later ⟨w', Function.update st.program i p⟩ := later_update hrunning hgrows
  have htold : ∀ {j c id}, Told calls ⟨w', Function.update st.program i p⟩ j c id →
      st.Told calls j c id := by
    rintro j c id ⟨⟨x, hmakes⟩, hdone⟩
    refine ⟨⟨x, hmakes⟩, ?_⟩
    by_cases hj : j = i
    · subst hj
      exact absurd hmakes (hquiet _ ((Function.update_self j p st.program).symm.trans hdone) c x)
    · exact (Function.update_of_ne hj _ _).symm.trans hdone
  refine ⟨hlater, ?_⟩
  exact {
    stage := stage_update hlater h.stage hp
    shown := fun c hc d hd =>
      hlater.shows ((hshown c d hd).elim (fun hold => h.shown c hc d hold) id)
    grown := h.grown.trans hgrows
    known := fun c id hid => hlater.known (h.known c id (hids c id hid))
    present := fun ht => hgrows.mem_ids (h.present (htold ht))
    fresh := fun ht => h.fresh (htold ht)
    unique := fun ht ht' => h.unique (htold ht) (htold ht') }

/-- A call makes a document under a free id and tells the id. -/
theorem make (h : st.Sound w calls) (hrunning : ∀ r, st.program i ≠ .done r) {c : Collection}
    {fields : Json} {id : String} {x : Content} (hmakes : (calls i).Makes c x)
    (hfree : id ∉ (st.world.store.shelf c).ids)
    (hshows : ∃ created, c.shows? ⟨id, fields⟩ = some (created, x))
    (hstore : w'.store = st.world.store.set c id fields) :
    st.Later ⟨w', Function.update st.program i (.done (.ok id))⟩ ∧
      Sound w calls ⟨w', Function.update st.program i (.done (.ok id))⟩ := by
  have hgrows : st.world.store.Grows w'.store := by
    rw [hstore]
    exact .set_free _ hfree _
  have hlater : st.Later ⟨w', Function.update st.program i (.done (.ok id))⟩ :=
    later_update hrunning hgrows
  have hself : Told calls ⟨w', Function.update st.program i (.done (.ok id))⟩ i c id :=
    ⟨⟨x, hmakes⟩, Function.update_self ..⟩
  have hmem : ∀ e, ∀ d ∈ (w'.store.shelf e).documents,
      (e = c ∧ d = ⟨id, fields⟩) ∨ d ∈ (st.world.store.shelf e).documents := by
    intro e d hd
    rw [hstore] at hd
    exact (Store.mem_set.mp hd).imp_right And.left
  refine ⟨hlater, ?_⟩
  exact {
    stage := stage_update hlater h.stage (.done _)
    shown := fun e he d hd => by
      rcases hmem e d hd with ⟨rfl, rfl⟩ | hold
      · obtain ⟨created, hview⟩ := hshows
        exact ⟨created, x, hview, .inr (.inl ⟨i, hmakes, hself.2⟩)⟩
      · exact hlater.shows (h.shown e he d hold)
    grown := h.grown.trans hgrows
    known := fun e other hother => by
      obtain ⟨d, hd, rfl⟩ := List.mem_map.mp hother
      rcases hmem e d hd with ⟨rfl, rfl⟩ | hold
      · exact .inr ⟨i, hself⟩
      · exact hlater.known (h.known e d.id (List.mem_map_of_mem hold))
    present := fun ht => by
      rcases ht.cases_update hmakes with hold | ⟨rfl, rfl, rfl⟩
      · exact hgrows.mem_ids (h.present hold)
      · rw [hstore]
        exact List.mem_map_of_mem (Store.mem_set.mpr (.inl ⟨rfl, rfl⟩))
    fresh := fun ht => by
      rcases ht.cases_update hmakes with hold | ⟨rfl, rfl, rfl⟩
      · exact h.fresh hold
      · exact fun hfirst => hfree (h.grown.mem_ids hfirst)
    unique := fun ht ht' => by
      rcases ht.cases_update hmakes with hold | ⟨rfl, rfl, rfl⟩
      · rcases ht'.cases_update hmakes with hold' | ⟨rfl, rfl, rfl⟩
        · exact h.unique hold hold'
        · exact absurd (h.present hold) hfree
      · rcases ht'.cases_update hmakes with hold' | ⟨rfl, -, -⟩
        · exact absurd (h.present hold') hfree
        · rfl }

end Sound

end Update

/-! ## Steps -/

section Steps

variable {w : World} {calls : ι → Writer} {st : Crowd ι Reply} {i : ι}

/-- A call has something to ask before it is done. -/
theorem First.program_ne_done {k : Writer} (h : First w calls k) (r : Reply) :
    k.program ≠ .done r := by
  intro hdone
  cases h with
  | adds _ _ hprogram => cases hprogram.symm.trans hdone
  | looks _ hprogram _ => cases hprogram.symm.trans hdone

/-- Writers begin with what a well-formed store holds. -/
theorem Sound.init {bound : Nat} {latest : Time.Timestamp} (hw : w.store.WellFormed bound latest)
    (hdeletes : ∀ i, ¬ (calls i).Deletes) : (ofWriters w calls).Sound w calls := by
  have htold : ∀ {i c id}, ¬ (ofWriters w calls).Told calls i c id := by
    rintro i c id ⟨-, hdone⟩
    exact (first w calls i (hdeletes i)).program_ne_done _ hdone
  refine ⟨fun _ => .waiting, fun c hc d hd => ?_, .refl _, fun _ _ hid => .inl hid,
    fun ht => absurd ht htold, fun ht => absurd ht htold, fun ht => absurd ht htold⟩
  have hview : ∃ created x, c.shows? d = some (created, x) := by
    cases c with
    | rulesets =>
      obtain ⟨r, hread, -⟩ := hw.rulesets.ofDocument? Rulesets.writes hd
      exact ⟨r.createdAt, r.content, by simp [Collection.shows?, hread]⟩
    | rules rulesetId =>
      obtain ⟨r, hread, -⟩ := (hw.rules rulesetId).ofDocument? Rules.writes hd
      exact ⟨r.createdAt, r.content, by simp [Collection.shows?, hread]⟩
    | userTokens => exact absurd rfl hc
  obtain ⟨created, x, hview⟩ := hview
  exact ⟨created, x, hview, .inl ⟨d, hd, rfl, created, hview⟩⟩

namespace Sound

variable [DecidableEq ι] (around : Surroundings)

/-- A call whose next question makes a document. -/
theorem step_add (h : st.Sound w calls) {c : Collection} {fields : Json} {x : Content}
    (hp : st.program i = .ask (.store (.add c fields)) .done) (hmakes : (calls i).Makes c x)
    (hshows : ∀ id, ∃ created, c.shows? ⟨id, fields.withId id⟩ = some (created, x)) :
    st.Later (st.step around.calm i) ∧ (st.step around.calm i).Sound w calls := by
  rw [step_of_ask hp, World.answer_of_no_outage rfl]
  exact h.make (not_done_of_ask hp) hmakes (IdSupply.candidate_firstFree _ _ _) (hshows _) rfl

/-- A call whose next question sets documents in place of others. -/
theorem step_setAll (h : st.Sound w calls) {call : StoreCall} {next : call.Answer → Program Reply}
    (hp : st.program i = .ask (.store call) next) {c : Collection} {docs : List Document}
    (hstore : (World.answer around.calm (.store call) st.world).2.store =
      st.world.store.setAll c docs)
    (hmakes : ∀ c x, ¬ (calls i).Makes c x) (hnodup : (docs.map (·.id)).Nodup)
    (hfit : ∀ d ∈ docs, st.Fit w calls c d) {r : Reply}
    (hnext : next (World.answer around.calm (.store call) st.world).1 = .done r) :
    st.Later (st.step around.calm i) ∧ (st.step around.calm i).Sound w calls := by
  have hmem : ∀ e, ∀ d ∈ ((World.answer around.calm (.store call) st.world).2.store.shelf
      e).documents, (e = c ∧ d ∈ docs) ∨ d ∈ (st.world.store.shelf e).documents := by
    intro e d hd
    rw [hstore] at hd
    exact ((Store.mem_setAll hnodup).mp hd).imp_right And.left
  rw [step_of_ask hp, hnext]
  refine h.overwrite (not_done_of_ask hp) ?_ (fun e id hid => ?_) (fun e d hd => ?_) (.done r)
    fun _ _ => hmakes
  · rw [hstore]
    exact .setAll _ hnodup fun d hd => (hfit d hd).2
  · obtain ⟨d, hd, rfl⟩ := List.mem_map.mp hid
    rcases hmem e d hd with ⟨rfl, hdoc⟩ | hold
    · obtain ⟨-, created, -, old, hold, hid, -⟩ := hfit d hdoc
      exact List.mem_map.mpr ⟨old, hold, hid⟩
    · exact List.mem_map_of_mem hold
  · rcases hmem e d hd with ⟨rfl, hdoc⟩ | hold
    · exact .inr (hfit d hdoc).1
    · exact .inl hold

/-- A call whose next question is its first one. -/
theorem step_first (h : st.Sound w calls) (hp : st.program i = (calls i).program)
    (hfirst : First w calls (calls i)) :
    st.Later (st.step around.calm i) ∧ (st.step around.calm i).Sound w calls := by
  cases hfirst with
  | adds hmakes hshows hprogram => exact h.step_add around (hp.trans hprogram) hmakes hshows
  | looks hlooks hprogram hnext =>
    obtain ⟨hstage, hquiet⟩ := hnext around.supply st h.shown
    rw [step_of_ask (hp.trans hprogram), Program.world_answer around.calm hlooks,
      World.answer_of_no_outage rfl]
    exact h.overwrite (not_done_of_ask (hp.trans hprogram)) (.refl _) (fun _ _ hid => hid)
      (fun _ _ hd => .inl hd) hstage hquiet

/-- One step keeps the invariant, whoever's turn it is. -/
theorem step (h : st.Sound w calls) (hdeletes : ¬ (calls i).Deletes) :
    st.Later (st.step around.calm i) ∧ (st.step around.calm i).Sound w calls := by
  have hstage := h.stage i
  generalize hp : st.program i = p at hstage
  cases hstage with
  | waiting => exact h.step_first around hp (first w calls i hdeletes)
  | @setting c d hmakes hfit tell =>
    have hstore : (World.answer around.calm (.store (.set c d.id d.fields)) st.world).2.store =
        st.world.store.setAll c [d] := rfl
    refine h.step_setAll around hp hstore hmakes (by simp) (fun e he => ?_) rfl
    rw [List.mem_singleton.mp he]
    exact hfit
  | settingAll hmakes hnodup hfit tell =>
    exact h.step_setAll around hp rfl hmakes hnodup hfit rfl
  | adding hmakes hshows => exact h.step_add around hp hmakes hshows
  | done r =>
    rw [step_of_done hp]
    exact ⟨.refl st, h⟩

/-- Every schedule keeps the invariant. -/
theorem run (h : st.Sound w calls) (hdeletes : ∀ i, ¬ (calls i).Deletes) (schedule : List ι) :
    st.Later (st.run around.calm schedule) ∧ (st.run around.calm schedule).Sound w calls := by
  induction schedule generalizing st with
  | nil => exact ⟨.refl st, h⟩
  | cons i schedule ih =>
    obtain ⟨hstep, hsound⟩ := h.step around (hdeletes i)
    obtain ⟨hlater, hsound'⟩ := ih hsound
    exact ⟨hstep.trans hlater, hsound'⟩

end Sound

end Steps

/-! ## All moments -/

/-- **Writers lose and mix nothing.** Writers begin at a well-formed store, in any number and any
order. No document is ever lost or changes its time of creation. What a call has made stays, under
an id that no document had before, and no two calls have told the same id of a collection. At every
moment each ruleset and each rule shows one submission as a whole: that with which it was there at
first or was made, or that of an update of it. -/
theorem writers_lose_and_mix_nothing [DecidableEq ι] (around : Surroundings) {w : World}
    {bound : Nat} {latest : Time.Timestamp} (hw : w.store.WellFormed bound latest)
    (calls : ι → Writer) (hdeletes : ∀ i, ¬ (calls i).Deletes) (schedule later : List ι) :
    let st := (ofWriters w calls).run around.calm schedule
    let st' := st.run around.calm later
    (∀ c, ∀ d ∈ (st.world.store.shelf c).documents, ∃ d' ∈ (st'.world.store.shelf c).documents,
      d'.id = d.id ∧ c.createdAt? d' = c.createdAt? d) ∧
    (∀ i c id, st.Told calls i c id → id ∈ (st'.world.store.shelf c).ids) ∧
    (∀ i c id, st'.Told calls i c id → ¬ st.Told calls i c id →
      id ∉ (st.world.store.shelf c).ids) ∧
    (∀ i j c id, st'.Told calls i c id → st'.Told calls j c id → i = j) ∧
    ∀ c, c ≠ .userTokens → ∀ d ∈ (st.world.store.shelf c).documents,
      ∃ created x, c.shows? d = some (created, x) ∧ st.Submitted w calls c d.id x := by
  intro st st'
  have hinit : (ofWriters w calls).Sound w calls := .init hw hdeletes
  obtain ⟨-, hsound⟩ : _ ∧ st.Sound w calls := hinit.run around hdeletes schedule
  obtain ⟨hlater, hsound'⟩ : st.Later st' ∧ st'.Sound w calls := hsound.run around hdeletes later
  refine ⟨hlater.grows, fun i c id ht => hlater.grows.mem_ids (hsound.present ht),
    fun i c id ht hnot hmem => ?_, fun i j c id hi hj => hsound'.unique hj hi, hsound.shown⟩
  rcases hsound.known c id hmem with hfirst | ⟨j, hmakes, hdone⟩
  · exact hsound'.fresh ht hfirst
  · obtain rfl : j = i := hsound'.unique ht ⟨hmakes, hlater.done j _ hdone⟩
    exact hnot ⟨hmakes, hdone⟩

/-- Two updates have been told the same ruleset. The one that writes last prevails as a whole, and
the ruleset was created when it was. -/
theorem last_of_two_updates_prevails_whole :
    let now : Time.Timestamp := ⟨⟨2024, 6, 1, by decide⟩, 12, 30, 0, 0, by decide⟩
    let around := Surroundings.plain ⟨⟨"u-1", by decide⟩, "Ada", "ada@example.com", none⟩
    let first : Ruleset := ⟨"r", "first", "a", "p", [], now, now⟩
    let w : World := { World.start with store := Store.empty.set .rulesets "r" first.toJson }
    let calls : Fin 2 → Writer := ![⟨now, .updateRuleset "r" ⟨"second", "b", "q"⟩⟩,
      ⟨now, .updateRuleset "r" ⟨"third", "c", "s"⟩⟩]
    let st := (ofWriters w calls).run around.calm [0, 1, 0]
    let st' := st.run around.calm [1]
    w.store.WellFormed 0 now ∧
      (st.world.store.shelf .rulesets).documents.map (Collection.shows? .rulesets) =
        [some (now, .ruleset ⟨"second", "b", "q"⟩)] ∧
      (st'.world.store.shelf .rulesets).documents.map (Collection.shows? .rulesets) =
        [some (now, .ruleset ⟨"third", "c", "s"⟩)] ∧
      ∀ d ∈ (st.world.store.shelf .rulesets).documents,
        ∃ d' ∈ (st'.world.store.shelf .rulesets).documents, d'.id = d.id ∧
          Collection.createdAt? .rulesets d' = Collection.createdAt? .rulesets d := by
  intro now around first w calls st st'
  have hproper : first.Proper now := ⟨⟨by decide, by decide +kernel⟩, by decide +kernel, rfl, rfl⟩
  have hw : w.store.WellFormed 0 now :=
    { (Store.WellFormed.empty 0 now) with
      rulesets := by
        dsimp only [w]
        rw [Store.shelf_set_self]
        exact Shelf.Filled.empty.insert hproper }
  have hdeletes : ∀ i, ¬ (calls i).Deletes
    | 0 | 1 => id
  refine ⟨hw, ?_, ?_, ?_⟩
  · decide +kernel
  · decide +kernel
  · obtain ⟨hkept, -⟩ := writers_lose_and_mix_nothing around hw calls hdeletes [0, 1, 0] [1]
    with_reducible exact hkept .rulesets

end Crowd

end Rulebook
