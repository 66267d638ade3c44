import Mathlib.Algebra.GroupWithZero.Nat
import Rulebook.Proofs.Program.Kept
import Rulebook.Proofs.Rule.Entry
import Rulebook.Proofs.Rule.Ranked
import Rulebook.Ruleset.Kept

/-!
# The rules of a ruleset as a sequence

To its users a ruleset is a sequence of rules: a new rule stands at the end, an update keeps the
place, a deletion leaves the others as they are, a move swaps two neighbours. The store keeps no
sequence, only documents with ranks. `Progress` carries both along a run of calls, and the main
statement says that they agree after every run (`list_eq_sequence`): each call of the service does
to the stored documents of its ruleset what it does to the sequence (`Edit.simulates`) and leaves
those of all other rulesets alone.
-/

namespace Rulebook.Rules

/-! ## Changes -/

/-- A change to the rules of one ruleset. -/
inductive Edit where
  | create (draft : RuleDraft)
  | update (ruleId : String) (draft : RuleDraft)
  | delete (ruleId : String)
  | move (ruleId : String) (direction : Direction)

namespace Edit

/-- A change as a call of the service; the result is the id of the rule it is about. -/
def perform (now : Time.Timestamp) (rulesetId : String) : Edit → Attempt StoreError String
  | create draft => do return (← Rules.create now rulesetId draft).id
  | update ruleId draft => do
    let _ ← Rules.update now rulesetId ruleId draft
    return ruleId
  | delete ruleId => do
    Rules.delete rulesetId ruleId
    return ruleId
  | move ruleId direction => do
    let _ ← Rules.reorder now rulesetId ruleId direction
    return ruleId

/-- A change to a sequence, given the id a new rule gets; it fails where its rule is missing. -/
def apply (now : Time.Timestamp) (newId : String) (es : List Entry) : Edit → Option (List Entry)
  | create draft => some (es ++ [.ofDraft now newId draft])
  | update ruleId draft =>
    if ruleId ∈ es.map (·.id) then
      some (es.map fun e => if e.id = ruleId then e.withDraft draft else e)
    else none
  | delete ruleId =>
    if ruleId ∈ es.map (·.id) then some (es.filter (·.id ≠ ruleId)) else none
  | move ruleId direction =>
    if ruleId ∈ es.map (·.id) then some (Entry.move ruleId direction es) else none

/-- How many rules a change makes. -/
def made : Edit → Nat
  | create _ => 1
  | _ => 0

end Edit

/-! ## One change -/

/-- What a change has to do when its ruleset is ranked by some rules: fail where the sequence says
so, leave the shelf ranked by rules that look like the changed sequence, and touch nothing else. -/
structure Simulates (e : Edit) (now : Time.Timestamp) (rulesetId : String) (n : Nat)
    (rules : List Rule) (w : World) (out : Except StoreError String × World) : Prop where
  reply : out.1.isOk = (e.apply now (out.1.toOption.getD "") (rules.map Entry.of)).isSome
  ranked : ∃ rules', Ranked (n + e.made) (out.2.store.shelf (.rules rulesetId)) rules' ∧
    rules'.map Entry.of =
      (e.apply now (out.1.toOption.getD "") (rules.map Entry.of)).getD (rules.map Entry.of)
  frame : ∀ c, c ≠ .rules rulesetId → out.2.store.shelf c = w.store.shelf c

section OneChange

variable {around : Surroundings} {w : World} {now : Time.Timestamp} {rulesetId ruleId : String}
  {n : Nat} {rules : List Rule} {e : Edit}

theorem mem_ids_map_of {id : String} :
    id ∈ (rules.map Entry.of).map (·.id) ↔ id ∈ rules.map (·.id) := by
  simp [Entry.of]

/-- A change that fails on both sides. -/
theorem Simulates.of_error {err : StoreError}
    (h : Ranked n (w.store.shelf (.rules rulesetId)) rules)
    (happly : e.apply now "" (rules.map Entry.of) = none) :
    Simulates e now rulesetId n rules w (.error err, w) where
  reply := by
    change false = (e.apply now "" _).isSome
    rw [happly]
    rfl
  ranked := by
    refine ⟨rules, h.mono (Nat.le_add_right _ _), ?_⟩
    change _ = (e.apply now "" _).getD _
    rw [happly]
    rfl
  frame _ _ := rfl

/-- A change that is made on both sides. -/
theorem Simulates.of_ok {id : String} {rules' : List Rule} {w' : World}
    (h : Ranked (n + e.made) (w'.store.shelf (.rules rulesetId)) rules')
    (hframe : ∀ c, c ≠ .rules rulesetId → w'.store.shelf c = w.store.shelf c)
    (happly : e.apply now id (rules.map Entry.of) = some (rules'.map Entry.of)) :
    Simulates e now rulesetId n rules w (.ok id, w') where
  reply := by
    change true = (e.apply now id _).isSome
    rw [happly]
    rfl
  ranked := by
    refine ⟨rules', h, ?_⟩
    change _ = (e.apply now id _).getD _
    rw [happly]
    rfl
  frame := hframe

/-- A change that replaces the shelf of its ruleset. -/
theorem Simulates.of_put {id : String} {shelf : Shelf} {rules' : List Rule} {w' : World}
    (hw : w'.store = w.store.put (.rules rulesetId) shelf)
    (h : Ranked (n + e.made) shelf rules')
    (happly : e.apply now id (rules.map Entry.of) = some (rules'.map Entry.of)) :
    Simulates e now rulesetId n rules w (.ok id, w') := by
  refine .of_ok ?_ (fun c hc => ?_) happly
  · rw [hw, Store.shelf_put_self]
    exact h
  · rw [hw, Store.shelf_put_ne _ _ hc]

theorem list_runIn (h : Ranked n (w.store.shelf (.rules rulesetId)) rules) :
    (Rules.list rulesetId).runIn around.calm w = (.ok ⟨rules, 0⟩, w) := by
  obtain ⟨hitems, hskipped⟩ := h.sorted_listing
  simp [Rules.list, Except.map, Store.list, Shelf.select, hitems, hskipped]

theorem get_runIn (h : Ranked n (w.store.shelf (.rules rulesetId)) rules) {r : Rule}
    (hr : r ∈ rules) : (Rules.get rulesetId r.id).runIn around.calm w = (.ok r, w) := by
  have hget : w.store.get (.rules rulesetId) r.id = .ok (document r) := by
    simp [Store.get, h.get?_of_mem hr, document]
  simp [Rules.get, Attempt.runIn_bind, hget, ofDocument?_document]

theorem get_runIn_missing (h : Ranked n (w.store.shelf (.rules rulesetId)) rules)
    (hid : ruleId ∉ rules.map (·.id)) :
    (Rules.get rulesetId ruleId).runIn around.calm w =
      (.error (.missing (.rules rulesetId) ruleId), w) := by
  have hget : w.store.get (.rules rulesetId) ruleId =
      .error (.missing (.rules rulesetId) ruleId) := by
    simp [Store.get, h.get?_eq_none hid]
  simp [Rules.get, Attempt.runIn_bind, hget]

/-- A new rule stands at the end. -/
theorem create_simulates (h : Ranked n (w.store.shelf (.rules rulesetId)) rules)
    (hn : n < 0x7fffffffffffffff) (draft : RuleDraft) :
    Simulates (.create draft) now rulesetId n rules w
      (((Edit.create draft).perform now rulesetId).runIn around.calm w) := by
  obtain ⟨rank, hrank⟩ : ∃ rank, rank = rankAfter (rules.map (·.order)) := ⟨_, rfl⟩
  have hranks : ∀ r ∈ rules.map (·.order), 1 ≤ r.value ∧ r.value ≤ (n : Int) := by
    intro r hr
    obtain ⟨q, hq, rfl⟩ := List.mem_map.mp hr
    exact ⟨h.positive q hq, h.bounded q hq⟩
  obtain ⟨habove, hpos, hbound⟩ := rankAfter_bounds (by omega) (by omega) hranks
  rw [← hrank] at habove hpos hbound
  obtain ⟨id, next, -, hfree, hadd⟩ :=
    Attempt.runIn_calm_add around w (.rules rulesetId) (fresh now rank draft).toJson
  have hid : id ∉ rules.map (·.id) := by
    intro hmem
    obtain ⟨r, hr, rfl⟩ := List.mem_map.mp hmem
    exact hfree _ ((h.mem_iff _).mpr (List.mem_map_of_mem (f := document) hr)) rfl
  have hrun : ((Edit.create draft).perform now rulesetId).runIn around.calm w =
      (.ok id, { w with
        store := w.store.set (.rules rulesetId) id ((fresh now rank draft).toJson.withId id),
        idsTried := next }) := by
    simp [Edit.perform, Rules.create, Attempt.runIn_bind, list_runIn h, ← hrank, hadd]
  rw [hrun, Rule.withId_toJson]
  obtain ⟨new, hnew⟩ : ∃ new : Rule, new = { fresh now rank draft with id := id } := ⟨_, rfl⟩
  have hnewId : new.id = id := by rw [hnew]
  have horder : new.order = rank := by rw [hnew]; rfl
  rw [← hnew, ← hnewId]
  refine Simulates.of_put rfl (h.append (hnewId ▸ hid) ?_ (horder ▸ hpos) (horder ▸ hbound)) ?_
  · intro r hr
    rw [horder]
    exact habove _ (List.mem_map_of_mem hr)
  · simp [Edit.apply, Entry.of, Entry.ofDraft, hnew, fresh]

/-- An updated rule keeps its place. -/
theorem update_simulates (h : Ranked n (w.store.shelf (.rules rulesetId)) rules)
    (draft : RuleDraft) :
    Simulates (.update ruleId draft) now rulesetId n rules w
      (((Edit.update ruleId draft).perform now rulesetId).runIn around.calm w) := by
  by_cases hid : ruleId ∈ rules.map (·.id)
  · obtain ⟨old, hold, rfl⟩ := List.mem_map.mp hid
    have hrun : ((Edit.update old.id draft).perform now rulesetId).runIn around.calm w =
        (.ok old.id, { w with
          store := w.store.set (.rules rulesetId) old.id (draft.applyTo now old).toJson }) := by
      simp [Edit.perform, Rules.update, Attempt.runIn_bind, Except.map, get_runIn h hold]
    rw [hrun]
    refine Simulates.of_put rfl (h.set (draft.applyTo now old) hold rfl rfl) ?_
    rw [Edit.apply, if_pos (mem_ids_map_of.mpr hid), Ranked.replace, List.map_map, List.map_map]
    congr 1
    refine List.map_congr_left fun r hr => ?_
    by_cases heq : r.id = old.id
    · have := h.eq_of_id_eq hr hold heq
      subst this
      simp [Entry.of, Entry.withDraft, RuleDraft.applyTo]
    · simp [Entry.of, RuleDraft.applyTo, heq]
  · have hrun : ((Edit.update ruleId draft).perform now rulesetId).runIn around.calm w =
        (.error (.missing (.rules rulesetId) ruleId), w) := by
      simp [Edit.perform, Rules.update, Attempt.runIn_bind, get_runIn_missing h hid]
    rw [hrun]
    exact .of_error h (if_neg (mt mem_ids_map_of.mp hid))

/-- A deleted rule leaves the others as they are. -/
theorem delete_simulates (h : Ranked n (w.store.shelf (.rules rulesetId)) rules) :
    Simulates (.delete ruleId) now rulesetId n rules w
      (((Edit.delete ruleId).perform now rulesetId).runIn around.calm w) := by
  by_cases hid : ruleId ∈ rules.map (·.id)
  · obtain ⟨old, hold, rfl⟩ := List.mem_map.mp hid
    have hrun : ((Edit.delete old.id).perform now rulesetId).runIn around.calm w =
        (.ok old.id,
          { w with
            store := w.store.put (.rules rulesetId)
              ((w.store.shelf (.rules rulesetId)).erase old.id) }) := by
      simp [Edit.perform, Rules.delete, Except.map,
        Attempt.runIn_calm_delete_of_some _ _ (h.get?_of_mem hold)]
    rw [hrun]
    refine Simulates.of_put rfl (h.erase old.id) ?_
    rw [Edit.apply, if_pos (mem_ids_map_of.mpr hid), List.filter_map]
    rfl
  · have hrun : ((Edit.delete ruleId).perform now rulesetId).runIn around.calm w =
        (.error (.missing (.rules rulesetId) ruleId), w) := by
      simp [Edit.perform, Rules.delete, Except.map,
        Attempt.runIn_calm_delete_of_none _ _ (h.get?_eq_none hid)]
    rw [hrun]
    exact .of_error h (if_neg (mt mem_ids_map_of.mp hid))

/-- A moved rule swaps its place with its neighbour. -/
theorem move_simulates (h : Ranked n (w.store.shelf (.rules rulesetId)) rules)
    (hn : n ≤ 0x7fffffffffffffff) (d : Direction) :
    Simulates (.move ruleId d) now rulesetId n rules w
      (((Edit.move ruleId d).perform now rulesetId).runIn around.calm w) := by
  have hentries : ((rules.map Entry.of).map (·.id)).Nodup := by
    rw [List.map_map]
    exact h.ids_nodup
  cases hfind : rules.findIdx? fun r => r.id = ruleId with
  | none =>
    have hid : ruleId ∉ rules.map (·.id) := by
      intro hmem
      obtain ⟨r, hr, hid⟩ := List.mem_map.mp hmem
      simpa [hid] using List.findIdx?_eq_none_iff.mp hfind r hr
    have hrun : ((Edit.move ruleId d).perform now rulesetId).runIn around.calm w =
        (.error (.missing (.rules rulesetId) ruleId), w) := by
      simp [Edit.perform, Rules.reorder, Attempt.runIn_bind, list_runIn h, hfind]
    rw [hrun]
    exact .of_error h (if_neg (mt mem_ids_map_of.mp hid))
  | some i =>
    obtain ⟨hi, hid, -⟩ := List.findIdx?_eq_some_iff_getElem.mp hfind
    have hentry : i < (rules.map Entry.of).length := by
      rwa [List.length_map]
    have hruleId : (rules.map Entry.of)[i].id = ruleId := by
      simpa [Entry.of] using hid
    have hmem : ruleId ∈ (rules.map Entry.of).map (·.id) :=
      List.mem_map.mpr ⟨_, List.getElem_mem hentry, hruleId⟩
    cases hother : neighbour i rules.length d with
    | none =>
      have hrun : ((Edit.move ruleId d).perform now rulesetId).runIn around.calm w =
          (.ok ruleId, w) := by
        simp [Edit.perform, Rules.reorder, Attempt.runIn_bind, list_runIn h, hfind, hother]
      rw [hrun]
      refine Simulates.of_ok h (fun _ _ => rfl) ?_
      have := move_of_neighbour_none hentry hentries (by rwa [List.length_map])
      rw [Edit.apply, if_pos hmem, ← hruleId, this]
    | some j =>
      have hrun : ((Edit.move ruleId d).perform now rulesetId).runIn around.calm w =
          (.ok ruleId, { w with
            store := w.store.setAll (.rules rulesetId)
              ((renumber now (swap rules i j)).map document) }) := by
        simp [Edit.perform, Rules.reorder, Attempt.runIn_bind, Except.map, list_runIn h, hfind,
          hother]
      rw [hrun]
      refine Simulates.of_put rfl (h.setAll (swap_perm hi hother) hn now) ?_
      have := move_of_neighbour_some hentry hentries (by rwa [List.length_map])
      rw [Edit.apply, if_pos hmem, ← hruleId, this,
        map_renumber Entry.of (fun _ _ _ => rfl), map_swap]

/-- Every change does to the rules of its ruleset what it does to their sequence. -/
theorem Edit.simulates (around : Surroundings) (e : Edit)
    (h : Ranked n (w.store.shelf (.rules rulesetId)) rules)
    (hn : n + e.made ≤ 0x7fffffffffffffff) :
    Simulates e now rulesetId n rules w ((e.perform now rulesetId).runIn around.calm w) := by
  cases e with
  | create draft => exact create_simulates h hn draft
  | update ruleId draft => exact update_simulates h draft
  | delete ruleId => exact delete_simulates h
  | move ruleId d => exact move_simulates h hn d

end OneChange

/-- A call about rulesets. -/
inductive RulesetCall where
  | create (draft : RulesetDraft)
  | update (id : String) (draft : RulesetDraft)
  | delete (id : String)
  | get (id : String)
  | list
  | listOfProject (projectId : String)
  | findByHash (hash : String)

/-- A call about rulesets, its result dropped. -/
def RulesetCall.perform (now : Time.Timestamp) : RulesetCall → Attempt StoreError Unit
  | create draft => do let _ ← Rulesets.create now draft
  | update id draft => do let _ ← Rulesets.update now id draft
  | delete id => Rulesets.delete id
  | get id => do let _ ← Rulesets.get id
  | list => do let _ ← Rulesets.list
  | listOfProject projectId => do let _ ← Rulesets.listOfProject projectId
  | findByHash hash => do let _ ← Rulesets.findByHash hash

/-- A call about rulesets asks about the collection of rulesets only. -/
theorem RulesetCall.only (now : Time.Timestamp) (call : RulesetCall) :
    (call.perform now).Only (Call.About .rulesets) := by
  cases call with
  | create draft => exact (Rulesets.only_create now draft).bind fun _ => Attempt.only_pure _
  | update id draft => exact (Rulesets.only_update now id draft).bind fun _ => Attempt.only_pure _
  | delete id => exact Rulesets.only_delete id
  | get id => exact (Rulesets.views_get id).about.bind fun _ => Attempt.only_pure _
  | list => exact Rulesets.views_list.about.bind fun _ => Attempt.only_pure _
  | listOfProject projectId =>
    exact (Rulesets.views_listOfProject projectId).about.bind fun _ => Attempt.only_pure _
  | findByHash hash => exact (Rulesets.views_findByHash hash).about.bind fun _ => Attempt.only_pure _

/-- A call about rulesets leaves the rules of all of them alone. -/
theorem RulesetCall.frame (around : Surroundings) (now : Time.Timestamp) (call : RulesetCall)
    (w : World) (rulesetId : String) :
    ((call.perform now).runIn around w).2.store.shelf (.rules rulesetId) =
      w.store.shelf (.rules rulesetId) :=
  Program.shelf_of_only around
    ((RulesetCall.only now call).mono fun _ h => h.written_ne (by simp)) w

/-! ## Runs -/

/-- A call of the service at a time of the clock. -/
inductive Step where
  | edit (now : Time.Timestamp) (rulesetId : String) (edit : Edit)
  | ruleset (now : Time.Timestamp) (call : RulesetCall)

/-- How many rules a call makes. -/
def Step.made : Step → Nat
  | edit _ _ e => e.made
  | ruleset _ _ => 0

/-- How far a run has come: the world of the store, and the sequence of every ruleset. -/
structure Progress where
  world : World
  rulesOf : String → List Entry

namespace Progress

/-- Nothing is stored and all sequences are empty. -/
def start : Progress :=
  ⟨World.start, fun _ => []⟩

/-- One call later. A change that fails on the sequence leaves it as it is. -/
def next (around : Surroundings) (p : Progress) : Step → Progress
  | .edit now rulesetId e =>
    let (reply, world) := (e.perform now rulesetId).runIn around p.world
    let changed := e.apply now (reply.toOption.getD "") (p.rulesOf rulesetId)
    ⟨world, fun id => if id = rulesetId then changed.getD (p.rulesOf id) else p.rulesOf id⟩
  | .ruleset now call => ⟨((call.perform now).runIn around p.world).2, p.rulesOf⟩

/-- A whole run of calls later. -/
def after (around : Surroundings) (steps : List Step) : Progress :=
  steps.foldl (next around) start

/-- Every ruleset's shelf is ranked by rules that look like its sequence. -/
def Agrees (n : Nat) (p : Progress) : Prop :=
  ∀ rulesetId, ∃ rules, Ranked n (p.world.store.shelf (.rules rulesetId)) rules ∧
    rules.map Entry.of = p.rulesOf rulesetId

variable {around : Surroundings} {n : Nat} {p : Progress}

theorem Agrees.start : Agrees 0 start :=
  fun _ => ⟨[], Ranked.empty 0, rfl⟩

/-- A call keeps world and sequences in agreement. -/
theorem Agrees.next (h : Agrees n p) (step : Step) (hn : n + step.made ≤ 0x7fffffffffffffff) :
    Agrees (n + step.made) (p.next around.calm step) := by
  cases step with
  | edit now rulesetId e =>
    obtain ⟨rules, hranked, hrules⟩ := h rulesetId
    have hsim : Simulates e now rulesetId n rules p.world _ :=
      e.simulates around hranked hn
    intro id
    by_cases hid : id = rulesetId
    · subst hid
      obtain ⟨rules', hranked', hrules'⟩ := hsim.ranked
      refine ⟨rules', hranked', ?_⟩
      simpa [Progress.next, hrules] using hrules'
    · obtain ⟨others, hothers, hlook⟩ := h id
      refine ⟨others, ?_, by simpa [Progress.next, hid] using hlook⟩
      have hshelf := hsim.frame (.rules id) (by simpa using hid)
      change Ranked _ (((e.perform now rulesetId).runIn around.calm p.world).2.store.shelf _) _
      rw [hshelf]
      exact hothers.mono (Nat.le_add_right _ _)
  | ruleset now call =>
    intro id
    obtain ⟨rules, hranked, hrules⟩ := h id
    refine ⟨rules, ?_, hrules⟩
    change Ranked _ (((call.perform now).runIn around.calm p.world).2.store.shelf _) _
    rw [RulesetCall.frame]
    exact hranked

/-- World and sequences agree after every run that does not make too many rules. -/
theorem agrees_after (around : Surroundings) (steps : List Step)
    (hn : (steps.map Step.made).sum ≤ 0x7fffffffffffffff) :
    Agrees (steps.map Step.made).sum (after around.calm steps) := by
  suffices hall : ∀ n p, Agrees n p → n + (steps.map Step.made).sum ≤ 0x7fffffffffffffff →
      Agrees (n + (steps.map Step.made).sum) (steps.foldl (Progress.next around.calm) p) by
    have := hall 0 Progress.start Agrees.start (by omega)
    rwa [Nat.zero_add] at this
  clear hn
  induction steps with
  | nil => exact fun n p h _ => h
  | cons step steps ih =>
    intro n p h hle
    rw [List.map_cons, List.sum_cons, ← Nat.add_assoc] at hle ⊢
    exact ih _ _ (h.next step (by omega)) hle

end Progress

/-- After every run of calls on an empty store that makes fewer than `2 ^ 63 - 1` rules, the list of
the rules of a ruleset is the sequence the calls have led to, without anything skipped, its ranks
strictly ascending from one on; and the next change fails on the store exactly where it fails on
the sequence. -/
theorem list_eq_sequence (around : Surroundings) (steps : List Step)
    (hfew : (steps.map Step.made).sum < 0x7fffffffffffffff) (rulesetId : String) :
    let p := Progress.after around.calm steps
    (∃ rules, (Rules.list rulesetId).runIn around.calm p.world = (.ok ⟨rules, 0⟩, p.world) ∧
      rules.map Entry.of = p.rulesOf rulesetId ∧ Rule.Ascending rules ∧
      ∀ r ∈ rules, 1 ≤ r.order.value) ∧
    ∀ now e, let reply := ((Edit.perform now rulesetId e).runIn around.calm p.world).1
      reply.isOk = (e.apply now (reply.toOption.getD "") (p.rulesOf rulesetId)).isSome := by
  intro p
  obtain ⟨rules, hranked, hrules⟩ :=
    Progress.agrees_after around steps (Nat.le_of_lt hfew) rulesetId
  refine ⟨⟨rules, list_runIn hranked, hrules, hranked.ascending, hranked.positive⟩, ?_⟩
  intro now e
  have hmade : e.made ≤ 1 := by cases e <;> simp [Edit.made]
  have hsim : Simulates e now rulesetId _ rules p.world _ :=
    e.simulates around hranked (by omega)
  rw [← hrules]
  exact hsim.reply

/-- Two rules made one after the other are listed in this order. -/
theorem list_after_two_calls :
    let now : Time.Timestamp := ⟨⟨2024, 6, 1, by decide⟩, 12, 30, 0, 0, by decide⟩
    let around := Surroundings.plain ⟨⟨"u-1", by decide⟩, "Ada", "ada@example.com", none⟩
    let p := Progress.after around.calm
      [.edit now "a" (.create ⟨"first", "", "", []⟩), .ruleset now (.delete "a"),
        .edit now "a" (.create ⟨"second", "", "", []⟩)]
    ∃ rules, (Rules.list "a").runIn around.calm p.world = (.ok ⟨rules, 0⟩, p.world) ∧
      rules.map (·.name) = ["first", "second"] := by
  intro now around p
  obtain ⟨rules, hlist, hrules, -⟩ := (list_eq_sequence around
    [.edit now "a" (.create ⟨"first", "", "", []⟩), .ruleset now (.delete "a"),
      .edit now "a" (.create ⟨"second", "", "", []⟩)] (by decide) "a").1
  refine ⟨rules, hlist, ?_⟩
  have hnames : rules.map (·.name) = (rules.map Entry.of).map (·.name) := by
    rw [List.map_map]
    rfl
  rw [hnames, hrules]
  rfl

end Rulebook.Rules
