import Rulebook.Proofs.Site.Tokens
import Rulebook.Proofs.Site.Work
import Rulebook.Proofs.Store.WellFormed

/-!
# What is kept is well-formed

Requests write rulesets and rules by calls of the service, with content that came through a form
(`Site.Works.proper`), so the store stays well-formed from request to request
(`Scene.wellFormed_next`). `Tally` carries a run along with the number of rules that were made. The
main theorem says what this means for the documents: whatever was sent and whatever failed, each of
them reads, and no listing leaves one out (`kept_documents_well_formed`).
-/

namespace Rulebook

/-! ## What is submitted -/

theorem eq_ok_of_toOption_eq_some {ε α : Type} {r : Except ε α} {x : α} (h : r.toOption = some x) :
    r = .ok x := by
  cases r with
  | error e => cases h
  | ok y => exact congrArg Except.ok (Option.some.inj h)

namespace Site

/-- A submitted ruleset has come through its form. -/
theorem proper_of_submittedRuleset {r : Http.Request} {draft : RulesetDraft}
    (h : submittedRuleset r = some draft) : draft.Proper := by
  obtain ⟨pairs, -, h⟩ := Option.bind_eq_some_iff.mp h
  obtain ⟨form, -, h⟩ := Option.bind_eq_some_iff.mp h
  exact RulesetDraft.proper_of_draft (eq_ok_of_toOption_eq_some h)

/-- A submitted rule has come through its form. -/
theorem proper_of_submittedRule {r : Http.Request} {draft : RuleDraft}
    (h : submittedRule r = some draft) : draft.Proper := by
  obtain ⟨pairs, -, h⟩ := Option.bind_eq_some_iff.mp h
  exact RuleDraft.proper_of_draft (eq_ok_of_toOption_eq_some h)

/-- Visits make calls with proper content, at their time. -/
theorem Works.proper {v : Visit} {e : Endpoint} {step : Rules.Step} (h : Works v e step) :
    step.Proper v.now := by
  cases h with
  | rulesetCreate h => exact ⟨rfl, proper_of_submittedRuleset h⟩
  | rulesetUpdate id h => exact ⟨rfl, proper_of_submittedRuleset h⟩
  | rulesetDelete id => exact ⟨rfl, trivial⟩
  | ruleCreate rulesetId h => exact ⟨rfl, proper_of_submittedRule h⟩
  | ruleUpdate rulesetId ruleId h => exact ⟨rfl, proper_of_submittedRule h⟩
  | ruleDelete rulesetId ruleId => exact ⟨rfl, trivial⟩
  | ruleReorder rulesetId ruleId direction => exact ⟨rfl, trivial⟩

end Site

/-! ## One request -/

/-- The collection of a ruleset's rules has one more document after a rule is made. -/
theorem Rules.length_create (around : Surroundings) (w : World) (now : Time.Timestamp)
    (rulesetId : String) (draft : RuleDraft) :
    (((Step.edit now rulesetId (.create draft)).run around.calm w).store.shelf
        (.rules rulesetId)).documents.length =
      (w.store.shelf (.rules rulesetId)).documents.length + 1 := by
  obtain ⟨skipped, hlist⟩ := list_runIn_listed around w rulesetId
  have hcreate : (Rules.create now rulesetId draft).runIn around.calm w =
      (kind.make (.rules rulesetId) Rule.toJson
        (fresh now (rankAfter ((Rule.sort (listed w.store rulesetId)).map (·.order)))
          draft)).runIn around.calm w := by
    rw [create_eq, Attempt.runIn_bind, hlist]
  rw [Step.run, Edit.perform, Attempt.world_bind_pure, hcreate]
  obtain ⟨id, next, -, hfree, hmake⟩ := writes.make_runIn (.rules rulesetId) around w
    (fresh now (rankAfter ((Rule.sort (listed w.store rulesetId)).map (·.order))) draft)
  rw [hmake]
  dsimp only
  rw [Store.shelf_set_self, Shelf.length_insert hfree]

namespace Scene

variable (s : Setting) (p : Scene) (t : Turn)

/-- How many rules a turn makes: by how much a request for a new rule makes its collection grow. -/
def made : Nat :=
  match t.endpoint with
  | some (.ruleCreate rulesetId) =>
    ((p.next s t).world.store.shelf (.rules rulesetId)).documents.length -
      (p.world.store.shelf (.rules rulesetId)).documents.length
  | _ => 0

/-- A turn leaves rulesets and rules as they are and makes no rule, or it does a call with proper
content as if there were no outages, and makes as many rules as the call. -/
theorem kept_cases :
    (p.made s t = 0 ∧ ∀ c, c ≠ .userTokens →
      (p.next s t).world.store.shelf c = p.world.store.shelf c) ∨
    ∃ step : Rules.Step, step.Proper t.now ∧ p.made s t = step.made ∧ ∀ c, c ≠ .userTokens →
      (p.next s t).world.store.shelf c =
        (step.run (t.around s).calm p.world).store.shelf c := by
  have hkept := fun (c : Collection) (hc : c ≠ .userTokens) => p.kept_next s t hc
  have hsame : (∀ c, c ≠ .userTokens →
      (p.next s t).world.store.shelf c = p.world.store.shelf c) → p.made s t = 0 := by
    intro h
    unfold made
    split
    · rw [h _ (by simp), Nat.sub_self]
    · rfl
  cases hwork : p.work? t with
  | none =>
    rw [hwork] at hkept
    exact .inl ⟨hsame hkept, hkept⟩
  | some step =>
    rw [hwork] at hkept
    -- an outage leaves the call as it would be without, or prevents it
    rcases step.run_cases (t.around s) p.world with hrun | hrun
    · obtain ⟨e, he, hstep⟩ := Option.bind_eq_some_iff.mp hwork
      have hworks := Site.works_of_work? hstep
      have hcalm : ∀ c, c ≠ .userTokens → (p.next s t).world.store.shelf c =
          (step.run (t.around s).calm p.world).store.shelf c := by
        rw [← hrun]
        exact hkept
      refine .inr ⟨step, hworks.proper, ?_, hcalm⟩
      unfold made
      rw [he]
      cases hworks with
      | ruleCreate rulesetId h =>
        simp only
        rw [hcalm _ (by simp), Rules.length_create, Nat.add_sub_cancel_left]
        rfl
      | _ => rfl
    · have hunchanged : ∀ c, c ≠ .userTokens →
          (p.next s t).world.store.shelf c = p.world.store.shelf c := by
        intro c hc
        rw [hkept c hc]
        exact congrArg (fun w : World => w.store.shelf c) hrun
      exact .inl ⟨hsame hunchanged, hunchanged⟩

/-- No turn makes more than one rule. -/
theorem made_le_one : p.made s t ≤ 1 := by
  rcases p.kept_cases s t with ⟨hmade, -⟩ | ⟨step, -, hmade, -⟩
  · omega
  · rw [hmade]
    cases step with
    | edit now rulesetId e => cases e <;> simp [Rules.Step.made, Rules.Edit.made]
    | ruleset now call => exact Nat.zero_le 1

variable {s p t}

/-- A turn keeps the store well-formed. -/
theorem wellFormed_next {bound : Nat} (h : p.world.store.WellFormed bound t.now)
    (hroom : bound + p.made s t ≤ 0x7fffffffffffffff) :
    (p.next s t).world.store.WellFormed (bound + p.made s t) t.now := by
  have htokens : ((p.next s t).world.store.shelf .userTokens).Filled UserToken.toJson
      (·.owner.text) fun _ => True := by
    obtain ⟨created, hshelf⟩ := tokens_next s p t
    rw [hshelf]
    cases p.login? s t with
    | none => exact h.tokens
    | some login =>
      exact h.tokens.insert (x := ⟨login.token.text, login.user.id, created, t.now⟩) trivial
  rcases p.kept_cases s t with ⟨hmade, hshelf⟩ | ⟨step, hproper, hmade, hshelf⟩
  · rw [hmade]
    exact h.congr hshelf htokens
  · rw [hmade] at hroom ⊢
    exact (h.run (t.around s) hproper hroom).congr hshelf htokens

end Scene

/-! ## A run of requests -/

/-- The application and the number of rules that were made. -/
structure Tally where
  scene : Scene
  made : Nat

namespace Tally

/-- Nothing has happened. -/
def start : Tally :=
  ⟨Scene.start, 0⟩

/-- One request later. -/
def next (s : Setting) (l : Tally) (x : Sent) : Tally :=
  ⟨(l.scene.meeting x).next s x.turn, l.made + (l.scene.meeting x).made s x.turn⟩

/-- A run of requests later. -/
def after (s : Setting) (past : List Sent) : Tally :=
  past.foldl (next s) start

theorem after_concat (s : Setting) (past : List Sent) (x : Sent) :
    after s (past ++ [x]) = (after s past).next s x := by
  simp [after]

/-- There are not more rules made than requests sent. -/
theorem made_le (s : Setting) (past : List Sent) : (after s past).made ≤ past.length := by
  induction past using List.reverseRecOn with
  | nil => exact Nat.le_refl 0
  | append_singleton past x ih =>
    rw [after_concat, List.length_append, List.length_singleton]
    exact Nat.add_le_add ih (Scene.made_le_one s _ x.turn)

/-- The store is well-formed at every instant that is not before a reading of the clock. -/
theorem wellFormed_after (s : Setting) {past : List Sent}
    (hclock : past.Pairwise fun x y => x.turn.now.atMost y.turn.now = true)
    (hfew : (after s past).made ≤ 0x7fffffffffffffff) {latest : Time.Timestamp}
    (hlatest : ∀ x ∈ past, x.turn.now.atMost latest = true) :
    (after s past).scene.world.store.WellFormed (after s past).made latest := by
  -- what came before the last request is well-formed at the reading of this request
  induction past using List.reverseRecOn generalizing latest with
  | nil => exact .empty 0 latest
  | append_singleton past x ih =>
    rw [after_concat] at hfew ⊢
    obtain ⟨hpast, -, hbefore⟩ := List.pairwise_append.mp hclock
    have hmade : (after s past).made + ((after s past).scene.meeting x).made s x.turn ≤
        0x7fffffffffffffff := hfew
    have hwell : ((after s past).scene.meeting x).world.store.WellFormed (after s past).made
        x.turn.now :=
      ih hpast (by omega) fun y hy => hbefore y hy x List.mem_cons_self
    exact (Scene.wellFormed_next hwell hmade).mono (Nat.le_refl _) (hlatest x (by simp))

/-- If anything is kept, the store is well-formed at the latest reading of the clock. -/
theorem wellFormed_latest (s : Setting) {past : List Sent}
    (hclock : past.Pairwise fun x y => x.turn.now.atMost y.turn.now = true)
    (hfew : (after s past).made ≤ 0x7fffffffffffffff) {c : Collection} {d : Document}
    (hd : d ∈ ((after s past).scene.world.store.shelf c).documents) :
    ∃ x ∈ past.getLast?,
      (after s past).scene.world.store.WellFormed (after s past).made x.turn.now := by
  rcases past.eq_nil_or_concat' with rfl | ⟨before, x, rfl⟩
  · exact absurd hd Shelf.mem_empty
  · refine ⟨x, by simp, wellFormed_after s hclock hfew fun y hy => ?_⟩
    obtain ⟨-, -, hbefore⟩ := List.pairwise_append.mp hclock
    rcases List.mem_append.mp hy with hy | hy
    · exact hbefore y hy x List.mem_cons_self
    · rw [List.mem_singleton.mp hy]
      exact x.turn.now.atMost_refl

end Tally

/-! ## The documents of a run -/

/-- A document keeps a value: its body is an object and reads as the value, and the key, the id in
the body and the id of the value are one. -/
structure Document.Keeps {α : Type} (read : Json.Raw → Json.Decode α) (idOf : α → String)
    (d : Document) (x : α) : Prop where
  isObject : ∃ members, d.fields = .object members
  id_fields : d.fields.get? "id" = some (.string d.id)
  read_fields : Json.decodeWith read d.fields = .ok x
  idOf_eq : idOf x = d.id

theorem Ruleset.keeps_toJson (r : Ruleset) :
    Document.Keeps Ruleset.read (·.id) ⟨r.id, r.toJson⟩ r where
  isObject := ⟨_, rfl⟩
  id_fields := by simp [toJson, RulesetOf.write, Json.get?, Json.memberOf]
  read_fields := r.decode_toJson
  idOf_eq := rfl

theorem Rule.keeps_toJson (r : Rule) : Document.Keeps Rule.read (·.id) ⟨r.id, r.toJson⟩ r where
  isObject := ⟨_, rfl⟩
  id_fields := by simp [toJson, RuleOf.write, Json.get?, Json.memberOf]
  read_fields := r.decode_toJson
  idOf_eq := rfl

/-- A listing of what is kept leaves nothing out, if the documents of a run are well-formed. -/
theorem Tally.skipped_eq_zero {s : Setting} {past : List Sent} {α : Type} {kind : DocumentKind α}
    {write : α → Json} {idOf : α → String} {P : Time.Timestamp → α → Prop} {c : Collection}
    (hclock : past.Pairwise fun x y => x.turn.now.atMost y.turn.now = true)
    (hfew : (after s past).made ≤ 0x7fffffffffffffff) (hw : kind.Writes write idOf)
    (hfilled : ∀ {bound latest} {store : Store}, store.WellFormed bound latest →
      (store.shelf c).Filled write idOf (P latest)) (filter : Option FieldFilter) :
    (kind.listing ((after s past).scene.world.store.list c filter)).skipped = 0 := by
  refine DocumentKind.skipped_eq_zero_iff.mpr fun d hd => ?_
  have hmem : d ∈ ((after s past).scene.world.store.shelf c).documents := Shelf.mem_of_select hd
  obtain ⟨x, -, hwell⟩ := wellFormed_latest s hclock hfew hmem
  exact ((hfilled hwell).ofDocument? hw hmem).imp fun _ => And.left

theorem Attempt.listing_runIn {α : Type} {p : Attempt StoreError (Listing α)}
    {around : Surroundings} {w : World} {listing : Listing α}
    (hrun : p.runIn around w = (.ok listing, w)) (h : listing.skipped = 0) :
    p.runIn around w = (.ok ⟨listing.items, 0⟩, w) := by
  rw [hrun, ← h]

/-- **What is kept is well-formed.** After any run of requests to an empty application, whatever
cookies, forms, ids, outages and answers of the platform there were, if the clock did not go back
and fewer than `2 ^ 63 - 1` rules were made:

* every document of the rulesets and of the rules of a ruleset is an object under the id it says,
  and reads as a ruleset or rule with that id, whose content is such as forms let through and which
  was not changed before it was made nor after the latest reading of the clock;
* the rules of a ruleset have different ranks, from one on;
* every document of the tokens reads as a record for the user whose id is its key;
* every listing shows all documents. -/
theorem kept_documents_well_formed (s : Setting) (past : List Sent)
    (hclock : past.Pairwise fun x y => x.turn.now.atMost y.turn.now = true)
    (hfew : (Tally.after s past).made < 0x7fffffffffffffff) :
    let w := (Tally.after s past).scene.world
    (∀ d ∈ (w.store.shelf .rulesets).documents, ∃ r, d.Keeps Ruleset.read (·.id) r ∧
      ∃ x ∈ past.getLast?, r.Proper x.turn.now) ∧
    (∀ rulesetId, ∀ d ∈ (w.store.shelf (.rules rulesetId)).documents,
      ∃ r, d.Keeps Rule.read (·.id) r ∧ (∃ x ∈ past.getLast?, r.Proper x.turn.now) ∧
        1 ≤ r.order.value ∧
        ∀ e ∈ (w.store.shelf (.rules rulesetId)).documents, ∀ q, e.Keeps Rule.read (·.id) q →
          q.order = r.order → e = d) ∧
    (∀ d ∈ (w.store.shelf .userTokens).documents, ∃ record,
      Json.decodeWith UserToken.read d.fields = .ok record ∧ record.owner.text = d.id) ∧
    ∀ around : Surroundings, (∃ items, Rulesets.list.runIn around.calm w = (.ok ⟨items, 0⟩, w)) ∧
      (∀ projectId, ∃ items,
        (Rulesets.listOfProject projectId).runIn around.calm w = (.ok ⟨items, 0⟩, w)) ∧
      ∀ rulesetId, ∃ items,
        (Rules.list rulesetId).runIn around.calm w = (.ok ⟨items, 0⟩, w) := by
  intro w
  have hfew' := Nat.le_of_lt hfew
  have hskipped : ∀ filter, (Rulesets.kind.listing (w.store.list .rulesets filter)).skipped = 0 :=
    Tally.skipped_eq_zero hclock hfew' Rulesets.writes fun h => h.rulesets
  have hskippedRules : ∀ rulesetId,
      (Rules.kind.listing (w.store.list (.rules rulesetId) none)).skipped = 0 := fun rulesetId =>
    Tally.skipped_eq_zero hclock hfew' Rules.writes (fun h => h.rules rulesetId) none
  refine ⟨fun d hd => ?_, fun rulesetId d hd => ?_, fun d hd => ?_, fun around => ⟨?_, ?_, ?_⟩⟩
  · obtain ⟨x, hx, hwell⟩ := Tally.wellFormed_latest s hclock hfew' hd
    obtain ⟨r, rfl, hr⟩ := hwell.rulesets d hd
    exact ⟨r, r.keeps_toJson, x, hx, hr⟩
  · obtain ⟨x, hx, hwell⟩ := Tally.wellFormed_latest s hclock hfew' hd
    obtain ⟨rules, hranked⟩ := hwell.ranked rulesetId
    obtain ⟨r, rfl, hr⟩ := hwell.rules rulesetId d hd
    have hmem : r ∈ rules := hranked.mem_of_document_mem hd
    refine ⟨r, r.keeps_toJson, ⟨x, hx, hr⟩, hranked.positive r hmem, fun e he q hq horder => ?_⟩
    obtain ⟨q', rfl, -⟩ := hwell.rules rulesetId e he
    obtain rfl : q' = q := Except.ok.inj (q'.decode_toJson.symm.trans hq.read_fields)
    rw [hranked.eq_of_order_eq (hranked.mem_of_document_mem he) hmem horder]
  · obtain ⟨x, -, hwell⟩ := Tally.wellFormed_latest s hclock hfew' hd
    obtain ⟨record, rfl, -⟩ := hwell.tokens d hd
    exact ⟨record, record.decode_toJson, rfl⟩
  · exact ⟨_, Attempt.listing_runIn rfl (hskipped none)⟩
  · exact fun projectId => ⟨_, Attempt.listing_runIn rfl (hskipped _)⟩
  · exact fun rulesetId => ⟨_, Attempt.listing_runIn rfl (hskippedRules rulesetId)⟩

/-- A signed-in user submits a ruleset and then a rule: both requests are in time, the ruleset is
kept, and it reads as one of a proper name. -/
theorem submitted_ruleset_reads :
    let ada : User := ⟨⟨"u-1", by decide⟩, "Ada", "ada@example.com", none⟩
    let cookie := (Standing.mk (some (.of ada)) none).entries
    let form (target body : String) : Sent :=
      ⟨{ Turn.plain 0 ada target with
        request := ⟨"POST", target, [("content-type", Http.Form.mediaType)],
          Text.Utf8.encode body⟩ }, some cookie⟩
    let past := [form "/rulesets" "name=+Walls+&projectId=p-1",
      form "/rulesets/doc001/rules" "name=thick"]
    (past.Pairwise fun x y => x.turn.now.atMost y.turn.now = true) ∧
      (Tally.after .plain past).made < 0x7fffffffffffffff ∧
      ∃ d ∈ ((Tally.after .plain past).scene.world.store.shelf .rulesets).documents,
        ∃ r, d.Keeps Ruleset.read (·.id) r ∧ Text.IsName r.name := by
  intro ada cookie form past
  have hclock : past.Pairwise fun x y => x.turn.now.atMost y.turn.now = true := by decide
  have hfew : (Tally.after .plain past).made < 0x7fffffffffffffff :=
    Nat.lt_of_le_of_lt (Tally.made_le .plain past) (by decide)
  have hlength : ((Tally.after .plain past).scene.world.store.shelf .rulesets).documents.length =
      1 := by decide +kernel
  obtain ⟨d, hd⟩ := List.exists_mem_of_length_pos (Nat.lt_of_lt_of_eq Nat.one_pos hlength.symm)
  obtain ⟨r, hkeeps, x, -, hr⟩ := (kept_documents_well_formed .plain past hclock hfew).1 d hd
  exact ⟨hclock, hfew, d, hd, r, hkeeps, hr.name⟩

end Rulebook
