import Rulebook.Proofs.Site.Challenges
import Rulebook.Proofs.Site.Work
import Rulebook.Proofs.Store.Change

/-!
# What a request may change

Every request has its frame: a read changes no document, each of the seven writes changes what its
path names, and the end of a login changes at most the token of the user it received
(`requests_stay_in_frame`). Ids in a path may be any text. That they cannot lead into another
collection rests on the paths of collections being different for different ids.
-/

namespace Rulebook

namespace Endpoint

/-- What a request may change in the store, by what it asks for. -/
def Frame : Endpoint → Store → Store → Prop
  | rulesetCreate => Store.Adds "rulesets"
  | rulesetUpdate id | rulesetDelete id => Store.ChangesAt "rulesets" id
  | ruleCreate rulesetId => Store.Adds ("rulesets/" ++ rulesetId ++ "/rules")
  | ruleUpdate rulesetId ruleId | ruleDelete rulesetId ruleId =>
    Store.ChangesAt ("rulesets/" ++ rulesetId ++ "/rules") ruleId
  | ruleReorder rulesetId _ => Store.Rewrites ("rulesets/" ++ rulesetId ++ "/rules")
  | loginCallback => fun before after => ∃ userId, Store.ChangesAt "userTokens" userId before after
  | _ => fun before after => after = before

/-- The ruleset whose rules a request may change. -/
def rulesetOfRules? : Endpoint → Option String
  | ruleCreate rulesetId | ruleUpdate rulesetId _ | ruleDelete rulesetId _
  | ruleReorder rulesetId _ => some rulesetId
  | _ => none

variable {e : Endpoint} {before after : Store}

theorem Frame.refl (e : Endpoint) (s : Store) : e.Frame s s := by
  cases e with
  | rulesetCreate => exact Or.inl rfl
  | rulesetUpdate id => exact Store.ChangesAt.refl _ _ s
  | rulesetDelete id => exact Store.ChangesAt.refl _ _ s
  | ruleCreate rulesetId => exact Or.inl rfl
  | ruleUpdate rulesetId ruleId => exact Store.ChangesAt.refl _ _ s
  | ruleDelete rulesetId ruleId => exact Store.ChangesAt.refl _ _ s
  | ruleReorder rulesetId ruleId => exact Store.Rewrites.refl _ s
  | loginCallback => exact ⟨"", .refl _ _ _⟩
  | _ => rfl

/-- The rules of a ruleset are outside the frames of all requests but those for these rules. -/
theorem Frame.rules_kept (h : e.Frame before after) {id : String}
    (hother : e.rulesetOfRules? ≠ some id) (ruleId : String) :
    after.body? ("rulesets/" ++ id ++ "/rules") ruleId =
      before.body? ("rulesets/" ++ id ++ "/rules") ruleId := by
  have hpath : ∀ {c : Collection}, c ≠ .rules id → (Collection.rules id).path ≠ c.path :=
    fun hne heq => hne (Collection.path_injective heq).symm
  have hrules : ∀ {rulesetId}, e.rulesetOfRules? = some rulesetId →
      (Collection.rules id).path ≠ (Collection.rules rulesetId).path :=
    fun heq => hpath fun hsame => hother (by rw [heq, Collection.rules.inj hsame])
  cases e with
  | rulesetCreate => exact Store.Adds.elsewhere h (hpath (c := .rulesets) (by simp)) _
  | rulesetUpdate i => exact Store.ChangesAt.elsewhere h (hpath (c := .rulesets) (by simp)) _
  | rulesetDelete i => exact Store.ChangesAt.elsewhere h (hpath (c := .rulesets) (by simp)) _
  | ruleCreate rulesetId => exact Store.Adds.elsewhere h (hrules rfl) _
  | ruleUpdate rulesetId i => exact Store.ChangesAt.elsewhere h (hrules rfl) _
  | ruleDelete rulesetId i => exact Store.ChangesAt.elsewhere h (hrules rfl) _
  | ruleReorder rulesetId i => exact h.1 _ _ (hrules rfl)
  | loginCallback =>
    obtain ⟨userId, hchange⟩ := h
    exact hchange.elsewhere (hpath (c := .userTokens) (by simp)) _
  | _ => rw [show after = before from h]

theorem exists_of_with1 {make : String → Endpoint} {segment : String}
    (h : with1 make segment = some e) : ∃ id, make id = e := by
  unfold with1 at h
  split at h
  · cases h
  · exact ⟨_, Option.some.inj h⟩

theorem exists_of_with2 {make : String → String → Endpoint} {first second : String}
    (h : with2 make first second = some e) : ∃ id id', make id id' = e := by
  unfold with2 at h
  split at h
  · cases h
  · exact ⟨_, _, Option.some.inj h⟩

/-- Nothing that is asked for with `GET` makes a call that writes. -/
theorem work?_of_get {path : List Char} (h : find? "GET" path = some e) (v : Visit) :
    Site.work? v e = none := by
  unfold find? at h
  split at h
  · rw [if_pos rfl] at h
    unfold ofGet at h
    split at h
    all_goals first
      | cases h <;> rfl
      | obtain ⟨id, rfl⟩ := exists_of_with1 h; rfl
      | obtain ⟨id, id', rfl⟩ := exists_of_with2 h; rfl
  · cases h

end Endpoint

/-- The call that a visit makes stays in the frame of what it asks for. -/
theorem Site.Works.frame {v : Visit} {e : Endpoint} {step : Rules.Step} (h : Works v e step)
    (around : Surroundings) (w : World) : e.Frame w.store (step.run around w).store := by
  cases h with
  | rulesetCreate =>
    rw [Rules.Step.run, Rules.RulesetCall.perform, Attempt.world_bind_pure]
    exact Rulesets.adds_create around w _ _
  | rulesetUpdate id =>
    rw [Rules.Step.run, Rules.RulesetCall.perform, Attempt.world_bind_pure]
    exact Rulesets.changesAt_update around w _ _ _
  | rulesetDelete id => exact Attempt.changesAt_delete around w .rulesets id
  | ruleCreate rulesetId =>
    rw [Rules.Step.run, Rules.Edit.perform, Attempt.world_bind_pure]
    exact Rules.adds_create around w _ _ _
  | ruleUpdate rulesetId ruleId =>
    rw [Rules.Step.run, Rules.Edit.perform, Attempt.world_bind_pure]
    exact Rules.changesAt_update around w _ _ _ _
  | ruleDelete rulesetId ruleId =>
    rw [Rules.Step.run, Rules.Edit.perform, Attempt.world_bind_pure]
    exact Attempt.changesAt_delete around w (.rules rulesetId) ruleId
  | ruleReorder rulesetId ruleId direction =>
    rw [Rules.Step.run, Rules.Edit.perform, Attempt.world_bind_pure]
    exact Rules.rewrites_reorder around w _ _ _ _

namespace Scene

variable (s : Setting) (p : Scene) (t : Turn)

/-- The end of a login changes at most the token of the user it received from the platform. -/
theorem changesAt_of_callback (h : t.endpoint = some .loginCallback) :
    (p.next s t).world.store = p.world.store ∨
      ∃ token user, .activeUser token ∈ p.questions s t ∧
        t.platform.answer (.activeUser token) = .ok user ∧
        Store.ChangesAt "userTokens" user.id.text p.world.store (p.next s t).world.store := by
  obtain ⟨created, hstore⟩ := store_next_of_callback s p t h
  rw [hstore]
  cases hlogin : p.login? s t with
  | none => exact .inl rfl
  | some login =>
    obtain ⟨-, raw, c, k, ch, -, -, huser, -⟩ := of_login hlogin
    obtain ⟨c, k, ch, -, hquestions⟩ := questions_of_login hlogin
    refine .inr ⟨login.token, login.user, ?_, huser, p.world.store.changesAt_set .userTokens _ _⟩
    rw [hquestions]
    exact List.mem_cons_self

/-- A request stays in its frame. -/
theorem frame_next {e : Endpoint} (h : t.endpoint = some e) :
    e.Frame p.world.store (p.next s t).world.store := by
  by_cases hcallback : e = .loginCallback
  · subst hcallback
    rcases changesAt_of_callback s p t h with hsame | ⟨-, user, -, -, hchange⟩
    · rw [hsame]
      exact .refl _ _
    · exact ⟨user.id.text, hchange⟩
  · rw [store_next s p t fun heq => hcallback (Option.some.inj (h.symm.trans heq)),
      p.work?_of_endpoint t h]
    cases hwork : Site.work? ⟨t.request, p.session t, t.now⟩ e with
    | none => exact .refl _ _
    | some step => exact (Site.works_of_work? hwork).frame (t.around s) p.world

end Scene

/-- Whatever the store, the session and the answers of the platform are, a `GET` that does not end
a login changes no document, and so does a request for nothing there is; the end of a login changes
at most the token of the user whose profile it received; every other request changes at most what
its path names. In particular the rules of a ruleset are changed by requests for these rules only,
and stay when their ruleset is deleted. -/
theorem requests_stay_in_frame (s : Setting) (p : Scene) (t : Turn) :
    let before := p.world.store
    let after := (p.next s t).world.store
    (t.request.method = "GET" → t.endpoint ≠ some .loginCallback → after = before) ∧
    (t.endpoint = none → after = before) ∧
    (t.endpoint = some .loginCallback → after = before ∨
      ∃ token user, .activeUser token ∈ p.questions s t ∧
        t.platform.answer (.activeUser token) = .ok user ∧
        Store.ChangesAt "userTokens" user.id.text before after) ∧
    (∀ e, t.endpoint = some e → e.Frame before after) ∧
    ∀ id, (∀ e, t.endpoint = some e → e.rulesetOfRules? ≠ some id) → ∀ ruleId,
      after.body? ("rulesets/" ++ id ++ "/rules") ruleId =
        before.body? ("rulesets/" ++ id ++ "/rules") ruleId := by
  intro before after
  have hnone : t.endpoint = none → after = before := fun h => by
    refine (p.store_next s t (by simp [h])).trans ?_
    rw [Scene.work?, h]
    rfl
  refine ⟨fun hget hcallback => ?_, hnone, p.changesAt_of_callback s t, fun e => p.frame_next s t,
    fun id hother ruleId => ?_⟩
  · cases he : t.endpoint with
    | none => exact hnone he
    | some e =>
      have hfind : Endpoint.find? "GET" (Http.splitTarget t.request.target).1 = some e := hget ▸ he
      refine (p.store_next s t hcallback).trans ?_
      rw [p.work?_of_endpoint t he, Endpoint.work?_of_get hfind]
      rfl
  · cases he : t.endpoint with
    | none => rw [hnone he]
    | some e => exact (p.frame_next s t he).rules_kept (hother e he) ruleId

end Rulebook
