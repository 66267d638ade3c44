import Rulebook.Proofs.Rule.Step
import Rulebook.Proofs.Site.Run

/-!
# What a request does to the rulesets and rules

Seven endpoints write rulesets or rules, each by one call of the service. `Site.work?` says which
call that is, if the visitor is signed in and what is submitted is in good shape; all other visits
only look. So the shelves of rulesets and rules after a request are those after this one call, or
those before (`Scene.kept_next`).
-/

namespace Rulebook

/-! ## The call an endpoint makes -/

namespace Site

/-- The call of the service by which a visit to an endpoint may change rulesets or rules, if there
is one. -/
def work? (v : Visit) : Endpoint → Option Rules.Step
  | .rulesetCreate => do
    let _ ← v.session.user?
    let draft ← submittedRuleset v.request
    return .ruleset v.now (.create draft)
  | .rulesetUpdate id => do
    let _ ← v.session.user?
    let draft ← submittedRuleset v.request
    return .ruleset v.now (.update id draft)
  | .rulesetDelete id => do
    let _ ← v.session.user?
    return .ruleset v.now (.delete id)
  | .ruleCreate rulesetId => do
    let _ ← v.session.user?
    let draft ← submittedRule v.request
    return .edit v.now rulesetId (.create draft)
  | .ruleUpdate rulesetId ruleId => do
    let _ ← v.session.user?
    let draft ← submittedRule v.request
    return .edit v.now rulesetId (.update ruleId draft)
  | .ruleDelete rulesetId ruleId => do
    let _ ← v.session.user?
    return .edit v.now rulesetId (.delete ruleId)
  | .ruleReorder rulesetId ruleId => do
    let text ← (Http.queryField v.query "direction").toOption
    let _ ← v.session.user?
    let direction ← Direction.parse? (text.getD "")
    return .edit v.now rulesetId (.move ruleId direction)
  | _ => none

/-- The calls that visits to endpoints make, with what a visitor submits for them. -/
inductive Works (v : Visit) : Endpoint → Rules.Step → Prop
  | rulesetCreate {draft : RulesetDraft} (h : submittedRuleset v.request = some draft) :
    Works v .rulesetCreate (.ruleset v.now (.create draft))
  | rulesetUpdate (id : String) {draft : RulesetDraft} (h : submittedRuleset v.request = some draft) :
    Works v (.rulesetUpdate id) (.ruleset v.now (.update id draft))
  | rulesetDelete (id : String) : Works v (.rulesetDelete id) (.ruleset v.now (.delete id))
  | ruleCreate (rulesetId : String) {draft : RuleDraft} (h : submittedRule v.request = some draft) :
    Works v (.ruleCreate rulesetId) (.edit v.now rulesetId (.create draft))
  | ruleUpdate (rulesetId ruleId : String) {draft : RuleDraft}
    (h : submittedRule v.request = some draft) :
    Works v (.ruleUpdate rulesetId ruleId) (.edit v.now rulesetId (.update ruleId draft))
  | ruleDelete (rulesetId ruleId : String) :
    Works v (.ruleDelete rulesetId ruleId) (.edit v.now rulesetId (.delete ruleId))
  | ruleReorder (rulesetId ruleId : String) (direction : Direction) :
    Works v (.ruleReorder rulesetId ruleId) (.edit v.now rulesetId (.move ruleId direction))

theorem works_of_work? {v : Visit} {e : Endpoint} {step : Rules.Step} (h : work? v e = some step) :
    Works v e step := by
  cases e with
  | rulesetCreate =>
    obtain ⟨-, -, h⟩ := Option.bind_eq_some_iff.mp h
    obtain ⟨draft, hdraft, ⟨⟩⟩ := Option.bind_eq_some_iff.mp h
    exact .rulesetCreate hdraft
  | rulesetUpdate id =>
    obtain ⟨-, -, h⟩ := Option.bind_eq_some_iff.mp h
    obtain ⟨draft, hdraft, ⟨⟩⟩ := Option.bind_eq_some_iff.mp h
    exact .rulesetUpdate id hdraft
  | rulesetDelete id =>
    obtain ⟨-, -, ⟨⟩⟩ := Option.bind_eq_some_iff.mp h
    exact .rulesetDelete id
  | ruleCreate rulesetId =>
    obtain ⟨-, -, h⟩ := Option.bind_eq_some_iff.mp h
    obtain ⟨draft, hdraft, ⟨⟩⟩ := Option.bind_eq_some_iff.mp h
    exact .ruleCreate rulesetId hdraft
  | ruleUpdate rulesetId ruleId =>
    obtain ⟨-, -, h⟩ := Option.bind_eq_some_iff.mp h
    obtain ⟨draft, hdraft, ⟨⟩⟩ := Option.bind_eq_some_iff.mp h
    exact .ruleUpdate rulesetId ruleId hdraft
  | ruleDelete rulesetId ruleId =>
    obtain ⟨-, -, ⟨⟩⟩ := Option.bind_eq_some_iff.mp h
    exact .ruleDelete rulesetId ruleId
  | ruleReorder rulesetId ruleId =>
    unfold work? at h
    obtain ⟨text, -, h⟩ := Option.bind_eq_some_iff.mp h
    obtain ⟨-, -, h⟩ := Option.bind_eq_some_iff.mp h
    obtain ⟨direction, -, ⟨⟩⟩ := Option.bind_eq_some_iff.mp h
    exact .ruleReorder rulesetId ruleId direction
  | _ => cases h

end Site

/-- A question that changes nothing that is kept. -/
def Call.Reads (q : Call) : Prop :=
  q.written? = none

theorem Call.Looks.reads {q : Call} (h : q.Looks) : q.Reads := by
  cases q with
  | platform call => exact h.elim
  | freshChallenge => exact h.elim
  | store call => cases call <;> first | exact h.elim | rfl

namespace Attempt

variable {ε α : Type}

/-- How a failure is told changes nothing. -/
theorem world_orRefuse (around : Surroundings) (w : World) (p : Attempt ε α) (refusal : Refusal) :
    ((p.orRefuse refusal).runIn around w).2 = (p.runIn around w).2 := by
  rw [orRefuse, runIn_orFail]

/-- What only looks, its failures told as a refusal, reads. -/
theorem Only.reads {p : Attempt ε α} (h : p.Only Call.Looks) (refusal : Refusal) :
    (p.orRefuse refusal).Only Call.Reads :=
  (h.mono fun _ => Call.Looks.reads).orRefuse refusal

/-- The platform is asked without a change to what is kept. -/
theorem only_platform {call : PlatformCall} {next : call.Answer → Except ε α} :
    (ExceptT.mk (.ask (.platform call) fun a => .done (next a)) : Attempt ε α).Only Call.Reads :=
  .ask rfl fun _ => .done _

end Attempt

/-- A program that only reads leaves the store as it was. -/
theorem Program.store_of_only {α : Type} (around : Surroundings) {p : Program α}
    (h : p.Only Call.Reads) (w : World) : (p.runIn around w).2.store = w.store := by
  refine congrArg Store.mk (funext fun c => shelf_of_only around (h.mono fun q hq => ?_) w)
  rw [show q.written? = none from hq]
  exact nofun

namespace Handling

/-- A handling that does to the store what a call of the service does, or nothing if there is no
such call. -/
def Does (step? : Option Rules.Step) (h : Handling) : Prop :=
  ∀ around w, (h.runIn around w).2.store = (step?.elim w (Rules.Step.run around w)).store

variable {v : Visit} {step? : Option Rules.Step}

theorem Does.of_reads {h : Handling} (hreads : h.Only Call.Reads) : Does none h :=
  fun around w => Program.store_of_only around hreads w

theorem Does.of_view {h : Handling} (hview : h.Only Call.KeptView) : Does none h :=
  .of_reads (hview.mono fun _ hq => hq.2.reads)

theorem Does.pure (response : Http.Response) : Does none (pure response) :=
  fun _ _ => rfl

theorem Does.throw (refusal : Refusal) : Does none (throw refusal) :=
  fun _ _ => rfl

/-- A call whose failures are told as refusals, and a response made of its result. -/
theorem Does.call {α : Type} {p : Attempt StoreError α} {refusal : Refusal}
    {respond : α → Http.Response} (step : Rules.Step)
    (hp : ∀ around w, step.run around w = (p.runIn around w).2) :
    Does (some step) (p.orRefuse refusal >>= fun x => Pure.pure (respond x)) := by
  intro around w
  rw [Attempt.world_bind_pure, Attempt.world_orRefuse, ← hp around w]
  rfl

theorem Does.forUser {page : User → Handling} (h : ∀ user, Does step? (page user)) :
    Does (v.session.user?.bind fun _ => step?) (v.forUser page) := by
  unfold Visit.forUser
  split
  · next hnone => exact hnone ▸ .pure _
  · next user hsome => exact hsome ▸ h user

theorem Does.forScript {answer : Handling} (h : Does step? answer) :
    Does (v.session.user?.bind fun _ => step?) (v.forScript answer) := by
  unfold Visit.forScript
  split
  · next hnone => exact hnone ▸ .throw _
  · next user hsome => exact hsome ▸ h

theorem Does.withRuleset {step? : RulesetDraft → Option Rules.Step} {act : RulesetDraft → Handling}
    (h : ∀ draft, Does (step? draft) (act draft)) :
    Does ((Site.submittedRuleset v.request).bind step?) (Site.withRuleset v act) := by
  unfold Site.withRuleset
  split
  · next draft hsome => exact hsome ▸ h draft
  · next hnone => exact hnone ▸ .throw _

theorem Does.withRule {step? : RuleDraft → Option Rules.Step} {act : RuleDraft → Handling}
    (h : ∀ draft, Does (step? draft) (act draft)) :
    Does ((Site.submittedRule v.request).bind step?) (Site.withRule v act) := by
  unfold Site.withRule
  split
  · next draft hsome => exact hsome ▸ h draft
  · next hnone => exact hnone ▸ .throw _

theorem Does.field {name : String} {step? : Option String → Option Rules.Step}
    {page : Option String → Handling} (h : ∀ text, Does (step? text) (page text)) :
    Does ((Http.queryField v.query name).toOption.bind step?) (v.field name >>= page) := by
  unfold Visit.field
  cases Http.queryField v.query name with
  | ok text => exact h text
  | error fault => exact .throw _

end Handling

namespace Site

open Handling (Does)

variable (v : Visit) (id rulesetId ruleId : String)

/-! ## Endpoints that write -/

theorem does_rulesetCreate : Does (work? v .rulesetCreate) (rulesetCreate v) :=
  .forUser fun _ => .withRuleset fun draft =>
    .call (.ruleset v.now (.create draft))
      fun around w => Attempt.world_bind_pure around w _ _

theorem does_rulesetUpdate : Does (work? v (.rulesetUpdate id)) (rulesetUpdate id v) :=
  .forUser fun _ => .withRuleset fun draft =>
    .call (.ruleset v.now (.update id draft))
      fun around w => Attempt.world_bind_pure around w _ _

theorem does_rulesetDelete : Does (work? v (.rulesetDelete id)) (rulesetDelete id v) :=
  .forScript (.call (.ruleset v.now (.delete id)) fun _ _ => rfl)

theorem does_ruleCreate : Does (work? v (.ruleCreate rulesetId)) (ruleCreate rulesetId v) :=
  .forUser fun _ => .withRule fun draft =>
    .call (.edit v.now rulesetId (.create draft))
      fun around w => Attempt.world_bind_pure around w _ _

theorem does_ruleUpdate :
    Does (work? v (.ruleUpdate rulesetId ruleId)) (ruleUpdate rulesetId ruleId v) :=
  .forUser fun _ => .withRule fun draft =>
    .call (.edit v.now rulesetId (.update ruleId draft))
      fun around w => Attempt.world_bind_pure around w _ _

theorem does_ruleDelete :
    Does (work? v (.ruleDelete rulesetId ruleId)) (ruleDelete rulesetId ruleId v) :=
  .forScript (.call (.edit v.now rulesetId (.delete ruleId))
    fun around w => Attempt.world_bind_pure around w _ _)

theorem does_ruleReorder :
    Does (work? v (.ruleReorder rulesetId ruleId)) (ruleReorder rulesetId ruleId v) := by
  unfold work? ruleReorder
  refine Does.field fun text => Does.forScript ?_
  cases Direction.parse? (text.getD "") with
  | none => exact .throw _
  | some direction =>
    exact .call (.edit v.now rulesetId (.move ruleId direction))
      fun around w => Attempt.world_bind_pure around w _ _

/-! ## Endpoints that read -/

open Attempt (Only only_platform only_pure only_throw)

theorem reads_forMember {page : User → BearerToken → Handling}
    (h : ∀ user token, (page user token).Only Call.Reads) :
    (forMember v page).Only Call.Reads := by
  refine v.only_forUser fun user => ?_
  refine ((only_storedToken user).mono fun _ => Call.Looks.reads).bind fun found => ?_
  cases found with
  | none => exact only_pure _
  | some token => exact h user token

theorem reads_home : (home v).Only Call.Reads := by
  unfold home
  split
  · exact only_pure _
  · next user huser =>
    refine ((only_storedToken user).mono fun _ => Call.Looks.reads).bind fun found => ?_
    cases found with
    | none => exact only_pure _
    | some token =>
      have hlist : (Attempt.listProjects token pageSize none).Only Call.Reads := only_platform
      refine hlist.outcome.bind fun answer => ?_
      cases answer <;> exact only_pure _

theorem reads_projectList : (projectList v).Only Call.Reads := by
  refine Only.bind (v.only_field _) fun cursor => reads_forMember v fun _ token => ?_
  have hlist : (Attempt.listProjects token pageSize (cursor.filter (· ≠ ""))).Only Call.Reads :=
    only_platform
  exact (hlist.orRefuse _).bind fun _ => only_pure _

theorem reads_projectSearch : (projectSearch v).Only Call.Reads := by
  refine Only.bind (v.only_field _) fun q => reads_forMember v fun _ token => ?_
  dsimp only
  split
  · exact only_pure _
  · have hsearch : (Attempt.searchProjects token (Text.trim (q.getD "")) searchLimit
        searchLimit).Only Call.Reads := only_platform
    exact (hsearch.orRefuse _).bind fun _ => only_pure _

theorem reads_projectDetail (projectId : String) :
    (projectDetail projectId v).Only Call.Reads := by
  refine reads_forMember v fun _ token => ?_
  have hdetails : (Attempt.projectDetails token projectId).Only Call.Reads := only_platform
  exact (hdetails.orRefuse _).bind fun _ =>
    ((Rulesets.views_listOfProject projectId).looks.reads _).bind fun _ => only_pure _

end Site

/-! ## One request -/

/-- An endpoint outside the login does what its call does, and leaves the session alone. -/
theorem Application.handle_does (app : Application) (trace : TraceId) (v : Visit) {e : Endpoint}
    (hstart : e ≠ .loginStart) (hcallback : e ≠ .loginCallback) (hlogout : e ≠ .logout) :
    ∃ h, Handling.Does (Site.work? v e) h ∧ app.handle trace v e = settle trace v h := by
  cases e with
  | loginStart => exact absurd rfl hstart
  | loginCallback => exact absurd rfl hcallback
  | logout => exact absurd rfl hlogout
  | ready => exact ⟨pure _, .pure _, rfl⟩
  | live => exact ⟨pure _, .pure _, rfl⟩
  | home => exact ⟨_, .of_reads (Site.reads_home v), rfl⟩
  | projectSearch => exact ⟨_, .of_reads (Site.reads_projectSearch v), rfl⟩
  | projects => exact ⟨_, .of_reads (Site.reads_projectList v), rfl⟩
  | project id => exact ⟨_, .of_reads (Site.reads_projectDetail v id), rfl⟩
  | rulesets => exact ⟨_, .of_view (Site.views_rulesetList v), rfl⟩
  | rulesetNew => exact ⟨_, .of_view (Site.views_rulesetNew v), rfl⟩
  | rulesetEdit id => exact ⟨_, .of_view (Site.views_rulesetEdit v id), rfl⟩
  | rulesetCreate => exact ⟨_, Site.does_rulesetCreate v, rfl⟩
  | rulesetUpdate id => exact ⟨_, Site.does_rulesetUpdate v id, rfl⟩
  | rulesetDelete id => exact ⟨_, Site.does_rulesetDelete v id, rfl⟩
  | ruleNew rulesetId => exact ⟨_, .of_view (Site.views_ruleNew v rulesetId), rfl⟩
  | ruleEdit rulesetId ruleId => exact ⟨_, .of_view (Site.views_ruleEdit v rulesetId ruleId), rfl⟩
  | ruleCreate rulesetId => exact ⟨_, Site.does_ruleCreate v rulesetId, rfl⟩
  | ruleUpdate rulesetId ruleId => exact ⟨_, Site.does_ruleUpdate v rulesetId ruleId, rfl⟩
  | ruleDelete rulesetId ruleId => exact ⟨_, Site.does_ruleDelete v rulesetId ruleId, rfl⟩
  | ruleReorder rulesetId ruleId => exact ⟨_, Site.does_ruleReorder v rulesetId ruleId, rfl⟩
  | «export» hash => exact ⟨_, .of_view (Site.views_export v hash), rfl⟩

namespace Scene

variable (s : Setting) (p : Scene) (t : Turn)

/-- The call of the service by which a turn may change rulesets or rules, if there is one. -/
def work? : Option Rules.Step :=
  t.endpoint.bind (Site.work? ⟨t.request, p.session t, t.now⟩)

theorem work?_of_endpoint {e : Endpoint} (h : t.endpoint = some e) :
    p.work? t = Site.work? ⟨t.request, p.session t, t.now⟩ e := by
  rw [work?, h]
  rfl

/-- Outside the end of a login the store is after a turn what it is after its call, or what it was
before. -/
theorem store_next (hcallback : t.endpoint ≠ some .loginCallback) :
    (p.next s t).world.store =
      ((p.work? t).elim p.world (Rules.Step.run (t.around s) p.world)).store := by
  rw [world_next]
  cases he : t.endpoint with
  | none =>
    have hvisit := (t.application s).visit_of_none t.traceId ⟨t.request, p.session t, t.now⟩ he
    rw [handled, hvisit, work?, he]
    rfl
  | some e =>
    rw [p.work?_of_endpoint t he]
    by_cases hstart : e = .loginStart
    · subst hstart
      rcases handled_loginStart s p t he with ⟨_, -, h⟩ | ⟨_, -, h⟩ <;> rw [h] <;> rfl
    by_cases hlogout : e = .logout
    · subst hlogout
      rw [handled_logout s p t he]
      rfl
    obtain ⟨h, hdoes, hhandle⟩ := (t.application s).handle_does t.traceId
      ⟨t.request, p.session t, t.now⟩ hstart (fun heq => hcallback (heq ▸ he)) hlogout
    obtain ⟨response, hsettle⟩ := Application.settle_runIn t.traceId
      ⟨t.request, p.session t, t.now⟩ (t.around s) h p.world
    rw [handled_of_endpoint s p t he, hhandle, hsettle]
    exact hdoes (t.around s) p.world

/-- The end of a login keeps the token of the user who logs in, if it is completed. -/
theorem store_next_of_callback (hcallback : t.endpoint = some .loginCallback) :
    ∃ created, (p.next s t).world.store =
      match p.login? s t with
      | none => p.world.store
      | some login => p.world.store.set .userTokens login.user.id.text
          (UserToken.toJson ⟨login.token.text, login.user.id, created, t.now⟩) := by
  rw [world_next]
  cases hcode : t.accessCode with
  | error fault =>
    have hnone : p.login? s t = none := by simp [login?, hcallback, hcode]
    rw [handled_loginCallback_of_error s p t hcallback hcode, hnone]
    exact ⟨t.now, rfl⟩
  | ok raw =>
    obtain ⟨created, response, -, -, h⟩ := handled_loginCallback s p t hcallback hcode
    refine ⟨created, ?_⟩
    cases hlogin : p.login? s t with
    | none => simp only [h, hlogin]
    | some login => simp only [h, hlogin]

/-- **A request does one call of the service at most.** Rulesets and rules are after a turn what
they are after its call, or what they were before. -/
theorem kept_next {c : Collection} (hc : c ≠ .userTokens) :
    (p.next s t).world.store.shelf c =
      ((p.work? t).elim p.world (Rules.Step.run (t.around s) p.world)).store.shelf c := by
  by_cases hcallback : t.endpoint = some .loginCallback
  · obtain ⟨created, h⟩ := store_next_of_callback s p t hcallback
    rw [h, p.work?_of_endpoint t hcallback]
    cases p.login? s t with
    | none => rfl
    | some login => exact Store.shelf_put_ne _ _ hc
  · rw [store_next s p t hcallback]

end Scene

end Rulebook
