import Rulebook.Proofs.Http.Header
import Rulebook.Proofs.Program.CleanFailure
import Rulebook.Proofs.Site.Anonymous
import Rulebook.Proofs.Site.Work

/-!
# What is behind an answer that tells of an error

A handling that writes ends in a response below 400, or it fails before anything is written
(`Handling.Spares`). So an error status tells that no document has been changed, whatever the store,
the session and the answers of the platform are, but for two kinds of requests whose response is
lost after the write: a submitted rule that should lead back to a ruleset whose id cannot stand in a
header (`Endpoint.Misdirected`), and the end of a login whose session is too long to be saved
(`Scene.Unsavable`). For these `error_answers_leave_documents` says what is written all the same.
-/

namespace Rulebook

/-! ## Addresses and statuses -/

namespace Http

theorem Response.status_redirect (location : String) :
    (redirect location).status = if isHeaderValue location then 302 else 500 := by
  unfold redirect withHeader
  split <;> rfl

end Http

theorem Site.isHeaderValue_editAddress (rulesetId : String) :
    Http.isHeaderValue (editAddress rulesetId) = Http.isHeaderValue rulesetId := by
  have hfirst : Http.isHeaderValue "/rulesets/" = true := by decide
  have hlast : Http.isHeaderValue "/edit" = true := by decide
  rw [editAddress, Http.isHeaderValue_append, Http.isHeaderValue_append, hfirst, hlast,
    Bool.true_and, Bool.and_true]

theorem Refusal.status_internal (trace : TraceId) (message : String) :
    ((internal message).response trace).status = 500 := by
  rcases Http.Response.status_withHeader
    (.of 500 Http.Response.htmlType (Page.failure 500 message (some trace.render)).render)
    traceHeader trace.render with h | h
  · exact h
  · exact h

theorem Application.status_finish (trace : TraceId) (cookie : Option (List (String × Json)))
    (response : Http.Response) (session : Session) :
    (finish trace cookie response session).response.status =
      if session.canSave then response.status else 500 := by
  unfold finish
  split <;> rfl

/-! ## Handlings -/

/-- The response that comes of a handling, a refusal told under a trace id. -/
def Handling.answer (trace : TraceId) : Except Refusal Http.Response → Http.Response
  | .ok response => response
  | .error refusal => refusal.response trace

theorem Application.settle_runIn_answer (trace : TraceId) (v : Visit) (around : Surroundings)
    (h : Handling) (w : World) :
    (settle trace v h).runIn around w =
      ((Handling.answer trace (h.runIn around w).1, v.session), (h.runIn around w).2) := by
  rw [settle, Program.runIn_bind, Attempt.runIn]
  rcases Program.runIn around h.run w with ⟨refusal | response, w'⟩ <;> rfl

namespace Handling

open Attempt (FailsCleanly)

variable {v : Visit}

/-- A handling that leaves the store as it was unless its response has a status below 400. -/
def Spares (h : Handling) : Prop :=
  ∀ around w, (∀ response, (h.runIn around w).1 = .ok response → 400 ≤ response.status) →
    (h.runIn around w).2.store = w.store

theorem Spares.pure (response : Http.Response) : Spares (pure response) :=
  fun _ _ _ => rfl

theorem Spares.throw (refusal : Refusal) : Spares (throw refusal) :=
  fun _ _ _ => rfl

/-- A call that fails cleanly, and a response below 400 when it does not fail. -/
theorem Spares.call {α : Type} {p : Attempt StoreError α} (hp : p.FailsCleanly)
    (refusal : Refusal) {respond : α → Http.Response} (hrespond : ∀ x, (respond x).status < 400) :
    Spares (p.orRefuse refusal >>= fun x => Pure.pure (respond x)) := by
  intro around w hstatus
  rw [Attempt.world_bind_pure, Attempt.world_orRefuse]
  rcases hrun : p.runIn around w with ⟨e | x, w'⟩
  · rw [← show (p.runIn around w).2 = w' by rw [hrun]]
    exact hp around w e (by rw [hrun])
  · have hok : ((p.orRefuse refusal >>= fun x => Pure.pure (respond x)).runIn around w).1 =
        .ok (respond x) := by
      rw [Attempt.runIn_bind, Attempt.orRefuse, Attempt.runIn_orFail, hrun]
      rfl
    exact absurd (hrespond x) (Nat.not_lt.mpr (hstatus _ hok))

theorem Spares.forUser {page : User → Handling} (h : ∀ user, Spares (page user)) :
    Spares (v.forUser page) := by
  unfold Visit.forUser
  split
  · exact .pure _
  · exact h _

theorem Spares.forScript {answer : Handling} (h : Spares answer) : Spares (v.forScript answer) := by
  unfold Visit.forScript
  split
  · exact .throw _
  · exact h

theorem Spares.withRuleset {act : RulesetDraft → Handling} (h : ∀ draft, Spares (act draft)) :
    Spares (Site.withRuleset v act) := by
  unfold Site.withRuleset
  split
  · exact h _
  · exact .throw _

theorem Spares.withRule {act : RuleDraft → Handling} (h : ∀ draft, Spares (act draft)) :
    Spares (Site.withRule v act) := by
  unfold Site.withRule
  split
  · exact h _
  · exact .throw _

theorem Spares.field {name : String} {page : Option String → Handling}
    (h : ∀ text, Spares (page text)) : Spares (v.field name >>= page) := by
  unfold Visit.field
  cases Http.queryField v.query name with
  | ok text => exact h text
  | error fault => exact .throw _

end Handling

/-- A request whose answer should lead back to a ruleset whose id cannot stand in a header. -/
def Endpoint.Misdirected : Endpoint → Prop
  | ruleCreate rulesetId | ruleUpdate rulesetId _ => Http.isHeaderValue rulesetId = false
  | _ => False

/-- A request that makes a call is handled so that an error status tells of no change. -/
theorem Site.Works.spares {v : Visit} {e : Endpoint} {step : Rules.Step} (h : Works v e step)
    (hpath : ¬ e.Misdirected) (app : Application) (trace : TraceId) :
    ∃ handling, Handling.Spares handling ∧
      app.handle trace v e = Application.settle trace v handling := by
  have hback : ∀ rulesetId, ¬ Http.isHeaderValue rulesetId = false →
      (Http.Response.redirect (editAddress rulesetId)).status < 400 := fun rulesetId hwritable => by
    rw [Http.Response.status_redirect, isHeaderValue_editAddress,
      if_pos (Bool.not_eq_false _ ▸ hwritable)]
    decide
  have hrulesets : (Http.Response.redirect "/rulesets").status < 400 := by decide
  cases h with
  | rulesetCreate =>
    exact ⟨_, .forUser fun _ => .withRuleset fun draft =>
      .call (Rulesets.failsCleanly_create v.now draft) _ fun _ => hrulesets, rfl⟩
  | rulesetUpdate id =>
    exact ⟨_, .forUser fun _ => .withRuleset fun draft =>
      .call (Rulesets.failsCleanly_update v.now id draft) _ fun _ => hrulesets, rfl⟩
  | rulesetDelete id =>
    exact ⟨_, .forScript (.call (Attempt.failsCleanly_delete .rulesets id) _
      fun _ => by decide), rfl⟩
  | ruleCreate rulesetId =>
    exact ⟨_, .forUser fun _ => .withRule fun draft =>
      .call (Rules.failsCleanly_create v.now rulesetId draft) _ fun _ => hback _ hpath, rfl⟩
  | ruleUpdate rulesetId ruleId =>
    exact ⟨_, .forUser fun _ => .withRule fun draft =>
      .call (Rules.failsCleanly_update v.now rulesetId ruleId draft) _ fun _ => hback _ hpath, rfl⟩
  | ruleDelete rulesetId ruleId =>
    exact ⟨_, .forScript (.call (Attempt.failsCleanly_delete (.rules rulesetId) ruleId) _
      fun _ => by decide), rfl⟩
  | ruleReorder rulesetId ruleId =>
    refine ⟨_, .field fun text => .forScript ?_, rfl⟩
    cases Direction.parse? (text.getD "") with
    | none => exact .throw _
    | some direction =>
      exact .call (Rules.failsCleanly_reorder v.now rulesetId ruleId direction) _
        fun _ => (by decide : 200 < 400)

/-- A submitted rule that should lead back to an address that cannot be written is answered as a
failure inside, whether it is kept or not. -/
theorem Site.Works.status_of_misdirected {v : Visit} {e : Endpoint} {step : Rules.Step}
    (h : Works v e step) (hwork : work? v e = some step) (hpath : e.Misdirected)
    (app : Application) (trace : TraceId) :
    ∃ handling, app.handle trace v e = Application.settle trace v handling ∧
      ∀ around w, (Handling.answer trace (handling.runIn around w).1).status = 500 := by
  have hlost : ∀ {rulesetId : String} (p : Attempt StoreError Rule) (message : String),
      Http.isHeaderValue rulesetId = false → ∀ around w,
      (Handling.answer trace (Attempt.runIn around (p.orRefuse (.internal message) >>= fun _ =>
        pure (.redirect (editAddress rulesetId))) w).1).status = 500 := by
    intro rulesetId p message hforbidden around w
    rw [Attempt.runIn_bind, Attempt.orRefuse, Attempt.runIn_orFail]
    rcases p.runIn around w with ⟨err | r, w'⟩
    · exact Refusal.status_internal trace message
    · change (Http.Response.redirect (editAddress rulesetId)).status = 500
      rw [Http.Response.status_redirect, isHeaderValue_editAddress, hforbidden]
      rfl
  cases h with
  | ruleCreate rulesetId hdraft =>
    obtain ⟨user, huser, -⟩ := Option.bind_eq_some_iff.mp hwork
    refine ⟨_, rfl, ?_⟩
    simp only [Site.ruleCreate, Visit.forUser, huser, withRule, hdraft]
    exact hlost _ _ hpath
  | ruleUpdate rulesetId ruleId hdraft =>
    obtain ⟨user, huser, -⟩ := Option.bind_eq_some_iff.mp hwork
    refine ⟨_, rfl, ?_⟩
    simp only [Site.ruleUpdate, Visit.forUser, huser, withRule, hdraft]
    exact hlost _ _ hpath
  | _ => exact hpath.elim

/-! ## Requests -/

namespace Scene

variable (s : Setting) (p : Scene) (t : Turn)

/-- Whether a turn submits a rule and its answer should lead back to a ruleset whose id cannot stand
in a header. -/
def Misdirected : Prop :=
  ∃ e step, t.endpoint = some e ∧ e.Misdirected ∧ p.work? t = some step

/-- Whether a turn completes a login and the session with the user cannot be saved. -/
def Unsavable : Prop :=
  ∃ login, p.login? s t = some login ∧
    ((p.session t).takeChallenge.2.signIn login.user).canSave = false

theorem status_outcome :
    (p.outcome s t).1.response.status =
      if (p.handled s t).1.2.canSave then (p.handled s t).1.1.status else 500 := by
  rw [outcome_eq, Application.status_finish]

/-- Outside the login the status is that of the handling. -/
theorem status_of_settle {e : Endpoint} (h : t.endpoint = some e) {handling : Handling}
    (hhandle : (t.application s).handle t.traceId ⟨t.request, p.session t, t.now⟩ e =
      Application.settle t.traceId ⟨t.request, p.session t, t.now⟩ handling) :
    (p.outcome s t).1.response.status =
      (Handling.answer t.traceId (handling.runIn (t.around s) p.world).1).status := by
  rw [outcome_eq, handled_of_endpoint s p t h, hhandle, Application.settle_runIn_answer]
  exact (finish_untouched _ _ _).2

/-- The end of a login that is completed sends the browser on, if its session can be saved. -/
theorem status_of_login {login : Login.Completed} (h : p.login? s t = some login) :
    (p.outcome s t).1.response.status =
      if ((p.session t).takeChallenge.2.signIn login.user).canSave then 302 else 500 := by
  obtain ⟨hcallback, raw, -, -, -, hcode, -⟩ := of_login h
  obtain ⟨created, response, -, hstatus, hhandled⟩ := handled_loginCallback s p t hcallback hcode
  simp only [h] at hhandled
  rw [status_outcome, hhandled, hstatus login h]

/-- Behind an error status the store is what it was, but for the two kinds of requests whose
response is lost. -/
theorem store_of_error (hpath : ¬ p.Misdirected t) (hsession : ¬ p.Unsavable s t)
    (hstatus : 400 ≤ (p.outcome s t).1.response.status) :
    (p.next s t).world.store = p.world.store := by
  by_cases hcallback : t.endpoint = some .loginCallback
  · obtain ⟨created, hstore⟩ := store_next_of_callback s p t hcallback
    cases hlogin : p.login? s t with
    | none => rw [hstore, hlogin]
    | some login =>
      cases hsave : ((p.session t).takeChallenge.2.signIn login.user).canSave with
      | false => exact absurd ⟨login, hlogin, hsave⟩ hsession
      | true =>
        rw [status_of_login s p t hlogin, hsave] at hstatus
        exact absurd hstatus (by decide)
  · -- a request without a call keeps the store; one with a call is handled so that it spares it
    rw [store_next s p t hcallback]
    cases hwork : p.work? t with
    | none => rfl
    | some step =>
      obtain ⟨e, he, hwork'⟩ := Option.bind_eq_some_iff.mp hwork
      obtain ⟨handling, hspares, hhandle⟩ := (Site.works_of_work? hwork').spares
        (fun hlost => hpath ⟨e, step, he, hlost, hwork⟩) (t.application s) t.traceId
      rw [status_of_settle s p t he hhandle] at hstatus
      have hsame := hspares (t.around s) p.world fun response hresponse => by
        rwa [hresponse] at hstatus
      rw [← hsame, ← hwork, ← store_next s p t hcallback, world_next,
        handled_of_endpoint s p t he, hhandle, Application.settle_runIn_answer]

/-- A submitted rule whose answer is lost is written all the same. -/
theorem lost_of_misdirected (h : p.Misdirected t) :
    (p.outcome s t).1.response.status = 500 ∧ ∃ step, p.work? t = some step ∧
      (p.next s t).world.store = (step.run (t.around s) p.world).store := by
  obtain ⟨e, step, he, hpath, hwork⟩ := h
  have hwork' : Site.work? ⟨t.request, p.session t, t.now⟩ e = some step := by
    rwa [← p.work?_of_endpoint t he]
  have hcallback : t.endpoint ≠ some .loginCallback := fun h => by
    rw [h] at he
    cases he
    exact hpath
  obtain ⟨handling, hhandle, hlost⟩ := (Site.works_of_work? hwork').status_of_misdirected hwork'
    hpath (t.application s) t.traceId
  refine ⟨?_, step, hwork, ?_⟩
  · rw [status_of_settle s p t he hhandle]
    exact hlost _ _
  · rw [store_next s p t hcallback, hwork]
    rfl

/-- The token of a login whose session cannot be saved is written all the same. -/
theorem lost_of_unsavable (h : p.Unsavable s t) :
    (p.outcome s t).1.response.status = 500 ∧ ∃ login created, p.login? s t = some login ∧
      (p.next s t).world.store = p.world.store.set .userTokens login.user.id.text
        (UserToken.toJson ⟨login.token.text, login.user.id, created, t.now⟩) := by
  obtain ⟨login, hlogin, hsave⟩ := h
  obtain ⟨created, hstore⟩ := store_next_of_callback s p t (of_login hlogin).1
  refine ⟨?_, login, created, hlogin, ?_⟩
  · rw [status_of_login s p t hlogin, hsave]
    rfl
  · rw [hlogin] at hstore
    exact hstore

end Scene

/-- Whatever the store, the session and the answers of the platform are: if the status of a
response is 400 or above, the store is exactly what it was, unless the request submits a rule for a
ruleset whose id has a control character, or ends a login whose session is too long. In these cases
the status is 500, and the rule or the token is written as if nothing had gone wrong. -/
theorem error_answers_leave_documents (s : Setting) (p : Scene) (t : Turn) :
    let status := (p.outcome s t).1.response.status
    let after := (p.next s t).world.store
    (¬ p.Misdirected t → ¬ p.Unsavable s t → 400 ≤ status → after = p.world.store) ∧
    (p.Misdirected t → status = 500 ∧ ∃ step, p.work? t = some step ∧
      after = (step.run (t.around s) p.world).store) ∧
    (p.Unsavable s t → status = 500 ∧ ∃ login created, p.login? s t = some login ∧
      after = p.world.store.set .userTokens login.user.id.text
        (UserToken.toJson ⟨login.token.text, login.user.id, created, t.now⟩)) :=
  ⟨p.store_of_error s t, p.lost_of_misdirected s t, p.lost_of_unsavable s t⟩

/-- A submitted change of a ruleset that is looked up and then not kept, because the store fails, is
answered with 500, and every document stays what it was. -/
theorem ruleset_unchanged_behind_error :
    let ada : User := ⟨⟨"u-1", by decide⟩, "Ada", "ada@example.com", none⟩
    let noon : Time.Timestamp := ⟨⟨2024, 6, 1, by decide⟩, 12, 30, 0, 0, by decide⟩
    let walls : Ruleset := ⟨"c", "walls", "", "p", [], noon, noon⟩
    let kept : World := { World.start with store := Store.empty.set .rulesets "c" walls.toJson }
    let p : Scene := ⟨kept, fun _ => some (Standing.mk (some (.of ada)) none).entries⟩
    let t : Turn := { Turn.plain 0 ada "/rulesets/c" with
      request := ⟨"POST", "/rulesets/c", [("content-type", Http.Form.mediaType)],
        Text.Utf8.encode "name=doors&projectId=p"⟩
      outages := [⟨.set, some .rulesets, .connection "down"⟩] }
    (¬ p.Misdirected t ∧ ¬ p.Unsavable .plain t) ∧
      (p.outcome .plain t).1.response.status = 500 ∧
      (p.next .plain t).world.store = p.world.store := by
  intro ada noon walls kept p t
  have hendpoint : t.endpoint = some (.rulesetUpdate "c") := by decide +kernel
  have hpath : ¬ p.Misdirected t := by
    rintro ⟨e, step, he, hlost, -⟩
    obtain rfl := Option.some.inj (hendpoint.symm.trans he)
    exact hlost
  have hsession : ¬ p.Unsavable .plain t := by
    rintro ⟨login, hlogin, -⟩
    exact absurd (hendpoint.symm.trans (Scene.of_login hlogin).1) (by decide)
  have hstatus : (p.outcome .plain t).1.response.status = 500 := by decide +kernel
  obtain ⟨hunchanged, -⟩ := error_answers_leave_documents .plain p t
  exact ⟨⟨hpath, hsession⟩, hstatus, hunchanged hpath hsession (by rw [hstatus]; decide)⟩

/-- A rule submitted for a ruleset whose id has a line break is kept, and answered with 500. -/
theorem rule_kept_behind_error :
    let ada : User := ⟨⟨"u-1", by decide⟩, "Ada", "ada@example.com", none⟩
    let p : Scene := ⟨World.start, fun _ => some (Standing.mk (some (.of ada)) none).entries⟩
    let t : Turn := { Turn.plain 0 ada "/rulesets/a%0Ab/rules" with
      request := ⟨"POST", "/rulesets/a%0Ab/rules", [("content-type", Http.Form.mediaType)],
        Text.Utf8.encode "name=thick"⟩ }
    (p.outcome .plain t).1.response.status = 500 ∧
      (p.next .plain t).world.store ≠ p.world.store := by
  intro ada p t
  have hstatus : (p.outcome .plain t).1.response.status = 500 := by decide +kernel
  have hkept : ((p.next .plain t).world.store.shelf (.rules "a\nb")).documents.length = 1 := by
    decide +kernel
  refine ⟨hstatus, fun hsame => ?_⟩
  rw [hsame] at hkept
  exact absurd hkept (by decide)

end Rulebook
