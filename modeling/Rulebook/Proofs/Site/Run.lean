import Rulebook.Proofs.Login.Standing
import Rulebook.Proofs.Site.Questions

/-!
# Browsers and their requests

Any number of browsers use the application. A `Turn` is one request of one of them, handled from end
to end; what the platform answers, which outages the store has and what the clock shows may change
from turn to turn. A browser sends along the cookie it was left with by its latest response. `Scene`
is what there is between two turns: the world and the cookies.
-/

namespace Rulebook

/-- What stays the same during a run. A challenge is made of 32 random bytes. -/
structure Setting where
  credentials : Option AppCredentials
  approvalUrl : String → ChallengeId → String
  supply : IdSupply
  draws : Nat → List UInt8
  length_draws : ∀ n, (draws n).length = 32

/-- The challenge of a draw. -/
def Setting.challenge (s : Setting) (n : Nat) : ChallengeId :=
  .ofBytes (s.draws n)

/-- A request of a browser, and how things stand while it is handled. -/
structure Turn where
  browser : Nat
  request : Http.Request
  now : Time.Timestamp
  trace : TraceId
  platform : Platform
  outages : List Outage
  health : Health

namespace Turn

/-- What a request asks for. -/
def endpoint (t : Turn) : Option Endpoint :=
  Endpoint.find? t.request.method (Http.splitTarget t.request.target).1

/-- The access code in the query of a request. -/
def accessCode (t : Turn) : Except Http.DuplicateField (Option String) :=
  Http.queryField (Http.queryPairs (Http.splitTarget t.request.target).2) "access_code"

/-- What a request is handled in. -/
def around (t : Turn) (s : Setting) : Surroundings :=
  ⟨s.supply, s.challenge, t.platform, t.outages⟩

/-- The application a request meets. -/
def application (t : Turn) (s : Setting) : Application :=
  ⟨s.credentials, s.approvalUrl, t.health⟩

/-- The trace id a request is handled under. -/
def traceId (t : Turn) : TraceId :=
  Application.traceOf t.request t.trace

end Turn

/-- What there is between two turns: the world and what the cookie of each browser holds. -/
structure Scene where
  world : World
  cookies : Nat → Option (List (String × Json))

namespace Scene

/-- Nothing has happened and no browser has a cookie. -/
def start : Scene :=
  ⟨World.start, fun _ => none⟩

variable (s : Setting) (p : Scene) (t : Turn)

/-- What comes of a turn, and the world after it. -/
def outcome : Outcome × World :=
  ((t.application s).serve t.trace t.now (p.cookies t.browser) t.request).runIn (t.around s) p.world

/-- One turn later. -/
def next : Scene :=
  ⟨(p.outcome s t).2,
    fun b => if b = t.browser then (p.outcome s t).1.cookie else p.cookies b⟩

/-- A run of turns later. -/
def after (turns : List Turn) : Scene :=
  turns.foldl (next s) start

/-- The questions that a turn puts to the platform, the latest first. -/
def questions : List PlatformCall :=
  (p.next s t).world.asked.take ((p.next s t).world.asked.length - p.world.asked.length)

/-- The session a request comes with. -/
def session : Session :=
  .ofCookie (p.cookies t.browser)

/-- The login that a turn completes. -/
def login? : Option Login.Completed :=
  if t.endpoint = some .loginCallback then
    match t.accessCode with
    | .ok raw =>
      Login.completed? (t.around s) s.credentials (AccessCode.parse raw)
        (p.session t).takeChallenge.1
    | .error _ => none
  else none

end Scene

/-! ## A plain run -/

/-- An application with credentials, numbered ids and draws that differ in their last byte. -/
def Setting.plain : Setting where
  credentials := some ⟨"app-id", "app-secret", by decide, by decide⟩
  approvalUrl _ challenge := challenge.text
  supply := .startingWith [] "doc" 3
  draws n := List.replicate 31 0 ++ [n.toUInt8]
  length_draws _ := by simp

theorem TraceId.zero_lt : 0 < 16 := by
  decide

theorem TraceId.length_zeros :
    (List.replicate 32 (⟨0, TraceId.zero_lt⟩ : Fin 16)).length = 32 :=
  List.length_replicate

/-- A request without headers or body, when nothing fails and all users of the platform are one. -/
def Turn.plain (browser : Nat) (user : User) (target : String) : Turn where
  browser := browser
  request := ⟨"GET", target, [], []⟩
  now := ⟨⟨2024, 6, 1, by decide⟩, 12, 30, 0, 0, by decide⟩
  trace := ⟨List.replicate 32 ⟨0, TraceId.zero_lt⟩, TraceId.length_zeros⟩
  platform := .ofUser user
  outages := []
  health := .start

/-! ## How a request is handled -/

namespace Application

variable (app : Application) (trace : TraceId) (v : Visit)

theorem handle_loginStart :
    app.handle trace v .loginStart = Site.loginStart app.credentials app.approvalUrl trace v :=
  rfl

theorem handle_loginCallback :
    app.handle trace v .loginCallback = Site.loginCallback app.credentials trace v :=
  rfl

theorem visit_of_endpoint {e : Endpoint}
    (h : Endpoint.find? v.request.method (Http.splitTarget v.request.target).1 = some e) :
    app.visit trace v = app.handle trace v e := by
  unfold visit
  rw [h]

theorem visit_of_none
    (h : Endpoint.find? v.request.method (Http.splitTarget v.request.target).1 = none) :
    app.visit trace v = settle trace v (pure (.empty 404)) := by
  unfold visit
  rw [h]
  rfl

/-- An endpoint outside the login leaves the session alone. -/
theorem handle_eq_settle {e : Endpoint} (hstart : e ≠ .loginStart) (hcallback : e ≠ .loginCallback)
    (hlogout : e ≠ .logout) :
    ∃ h, Site.Browsing v h ∧ app.handle trace v e = settle trace v h := by
  cases e with
  | loginStart => exact absurd rfl hstart
  | loginCallback => exact absurd rfl hcallback
  | logout => exact absurd rfl hlogout
  | ready => exact ⟨pure _, .of_kept (Attempt.only_pure _), rfl⟩
  | live => exact ⟨pure _, .of_kept (Attempt.only_pure _), rfl⟩
  | home => exact ⟨_, Site.browsing_home, rfl⟩
  | projectSearch => exact ⟨_, Site.browsing_projectSearch, rfl⟩
  | projects => exact ⟨_, Site.browsing_projectList, rfl⟩
  | project id => exact ⟨_, Site.browsing_projectDetail id, rfl⟩
  | rulesets => exact ⟨_, .of_view (Site.views_rulesetList v), rfl⟩
  | rulesetNew => exact ⟨_, .of_view (Site.views_rulesetNew v), rfl⟩
  | rulesetEdit id => exact ⟨_, .of_view (Site.views_rulesetEdit v id), rfl⟩
  | rulesetCreate => exact ⟨_, .of_kept (Site.only_rulesetCreate v), rfl⟩
  | rulesetUpdate id => exact ⟨_, .of_kept (Site.only_rulesetUpdate v id), rfl⟩
  | rulesetDelete id => exact ⟨_, .of_kept (Site.only_rulesetDelete v id), rfl⟩
  | ruleNew rulesetId => exact ⟨_, .of_view (Site.views_ruleNew v rulesetId), rfl⟩
  | ruleEdit rulesetId ruleId => exact ⟨_, .of_view (Site.views_ruleEdit v rulesetId ruleId), rfl⟩
  | ruleCreate rulesetId => exact ⟨_, .of_kept (Site.only_ruleCreate v rulesetId), rfl⟩
  | ruleUpdate rulesetId ruleId =>
    exact ⟨_, .of_kept (Site.only_ruleUpdate v rulesetId ruleId), rfl⟩
  | ruleDelete rulesetId ruleId =>
    exact ⟨_, .of_kept (Site.only_ruleDelete v rulesetId ruleId), rfl⟩
  | ruleReorder rulesetId ruleId =>
    exact ⟨_, .of_kept (Site.only_ruleReorder v rulesetId ruleId), rfl⟩
  | «export» hash => exact ⟨_, .of_view (Site.views_export v hash), rfl⟩

theorem settle_runIn (around : Surroundings) (h : Handling) (w : World) :
    ∃ response,
      (settle trace v h).runIn around w = ((response, v.session), (h.runIn around w).2) := by
  rw [settle, Program.runIn_bind, Attempt.runIn]
  rcases Program.runIn around h.run w with ⟨refusal | response, w'⟩ <;> exact ⟨_, rfl⟩

/-- A request is handled, and then the session goes back into the cookie. -/
theorem serve_runIn (around : Surroundings) (fresh : TraceId) (now : Time.Timestamp)
    (cookie : Option (List (String × Json))) (r : Http.Request) (w : World) :
    let out := (app.visit (traceOf r fresh) ⟨r, .ofCookie cookie, now⟩).runIn around w
    (app.serve fresh now cookie r).runIn around w =
      (finish (traceOf r fresh) cookie out.1.1 out.1.2, out.2) := by
  unfold serve
  dsimp only
  rw [Program.runIn_bind]
  generalize Program.runIn around (app.visit (traceOf r fresh) ⟨r, .ofCookie cookie, now⟩) w = out
  rfl

end Application

namespace Http.Response

/-- A response with a header keeps its status or becomes a plain failure. -/
theorem status_withHeader (r : Response) (name value : String) :
    (r.withHeader name value).status = r.status ∨ (r.withHeader name value).status = 500 := by
  unfold withHeader
  split
  · exact .inl rfl
  · exact .inr rfl

/-- A response of an error status has one with a trace id too. -/
theorem le_status_traced {r : Response} (h : 400 ≤ r.status) (traceId : Option String) :
    400 ≤ (r.traced traceId).status := by
  cases traceId with
  | none => exact h
  | some id =>
    rcases status_withHeader r traceHeader id with heq | heq
    · exact Nat.le_trans h (Nat.le_of_eq heq.symm)
    · exact Nat.le_trans (by decide) (Nat.le_of_eq heq.symm)

end Http.Response

namespace Refusal

/-- A refusal of an error status is answered with an error status. -/
theorem le_status_page (trace : TraceId) {status : Nat} (message : String) (h : 400 ≤ status) :
    400 ≤ ((page status message).response trace).status :=
  Http.Response.le_status_traced h _

theorem le_status_script (trace : TraceId) (code : FailureCode) (message : String) :
    400 ≤ ((script code message).response trace).status := by
  have hcode : ∀ c : FailureCode, 400 ≤ c.status := fun c => by cases c <;> decide
  exact Http.Response.le_status_traced (hcode _) _

end Refusal

/-- A failed login is answered with the status of an error. -/
theorem Site.le_status_loginRefusal (e : LoginError) (trace : TraceId) :
    400 ≤ ((Site.loginRefusal e).response trace).status := by
  have hplatform : 400 ≤ PageFailure.statusOf e.platformStatus := by
    unfold PageFailure.statusOf
    grind
  unfold Site.loginRefusal
  split
  · exact Refusal.le_status_page trace _ (by decide)
  · exact Refusal.le_status_page trace _ hplatform
  · exact Refusal.le_status_page trace _ hplatform
  · exact Refusal.le_status_page trace _ (by decide)

namespace Scene

variable (s : Setting) (p : Scene) (t : Turn)

/-- The response to a request and the session after it, before the cookie is written. -/
def handled : (Http.Response × Session) × World :=
  ((t.application s).visit t.traceId ⟨t.request, p.session t, t.now⟩).runIn (t.around s) p.world

theorem outcome_eq :
    p.outcome s t = (Application.finish t.traceId (p.cookies t.browser) (p.handled s t).1.1
      (p.handled s t).1.2, (p.handled s t).2) := by
  rw [outcome, Application.serve_runIn, handled, session, Turn.traceId]

theorem handled_of_endpoint {e : Endpoint} (h : t.endpoint = some e) :
    p.handled s t = ((t.application s).handle t.traceId ⟨t.request, p.session t, t.now⟩ e).runIn
      (t.around s) p.world := by
  have hvisit := (t.application s).visit_of_endpoint t.traceId ⟨t.request, p.session t, t.now⟩ h
  rw [handled, hvisit]

/-- Outside the login the session stays as it is, but for logging out. -/
theorem handled_browsing (hstart : t.endpoint ≠ some .loginStart)
    (hcallback : t.endpoint ≠ some .loginCallback) (hlogout : t.endpoint ≠ some .logout) :
    ∃ h response, Site.Browsing ⟨t.request, p.session t, t.now⟩ h ∧
      p.handled s t = ((response, p.session t), (h.runIn (t.around s) p.world).2) := by
  cases he : t.endpoint with
  | none =>
    refine ⟨pure (.empty 404), .empty 404, .of_kept (Attempt.only_pure _), ?_⟩
    have hvisit := (t.application s).visit_of_none t.traceId ⟨t.request, p.session t, t.now⟩ he
    rw [handled, hvisit]
    rfl
  | some e =>
    rw [he] at hstart hcallback hlogout
    obtain ⟨h, hbrowsing, hhandle⟩ := (t.application s).handle_eq_settle t.traceId
      ⟨t.request, p.session t, t.now⟩ (mt (congrArg some) hstart) (mt (congrArg some) hcallback)
      (mt (congrArg some) hlogout)
    obtain ⟨response, hsettle⟩ :=
      Application.settle_runIn t.traceId ⟨t.request, p.session t, t.now⟩ (t.around s) h p.world
    refine ⟨h, response, hbrowsing, ?_⟩
    rw [handled_of_endpoint s p t he, hhandle, hsettle]

theorem handled_logout (h : t.endpoint = some .logout) :
    p.handled s t = ((.redirect "/", (p.session t).purge), p.world) :=
  handled_of_endpoint s p t h

/-- A login is begun with a fresh challenge, if the application has credentials. -/
theorem handled_loginStart (h : t.endpoint = some .loginStart) :
    (∃ response, 400 ≤ response.status ∧
      p.handled s t = ((response, p.session t), p.world)) ∨
    ∃ response, response.status = 200 ∧
      p.handled s t = ((response,
        (p.session t).storeChallenge (s.challenge p.world.challengesDrawn)),
        { p.world with challengesDrawn := p.world.challengesDrawn + 1 }) := by
  rw [handled_of_endpoint s p t h]
  cases hc : s.credentials with
  | none =>
    refine .inl ⟨(Refusal.script .internalError LoginError.notConfigured.message).response
      t.traceId, Refusal.le_status_script _ _ _, ?_⟩
    simp only [Application.handle_loginStart, Turn.application, hc]
    rfl
  | some c =>
    refine .inr ⟨.json 200 (AuthorizationRequest.toJson ⟨s.challenge p.world.challengesDrawn,
      s.approvalUrl c.appId (s.challenge p.world.challengesDrawn), c.appId⟩), rfl, ?_⟩
    simp only [Application.handle_loginStart, Turn.application, hc]
    rfl

/-- A callback whose query cannot be read leaves everything as it is. -/
theorem handled_loginCallback_of_error {fault : Http.DuplicateField}
    (h : t.endpoint = some .loginCallback) (hcode : t.accessCode = .error fault) :
    p.handled s t =
      (((Refusal.query fault.message).response t.traceId, p.session t), p.world) := by
  rw [handled_of_endpoint s p t h]
  unfold Turn.accessCode at hcode
  simp only [Application.handle_loginCallback, Site.loginCallback, Visit.query, hcode]
  rfl

/-- The answer to a callback and the session after it, from what came of the login. -/
def callbackAnswer : Except LoginError User → Http.Response × Session
  | .ok user => (.redirect "/projects", (p.session t).takeChallenge.2.signIn user)
  | .error e => ((Site.loginRefusal e).response t.traceId, (p.session t).takeChallenge.2)

theorem handled_of_complete {raw : Option String} {out : Except LoginError User × World}
    (h : t.endpoint = some .loginCallback) (hcode : t.accessCode = .ok raw)
    (hout : (Login.complete s.credentials t.now (AccessCode.parse raw)
      (p.session t).takeChallenge.1).runIn (t.around s) p.world = out) :
    p.handled s t = (callbackAnswer p t out.1, out.2) := by
  rw [handled_of_endpoint s p t h]
  unfold Turn.accessCode at hcode
  simp only [Application.handle_loginCallback, Turn.application, Site.loginCallback, Visit.query,
    hcode]
  rw [Program.runIn_bind]
  change Program.runIn (t.around s) (Login.complete _ _ _ _).run p.world = out at hout
  rw [hout]
  rcases out with ⟨e | user, w⟩ <;> rfl

/-- A callback uses the challenge up. If it completes the login, the user is signed in and the token
kept; otherwise the store stays as it is. -/
theorem handled_loginCallback {raw : Option String} (h : t.endpoint = some .loginCallback)
    (hcode : t.accessCode = .ok raw) :
    ∃ created response,
      (p.login? s t = none → 400 ≤ response.status) ∧
      (∀ login, p.login? s t = some login → response.status = 302) ∧
      p.handled s t = ((response,
        match p.login? s t with
        | none => (p.session t).takeChallenge.2
        | some login => (p.session t).takeChallenge.2.signIn login.user),
        { p.world with
          store := match p.login? s t with
            | none => p.world.store
            | some login => p.world.store.set .userTokens login.user.id.text
                (UserToken.toJson ⟨login.token.text, login.user.id, created, t.now⟩)
          asked := Login.questions (t.around s) s.credentials (AccessCode.parse raw)
            (p.session t).takeChallenge.1 ++ p.world.asked }) := by
  have hlogin : p.login? s t = Login.completed? (t.around s) s.credentials (AccessCode.parse raw)
      (p.session t).takeChallenge.1 := by
    simp [login?, h, hcode]
  obtain ⟨created, hresult, hworld⟩ := Login.complete_runIn (t.around s) s.credentials t.now
    (AccessCode.parse raw) (p.session t).takeChallenge.1 p.world
  rw [← hlogin] at hresult hworld
  generalize hout : (Login.complete s.credentials t.now (AccessCode.parse raw)
    (p.session t).takeChallenge.1).runIn (t.around s) p.world = out at hresult hworld
  have hhandle := handled_of_complete s p t h hcode hout
  refine ⟨created, ?_⟩
  rw [hhandle, hworld]
  rcases out with ⟨e | user, w⟩
  · have hnone : p.login? s t = none := Option.map_eq_none_iff.mp hresult.symm
    rw [callbackAnswer]
    refine ⟨(Site.loginRefusal e).response t.traceId, fun _ => ?_, fun login hlogin => ?_, ?_⟩
    · exact Site.le_status_loginRefusal e t.traceId
    · exact absurd (hnone.symm.trans hlogin) (by simp)
    · simp only [hnone]
  · obtain ⟨login, hsome, rfl⟩ : ∃ login, p.login? s t = some login ∧ login.user = user :=
      Option.map_eq_some_iff.mp hresult.symm
    rw [callbackAnswer]
    refine ⟨.redirect "/projects", fun hnone => ?_, fun _ _ => rfl, ?_⟩
    · exact absurd (hsome.symm.trans hnone) (by simp)
    · simp only [hsome]

/-- All that can come of a request before the cookie is written: the response, the session after it
and the world after it. -/
inductive Handled : (Http.Response × Session) × World → Prop
  | browsed (hstart : t.endpoint ≠ some .loginStart) (hcallback : t.endpoint ≠ some .loginCallback)
      (hlogout : t.endpoint ≠ some .logout) (h : Handling)
      (hbrowsing : Site.Browsing ⟨t.request, p.session t, t.now⟩ h) (response : Http.Response) :
      Handled ((response, p.session t), (h.runIn (t.around s) p.world).2)
  | loggedOut (h : t.endpoint = some .logout) :
      Handled ((.redirect "/", (p.session t).purge), p.world)
  | unconfigured (h : t.endpoint = some .loginStart) (response : Http.Response)
      (hstatus : 400 ≤ response.status) : Handled ((response, p.session t), p.world)
  | begun (h : t.endpoint = some .loginStart) (response : Http.Response)
      (hstatus : response.status = 200) :
      Handled ((response, (p.session t).storeChallenge (s.challenge p.world.challengesDrawn)),
        { p.world with challengesDrawn := p.world.challengesDrawn + 1 })
  | unreadable (h : t.endpoint = some .loginCallback) (fault : Http.DuplicateField)
      (hcode : t.accessCode = .error fault) :
      Handled (((Refusal.query fault.message).response t.traceId, p.session t), p.world)
  | failed (h : t.endpoint = some .loginCallback) (raw : Option String)
      (hcode : t.accessCode = .ok raw) (hlogin : p.login? s t = none) (response : Http.Response)
      (hstatus : 400 ≤ response.status) :
      Handled ((response, (p.session t).takeChallenge.2),
        { p.world with
          asked := Login.questions (t.around s) s.credentials (AccessCode.parse raw)
            (p.session t).takeChallenge.1 ++ p.world.asked })
  | completed (h : t.endpoint = some .loginCallback) (raw : Option String)
      (hcode : t.accessCode = .ok raw) (login : Login.Completed)
      (hlogin : p.login? s t = some login) (response : Http.Response)
      (hstatus : response.status = 302) (created : Time.Timestamp) :
      Handled ((response, (p.session t).takeChallenge.2.signIn login.user),
        { p.world with
          store := p.world.store.set .userTokens login.user.id.text
            (UserToken.toJson ⟨login.token.text, login.user.id, created, t.now⟩)
          asked := Login.questions (t.around s) s.credentials (AccessCode.parse raw)
            (p.session t).takeChallenge.1 ++ p.world.asked })

/-- Every request is handled in one of these ways. -/
theorem handled_cases : Handled s p t (p.handled s t) := by
  by_cases hstart : t.endpoint = some .loginStart
  · rcases handled_loginStart s p t hstart with ⟨response, hstatus, h⟩ | ⟨response, hstatus, h⟩
    · rw [h]
      exact .unconfigured hstart response hstatus
    · rw [h]
      exact .begun hstart response hstatus
  by_cases hlogout : t.endpoint = some .logout
  · rw [handled_logout s p t hlogout]
    exact .loggedOut hlogout
  by_cases hcallback : t.endpoint = some .loginCallback
  · cases hcode : t.accessCode with
    | error fault =>
      rw [handled_loginCallback_of_error s p t hcallback hcode]
      exact .unreadable hcallback fault hcode
    | ok raw =>
      obtain ⟨created, response, hfailed, hdone, h⟩ :=
        handled_loginCallback s p t hcallback hcode
      rw [h]
      cases hlogin : p.login? s t with
      | none => exact .failed hcallback raw hcode hlogin response (hfailed hlogin)
      | some login =>
        exact .completed hcallback raw hcode login hlogin response (hdone login hlogin) created
  · obtain ⟨h, response, hbrowsing, heq⟩ := handled_browsing s p t hstart hcallback hlogout
    rw [heq]
    exact .browsed hstart hcallback hlogout h hbrowsing response

theorem world_next : (p.next s t).world = (p.handled s t).2 := by
  rw [next, outcome_eq]

theorem questions_eq {new : List PlatformCall}
    (h : (p.handled s t).2.asked = new ++ p.world.asked) : p.questions s t = new := by
  rw [questions, world_next, h]
  simp

/-- The questions of a turn are those of a login that a callback brings to its end, or they are
asked on behalf of the user of the session. -/
theorem questions_cases :
    (∃ raw, t.endpoint = some .loginCallback ∧ t.accessCode = .ok raw ∧
      p.questions s t = Login.questions (t.around s) s.credentials (AccessCode.parse raw)
        (p.session t).takeChallenge.1) ∨
      ∀ call ∈ p.questions s t, Site.Serves (t.around s) p.world (p.session t) call := by
  have hcases := handled_cases s p t
  generalize hhandled : p.handled s t = r at hcases
  cases hcases with
  | browsed hstart hcallback hlogout page hbrowsing response =>
    obtain ⟨new, hasked, hserves⟩ := hbrowsing.serves (t.around s) p.world
    refine .inr ?_
    rw [p.questions_eq s t (by rw [hhandled]; exact hasked)]
    exact hserves
  | loggedOut | unconfigured | begun | unreadable =>
    refine .inr ?_
    rw [p.questions_eq s t (show _ = [] ++ _ by rw [hhandled]; rfl)]
    simp
  | failed hcallback raw hcode | completed hcallback raw hcode =>
    exact .inl ⟨raw, hcallback, hcode, p.questions_eq s t (by rw [hhandled])⟩

/-- The log grows by the questions of the turn. -/
theorem asked_next : (p.next s t).world.asked = p.questions s t ++ p.world.asked := by
  obtain ⟨new, hnew⟩ : ∃ new, (p.handled s t).2.asked = new ++ p.world.asked := by
    have hcases := handled_cases s p t
    generalize p.handled s t = r at hcases
    cases hcases with
    | browsed hstart hcallback hlogout page hbrowsing response =>
      obtain ⟨new, hasked, -⟩ := hbrowsing.serves (t.around s) p.world
      exact ⟨new, hasked⟩
    | loggedOut | unconfigured | begun | unreadable => exact ⟨[], rfl⟩
    | failed | completed => exact ⟨_, rfl⟩
  rw [p.questions_eq s t hnew, world_next, hnew]

end Scene

end Rulebook
