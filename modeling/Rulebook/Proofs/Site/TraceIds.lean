import Rulebook.Proofs.Page.Fields
import Rulebook.Proofs.Site.Callback
import Rulebook.Proofs.Site.ErrorAnswers
import Rulebook.Proofs.Trace
import Rulebook.Setup.Service

/-!
# One trace id in every answer

What a handler comes to does not depend on the trace id: it is a response, or a refusal that is told
under the id only afterwards (`Application.visit_eq_tell`). So whatever the handler comes to, the
response has one header with the id, and if it tells of a refusal its body names the same id
(`trace_ids_agree`). The id is the one that the request names, and a fresh one where it names none;
a request that sends the id back names it again. A session that cannot be saved is the exception:
what takes the place of the response has no headers at all.
-/

namespace Rulebook

/-! ## Answers that are not told yet -/

namespace Application

/-- An answer told under a trace id, and the session after it. -/
def tell (trace : TraceId) (out : Except Refusal Http.Response × Session) :
    Http.Response × Session :=
  (Handling.answer trace out.1, out.2)

/-- A handling that leaves the session alone, its refusal not told yet. -/
def untold (v : Visit) (h : Handling) : Program (Except Refusal Http.Response × Session) := do
  let answer ← h.run
  return (answer, v.session)

/-- The answer of an endpoint before it is told, and the session after it. -/
def attempt (app : Application) (v : Visit) :
    Endpoint → Program (Except Refusal Http.Response × Session)
  | .ready => return (.ok (Health.probe app.health.ready), v.session)
  | .live => return (.ok (Health.probe app.health.live), v.session)
  | .loginStart => do
    match ← (Login.start app.credentials app.approvalUrl).run with
    | .ok request =>
      return (.ok (.json 200 request.toJson), v.session.storeChallenge request.challenge)
    | .error e => return (.error (.script .internalError e.message), v.session)
  | .loginCallback =>
    match Http.queryField v.query "access_code" with
    | .error fault => return (.error (.query fault.message), v.session)
    | .ok raw => do
      let (challenge, session) := v.session.takeChallenge
      match ← (Login.complete app.credentials v.now (AccessCode.parse raw) challenge).run with
      | .ok user => return (.ok (.redirect "/projects"), session.signIn user)
      | .error e => return (.error (Site.loginRefusal e), session)
  | .logout => return (.ok (.redirect "/"), v.session.purge)
  | .home => untold v (Site.home v)
  | .projectSearch => untold v (Site.projectSearch v)
  | .projects => untold v (Site.projectList v)
  | .project id => untold v (Site.projectDetail id v)
  | .rulesets => untold v (Site.rulesetList v)
  | .rulesetNew => untold v (Site.rulesetNew v)
  | .rulesetEdit id => untold v (Site.rulesetEdit id v)
  | .rulesetCreate => untold v (Site.rulesetCreate v)
  | .rulesetUpdate id => untold v (Site.rulesetUpdate id v)
  | .rulesetDelete id => untold v (Site.rulesetDelete id v)
  | .ruleNew rulesetId => untold v (Site.ruleNew rulesetId v)
  | .ruleEdit rulesetId ruleId => untold v (Site.ruleEdit rulesetId ruleId v)
  | .ruleCreate rulesetId => untold v (Site.ruleCreate rulesetId v)
  | .ruleUpdate rulesetId ruleId => untold v (Site.ruleUpdate rulesetId ruleId v)
  | .ruleDelete rulesetId ruleId => untold v (Site.ruleDelete rulesetId ruleId v)
  | .ruleReorder rulesetId ruleId => untold v (Site.ruleReorder rulesetId ruleId v)
  | .export hash => untold v (Site.export hash v)

/-- The answer to a visit before it is told; what nobody handles is not found. -/
def attemptVisit (app : Application) (v : Visit) :
    Program (Except Refusal Http.Response × Session) :=
  match Endpoint.ofRequest v.request with
  | some endpoint => app.attempt v endpoint
  | none => return (.ok (.empty 404), v.session)

variable (app : Application) (trace : TraceId) (v : Visit)

theorem settle_eq_tell (h : Handling) : settle trace v h = tell trace <$> untold v h := by
  simp only [settle, untold, map_bind, map_pure]
  refine bind_congr fun answer => ?_
  cases answer <;> rfl

theorem loginStart_eq_tell :
    app.handle trace v .loginStart = tell trace <$> app.attempt v .loginStart := by
  simp only [handle_loginStart, Site.loginStart, attempt, map_bind]
  refine bind_congr fun answer => ?_
  cases answer <;> rfl

theorem loginCallback_eq_tell :
    app.handle trace v .loginCallback = tell trace <$> app.attempt v .loginCallback := by
  simp only [handle_loginCallback, Site.loginCallback, attempt]
  cases Http.queryField v.query "access_code" with
  | error fault => rfl
  | ok raw =>
    simp only [map_bind]
    refine bind_congr fun answer => ?_
    cases answer <;> rfl

theorem handle_eq_tell (e : Endpoint) : app.handle trace v e = tell trace <$> app.attempt v e := by
  cases e with
  | ready | live | logout => rfl
  | loginStart => exact app.loginStart_eq_tell trace v
  | loginCallback => exact app.loginCallback_eq_tell trace v
  | _ => simp only [handle, attempt, settle_eq_tell]

/-- The trace id has no part in a visit but that a refusal is told under it. -/
theorem visit_eq_tell : app.visit trace v = tell trace <$> app.attemptVisit v := by
  unfold attemptVisit
  cases hfind : Endpoint.ofRequest v.request with
  | none =>
    rw [app.visit_of_none trace v hfind]
    rfl
  | some e =>
    rw [app.visit_of_endpoint trace v hfind]
    exact app.handle_eq_tell trace v e

end Application

/-! ## Pages and bodies that name the id -/

theorem Http.Response.filter_setHeader (r : Http.Response) (name value : String) :
    (r.setHeader name value).headers.filter (·.1 = name) = [(name, value)] := by
  simp [setHeader, List.filter_filter]

theorem TraceId.escape_render (t : TraceId) : Text.Html.escape t.render = t.render := by
  have hdigit : ∀ d, digitChar d ∉ ['&', '<', '>', '"', '\'', '/'] := by decide
  refine Text.Html.escape_of_not_mem fun c hc => ?_
  rcases mem_render hc with rfl | ⟨d, rfl⟩
  · decide
  · exact hdigit d

theorem TraceId.render_ne_empty (t : TraceId) : t.render ≠ "" := by
  intro hempty
  have hlength := length_hyphenate t.digits_digitChar.length_eq
  rw [← renderChars, ← String.toList_ofList (l := t.renderChars), ← render, hempty] at hlength
  cases hlength

theorem Page.chars_infix {p q : Page} (h : p <:+: q) : p.chars <:+: q.chars := by
  obtain ⟨before, behind, rfl⟩ := h
  exact ⟨chars before, chars behind, by rw [chars_append, chars_append]⟩

theorem Page.infix_layout (title : String) (user : Option User) (body script : Page) :
    body <:+: layout title user body script := by
  rw [layout, List.append_assoc, List.append_assoc]
  exact ⟨_, _, rfl⟩

/-- The page of a failure shows its trace id next to the status. -/
theorem Page.shows_failure (status : Nat) (message : String) (t : TraceId) :
    (String.ofList (Nat.toDigits 10 status) ++ " · trace " ++ t.render).toList <:+:
      (failure status message (some t.render)).render.toList := by
  have hshown : [number status] ++ [.fixed " · trace ", .text t.render] <:+:
      failure status message (some t.render) := by
    refine List.IsInfix.trans ?_ (infix_layout _ _ _ _)
    rw [ifText, when, if_pos (decide_eq_true t.render_ne_empty)]
    exact ⟨_, _, congrArg (· ++ _) (List.append_assoc _ _ _).symm⟩
  have hdigits : Text.Html.escape (String.ofList (Nat.toDigits 10 status)) =
      String.ofList (Nat.toDigits 10 status) := by
    refine Text.Html.escape_of_not_mem fun c hc hspecial => ?_
    rw [String.toList_ofList] at hc
    have hdigit : c.isDigit = true := Nat.isDigit_of_mem_toDigits (by decide) (by decide) hc
    simp only [List.mem_cons, List.not_mem_nil, or_false] at hspecial
    rcases hspecial with rfl | rfl | rfl | rfl | rfl | rfl <;> cases hdigit
  have hchars := chars_infix hshown
  rw [← toList_render, ← toList_render] at hchars
  have hrender : render ([number status] ++ [.fixed " · trace ", .text t.render]) =
      String.ofList (Nat.toDigits 10 status) ++ " · trace " ++ t.render := by
    simp [render, number, Piece.render, hdigits, t.escape_render, String.join]
  rwa [hrender] at hchars

/-- A failure in the scope of a trace id has that id, whether its message is blank or not. -/
theorem Failure.traceId_new (trace : TraceId) (code : FailureCode) (message : String) :
    (new (some trace) code message).traceId = some trace.render := by
  unfold new
  split
  · next f hnew =>
    unfold tryNew at hnew
    split at hnew
    · cases hnew
      rfl
    · cases hnew
  · rfl

/-- The body of a failure with a trace id names it. -/
theorem Failure.get?_traceId_body {f : Failure} {id : String} (h : f.traceId = some id) :
    f.body.get? "traceId" = some (.string id) := by
  simp [body, h, optionalMember, Json.get?, Json.memberOf]

/-! ## Responses that bear an id -/

/-- A response that comes of an answer bears a trace id: it has one header with the id, and if the
answer is a refusal that is told in JSON or on a page, the body names the same id. -/
structure Http.Response.Bears (r : Http.Response) (id : TraceId)
    (answer : Except Refusal Http.Response) : Prop where
  header : r.headers.filter (·.1 = traceHeader) = [(traceHeader, id.render)]
  script : ∀ code message, answer = .error (.script code message) →
    ∃ body : Json, r.body = body.render ∧ body.get? "traceId" = some (.string id.render)
  page : ∀ status message, answer = .error (.page status message) →
    r.body = (Page.failure status message (some id.render)).render ∧
      (String.ofList (Nat.toDigits 10 status) ++ " · trace " ++ id.render).toList <:+: r.body.toList

namespace Refusal

variable (id : TraceId)

theorem body_page (status : Nat) (message : String) :
    ((page status message).response id).body =
      (Page.failure status message (some id.render)).render := by
  simp only [response, PageFailure.new, PageFailure.response, Option.map_some,
    Http.Response.traced, Http.Response.withHeader, id.isHeaderValue_render, if_true,
    Http.Response.setHeader, Http.Response.of]

theorem body_script (code : FailureCode) (message : String) :
    ((script code message).response id).body =
      (Failure.new (some id) code message).body.render := by
  simp only [response, Failure.response, Failure.traceId_new, Http.Response.traced,
    Http.Response.withHeader, id.isHeaderValue_render, if_true, Http.Response.setHeader,
    Http.Response.json, Http.Response.of]

end Refusal

/-- An answer that is told under an id bears it, once the header is set. -/
theorem Handling.bears_answer (id : TraceId) (answer : Except Refusal Http.Response) :
    ((Handling.answer id answer).setHeader traceHeader id.render).Bears id answer where
  header := Http.Response.filter_setHeader _ _ _
  script := by
    rintro code message rfl
    exact ⟨_, Refusal.body_script id code message,
      Failure.get?_traceId_body (Failure.traceId_new id code message)⟩
  page := by
    rintro status message rfl
    have hbody := Refusal.body_page id status message
    exact ⟨hbody, hbody.symm ▸ Page.shows_failure status message id⟩

namespace Scene

variable (s : Setting) (p : Scene) (t : Turn)

/-- The answer to a turn before it is told, and the session after it. -/
def answered : Except Refusal Http.Response × Session :=
  (((t.application s).attemptVisit ⟨t.request, p.session t, t.now⟩).runIn (t.around s) p.world).1

theorem handled_eq_tell : (p.handled s t).1 = Application.tell t.traceId (p.answered s t) := by
  rw [handled, answered, Application.visit_eq_tell, map_eq_pure_bind, Program.runIn_bind]
  generalize Program.runIn (t.around s) _ p.world = out
  rfl

theorem response_eq :
    (p.outcome s t).1.response =
      if (p.answered s t).2.canSave then
        (Handling.answer t.traceId (p.answered s t).1).setHeader traceHeader t.traceId.render
      else .empty 500 := by
  rw [outcome_eq, handled_eq_tell, Application.finish, Application.tell]
  split <;> rfl

/-- A response bears the trace id of its turn if the session can be saved. -/
theorem bears_traceId (h : (p.answered s t).2.canSave = true) :
    (p.outcome s t).1.response.Bears t.traceId (p.answered s t).1 := by
  rw [response_eq, if_pos h]
  exact Handling.bears_answer t.traceId _

end Scene

/-- The description of the interface bears the trace id of the request for it. -/
theorem Service.bears_description (s : Service) (fresh : TraceId) (now : Time.Timestamp)
    (cookie : Option (List (String × Json))) {r : Http.Request}
    (h : r.method = "GET" ∧ (Http.splitTarget r.target).1 = descriptionPath)
    (around : Surroundings) (w : World) :
    ((s.serve fresh now cookie r).runIn around w).1.response.Bears (Application.traceOf r fresh)
      (.ok (.json 200 Description.interface.toJson)) := by
  rw [serve, if_pos h, Application.finish_ofCookie]
  exact Handling.bears_answer (Application.traceOf r fresh) (.ok _)

/-- **Trace ids agree everywhere.** Every request is handled under one trace id: the one it names,
in any spelling, or a fresh one. Whatever the handler comes to, if the session can be saved the
response bears that id, and so does the response to any later request that sends the id back. If the
session cannot be saved, the response is a plain failure without headers. -/
theorem trace_ids_agree (s : Setting) (p : Scene) (t : Turn) :
    ∃ id, (∀ named, t.request.Names named → id = named) ∧
      ((∀ named, ¬ t.request.Names named) → id = t.trace) ∧
      ((p.answered s t).2.canSave = true →
        (p.outcome s t).1.response.Bears id (p.answered s t).1) ∧
      ((p.answered s t).2.canSave = false → (p.outcome s t).1.response = .empty 500) ∧
      ∀ (later : Scene) (back : Turn), back.request.header? traceHeader = some id.render →
        (later.answered s back).2.canSave = true →
          (later.outcome s back).1.response.Bears id (later.answered s back).1 := by
  refine ⟨t.traceId, fun named hnamed => ?_, fun hnone => ?_, p.bears_traceId s t, fun hsave => ?_,
    fun later back hback hsave => ?_⟩
  · exact Application.traceOf_of_names hnamed t.trace
  · exact Application.traceOf_of_not_names hnone t.trace
  · rw [p.response_eq s t, if_neg (Bool.eq_false_iff.mp hsave)]
  · have hsame : back.traceId = t.traceId :=
      Application.traceOf_of_names (Http.Request.names_of_render hback) back.trace
    exact hsame ▸ later.bears_traceId s back hsave

/-- The login of a user with a name of five thousand letters is answered without a trace id. -/
theorem no_trace_id_for_long_name :
    let name := String.ofList (List.replicate 5000 'n')
    let response := (Scene.begun.outcome .plain (.welcomed name)).1.response
    response.status = 500 ∧ response.headers.filter (·.1 = traceHeader) = [] := by
  intro name response
  have hreturns := Scene.returns_begun name
  have hsave :
      (Scene.begun.signedIn (.welcomed name) (Platform.welcomed name)).canSave = false := by
    refine Bool.eq_false_iff.mpr fun hsaved => ?_
    have hlength : name.toList.length = 5000 := by
      rw [String.toList_ofList, List.length_replicate]
    have hname := ((hreturns.canSave_iff.2 _).mp hsaved).length_text_le
      (Session.value?_signIn (by decide +kernel) _)
    rw [show (Platform.welcomed name).name = name from rfl, hlength] at hname
    exact absurd hname (by decide)
  have hresponse : response = .empty 500 := by
    change (Scene.begun.outcome .plain (.welcomed name)).1.response = _
    rw [Scene.outcome_eq, hreturns.handled_eq,
      Login.verdict_eq_ok_iff.mpr (Platform.granted_welcoming name _ _ _), Scene.told,
      Application.finish, hsave]
    rfl
  rw [hresponse]
  exact ⟨rfl, rfl⟩

end Rulebook
