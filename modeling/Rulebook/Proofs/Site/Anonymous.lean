import Rulebook.Proofs.Program.Views
import Rulebook.Proofs.Ruleset.RoundTrip
import Rulebook.Proofs.Site.Automaton

/-!
# Visitors who are not signed in

A request whose session does not say completely who its user is learns nothing of what is kept.
Pages for users lead to the start page and the interface for scripts refuses, before anything is
looked up; a login that is begun draws a challenge. Only an export looks at the store for such a
visitor, and then at nothing but the rulesets of its public name and the rules of these.
-/

namespace Rulebook

open Attempt (Only only_pure only_throw)

/-! ## Complete sessions -/

/-- A session that says who its user is: all three entries are texts, and the first is a user id. -/
def Session.Complete (s : Session) : Prop :=
  ∃ id name email, s.value? Session.userIdKey = some (.string id) ∧
    s.value? Session.userNameKey = some (.string name) ∧
    s.value? Session.userEmailKey = some (.string email) ∧ id ≠ "" ∧ Text.trim id = id

theorem Session.text?_eq_some_iff {s : Session} {name text : String} :
    s.text? name = some text ↔ s.value? name = some (.string text) := by
  unfold text?
  split
  · next t h => simp [h]
  · next h =>
    constructor
    · intro hnone
      cases hnone
    · intro hvalue
      exact absurd hvalue (h text)

/-- A session has no user exactly where it is not complete. -/
theorem Session.user?_eq_none_iff (s : Session) : s.user? = none ↔ ¬ s.Complete := by
  constructor
  · rintro hnone ⟨id, name, email, hid, hname, hemail, hvalid⟩
    rw [← text?_eq_some_iff] at hid hname hemail
    simp [user?, hid, hname, hemail, UserId.of, show UserId.Valid id from hvalid] at hnone
  · intro hincomplete
    unfold user?
    split
    · next id name email hid hname hemail =>
      rw [text?_eq_some_iff] at hid hname hemail
      have hinvalid : ¬ UserId.Valid id := fun hvalid =>
        hincomplete ⟨id, name, email, hid, hname, hemail, hvalid⟩
      unfold UserId.of
      rw [dif_neg hinvalid]
      by_cases hempty : id = "" <;> simp [hempty]
    · rfl

/-! ## Whom an endpoint is for -/

/-- Whom an endpoint is for. -/
inductive Audience where
  | everyone
  | users
  | scripts
deriving DecidableEq, Repr

namespace Endpoint

/-- Whom an endpoint is for: the pages and forms of projects, rulesets and rules are for users. -/
def audience : Endpoint → Audience
  | .ready | .live | .loginStart | .loginCallback | .logout | .home | .export _ => .everyone
  | .rulesetDelete _ | .ruleDelete _ _ | .ruleReorder _ _ => .scripts
  | .projectSearch | .projects | .project _ | .rulesets | .rulesetNew | .rulesetEdit _
  | .rulesetCreate | .rulesetUpdate _ | .ruleNew _ | .ruleEdit _ _ | .ruleCreate _
  | .ruleUpdate _ _ => .users

/-- The field of the query that an endpoint reads, if it reads one. -/
def queryName : Endpoint → Option String
  | .projects => some "cursor"
  | .projectSearch => some "q"
  | .rulesetNew => some "project_id"
  | .ruleReorder _ _ => some "direction"
  | .loginCallback => some "access_code"
  | _ => none

/-- Whether the query of a request can be read by an endpoint. -/
def Decodes (e : Endpoint) (r : Http.Request) : Prop :=
  ∀ name ∈ e.queryName,
    ∃ value, Http.queryField (Http.queryPairs (Http.splitTarget r.target).2) name = .ok value

/-- What a request asks for. -/
def ofRequest (r : Http.Request) : Option Endpoint :=
  find? r.method (Http.splitTarget r.target).1

end Endpoint

/-! ## How visitors are turned away -/

/-- How a visitor who is not signed in is turned away. -/
def Audience.turnAway : Audience → Handling
  | .scripts => throw (.script .unauthorized "Unauthorized")
  | .users | .everyone => pure (.redirect "/")

/-- How an endpoint for users or scripts turns a visitor away: it reads the query first. -/
def Endpoint.turnAway (e : Endpoint) (v : Visit) : Handling :=
  match e.queryName with
  | none => e.audience.turnAway
  | some name => v.field name >>= fun _ => e.audience.turnAway

theorem Audience.only_turnAway (a : Audience) {P : Call → Prop} : a.turnAway.Only P := by
  cases a with
  | scripts => exact only_throw _
  | users | everyone => exact only_pure _

namespace Endpoint

variable (e : Endpoint) (v : Visit)

theorem only_turnAway {P : Call → Prop} : (e.turnAway v).Only P := by
  unfold turnAway
  split
  · exact e.audience.only_turnAway
  · exact Only.bind (v.only_field _) fun _ => e.audience.only_turnAway

theorem turnAway_of_decodes (h : e.Decodes v.request) : e.turnAway v = e.audience.turnAway := by
  unfold turnAway
  cases hname : e.queryName with
  | none => rfl
  | some name =>
    obtain ⟨value, hvalue⟩ := h name hname
    change Http.queryField v.query name = .ok value at hvalue
    dsimp only
    rw [Visit.field, hvalue]
    rfl

end Endpoint

namespace Application

variable (app : Application) (trace : TraceId) {v : Visit} {e : Endpoint}

theorem only_settle {P : Call → Prop} {h : Handling} (hp : h.Only P) :
    (settle trace v h).Only P := by
  refine Program.Only.bind hp fun r => ?_
  cases r <;> exact .done _

/-- An endpoint for users or scripts turns visitors away that are not signed in. -/
theorem handle_eq_turnAway (hv : v.session.user? = none) (he : e.audience ≠ .everyone) :
    app.handle trace v e = settle trace v (e.turnAway v) := by
  have huser : ∀ page, v.forUser page = Audience.users.turnAway := by
    intro page
    rw [Visit.forUser, hv]
    rfl
  have hscript : ∀ answer, v.forScript answer = Audience.scripts.turnAway := by
    intro answer
    rw [Visit.forScript, hv]
    rfl
  cases e with
  | ready | live | loginStart | loginCallback | logout | home => exact absurd rfl he
  | «export» hash => exact absurd rfl he
  | projects | projectSearch | rulesetNew =>
    exact congrArg (settle trace v) (bind_congr fun _ => huser _)
  | ruleReorder => exact congrArg (settle trace v) (bind_congr fun _ => hscript _)
  | rulesetDelete | ruleDelete => exact congrArg (settle trace v) (hscript _)
  | project | rulesets | rulesetEdit | rulesetCreate | rulesetUpdate | ruleNew | ruleEdit
  | ruleCreate | ruleUpdate => exact congrArg (settle trace v) (huser _)

/-- What visitors who are not signed in may ask for: nothing but a fresh challenge. -/
theorem only_handle_anonymous (hv : v.session.user? = none) (hcallback : e ≠ .loginCallback)
    (hexport : ∀ hash, e ≠ .export hash) :
    (app.handle trace v e).Only fun call => call = .freshChallenge := by
  by_cases he : e.audience = .everyone
  · cases e with
    | ready | live | logout => exact .done _
    | loginCallback => exact absurd rfl hcallback
    | «export» hash => exact absurd rfl (hexport hash)
    | home =>
      have hhome : Site.home v = pure (Page.login none).respond := by rw [Site.home, hv]
      change (settle trace v (Site.home v)).Only _
      rw [hhome]
      exact .done _
    | loginStart =>
      rw [handle_loginStart, Site.loginStart]
      refine Program.Only.bind ?_ fun answer => ?_
      · unfold Login.start
        split
        · exact .done _
        · exact .ask rfl fun _ => .done _
      · cases answer <;> exact .done _
    | _ => cases he
  · rw [handle_eq_turnAway app trace hv he]
    exact only_settle trace (e.only_turnAway v)

theorem only_visit_anonymous (hv : v.session.user? = none)
    (hcallback : Endpoint.ofRequest v.request ≠ some .loginCallback)
    (hexport : ∀ hash, Endpoint.ofRequest v.request ≠ some (.export hash)) :
    (app.visit trace v).Only fun call => call = .freshChallenge := by
  cases hfind : Endpoint.ofRequest v.request with
  | none =>
    rw [app.visit_of_none trace v hfind]
    exact .done _
  | some e =>
    rw [hfind] at hcallback hexport
    rw [app.visit_of_endpoint trace v hfind]
    exact only_handle_anonymous app trace hv (mt (congrArg some) hcallback)
      fun hash => mt (congrArg some) (hexport hash)

end Application

/-! ## Exports -/

/-- Two stores with the same rulesets of an export's public name, and the same rules of each. -/
structure Store.SameExport (hash : String) (s₁ s₂ : Store) : Prop where
  rulesets : ∀ doc r, Rulesets.kind.ofDocument? doc = some r → Export.hashOf r = hash →
    (doc ∈ (s₁.shelf .rulesets).documents ↔ doc ∈ (s₂.shelf .rulesets).documents)
  rules : ∀ doc r, Rulesets.kind.ofDocument? doc = some r → Export.hashOf r = hash →
    doc ∈ (s₁.shelf .rulesets).documents →
      s₁.shelf (.rules doc.id) = s₂.shelf (.rules doc.id)

namespace Rulesets

variable {hash : String} {r : Ruleset} {around : Surroundings} {w w₁ w₂ : World}

/-- The look-up of a public name goes by the listing, unless that fails. -/
theorem findByHash_runIn_outages (around : Surroundings) (w : World) (hash : String) :
    (findByHash hash).runIn around w =
      (match Outage.meets? around.outages (.list .rulesets none) with
        | some e => .error e
        | none => .ok ((kind.listing (w.store.shelf .rulesets).documents).items.find? fun r =>
          Export.hashOf r = hash), w) := by
  rw [findByHash, list, Attempt.runIn_bind, Attempt.runIn_bind, Attempt.runIn_list]
  cases Outage.meets? around.outages (.list .rulesets none) <;> rfl

theorem findByHash_eq (h : w₁.store.SameExport hash w₂.store) :
    ((findByHash hash).runIn around w₁).1 = ((findByHash hash).runIn around w₂).1 := by
  have hdocuments : (w₁.store.shelf .rulesets).documents.filter
        (fun d => (kind.ofDocument? d).any fun r => Export.hashOf r = hash) =
      (w₂.store.shelf .rulesets).documents.filter
        (fun d => (kind.ofDocument? d).any fun r => Export.hashOf r = hash) := by
    refine Shelf.filter_eq_of_mem_iff fun d hd => ?_
    obtain ⟨r, hr, hhash⟩ := (Option.any_eq_true _ _).mp hd
    exact h.rulesets d r hr (of_decide_eq_true hhash)
  rw [findByHash_runIn_outages, findByHash_runIn_outages, kind.find?_items, kind.find?_items,
    hdocuments]

/-- What is found is the value of a document with the public name. -/
theorem mem_of_findByHash (h : ((findByHash hash).runIn around w).1 = .ok (some r)) :
    ∃ doc ∈ (w.store.shelf .rulesets).documents, kind.ofDocument? doc = some r ∧
      Export.hashOf r = hash ∧ r.id = doc.id := by
  rw [findByHash_runIn_outages] at h
  cases hout : Outage.meets? around.outages (.list .rulesets none) with
  | some e => simp [hout] at h
  | none =>
    have hfind : (kind.listing (w.store.shelf .rulesets).documents).items.find?
        (fun r => Export.hashOf r = hash) = some r := by simpa [hout] using h
    obtain ⟨doc, hdoc, hr⟩ := DocumentKind.mem_items.mp (List.mem_of_find?_eq_some hfind)
    have hhash : Export.hashOf r = hash := by simpa using List.find?_some hfind
    exact ⟨doc, hdoc, hr, hhash, writes.idOf_of_ofDocument? hr⟩

end Rulesets

/-- An export looks at the rulesets of its public name and at the rules of these, and at nothing
else. -/
theorem Site.export_runIn_eq {hash : String} {around : Surroundings} {w₁ w₂ : World} (v : Visit)
    (h : w₁.store.SameExport hash w₂.store) :
    ((Site.export hash v).runIn around w₁).1 = ((Site.export hash v).runIn around w₂).1 := by
  have hworld : ∀ w, ((Rulesets.findByHash hash).runIn around w).2 = w := fun w =>
    Program.world_of_only around (Rulesets.views_findByHash hash).looks w
  have hfound : ((Rulesets.findByHash hash).runIn around w₁).1 =
      ((Rulesets.findByHash hash).runIn around w₂).1 := Rulesets.findByHash_eq h
  rw [Site.export, Attempt.runIn_bind, Attempt.runIn_bind, Attempt.orRefuse, Attempt.runIn_orFail,
    Attempt.runIn_orFail, hworld, hworld, ← hfound]
  cases hresult : ((Rulesets.findByHash hash).runIn around w₁).1 with
  | error e => rfl
  | ok found =>
    cases found with
    | none => rfl
    | some r =>
      obtain ⟨doc, hdoc, hr, hhash, hid⟩ := Rulesets.mem_of_findByHash hresult
      have hshelf : w₁.store.shelf (.rules r.id) = w₂.store.shelf (.rules r.id) := by
        rw [hid]
        exact h.rules doc r hr hhash hdoc
      have hrules : ((Rules.list r.id).runIn around w₁).1 = ((Rules.list r.id).runIn around w₂).1 :=
        Program.runIn_eq_of_views (Rules.views_list r.id) hshelf
      simp only [Attempt.mapError_ok, Attempt.runIn_bind, Attempt.orRefuse, Attempt.runIn_orFail,
        ← hrules]
      cases ((Rules.list r.id).runIn around w₁).1 with
      | error e => rfl
      | ok listing =>
        simp only [Attempt.mapError_ok]
        cases Export.tsv listing.items <;> rfl

/-! ## The answers to visitors -/

theorem TraceId.mem_hyphenate {c : Char} {cs : List Char} (h : c ∈ hyphenate cs) :
    c = '-' ∨ c ∈ cs := by
  simp only [hyphenate, List.mem_append, List.mem_cons] at h
  rcases h with h | h | h | h | h | h | h | h | h
  all_goals first | exact .inl h | skip
  · exact .inr (List.mem_of_mem_take h)
  · exact .inr (List.mem_of_mem_drop (List.mem_of_mem_take h))
  · exact .inr (List.mem_of_mem_drop (List.mem_of_mem_take h))
  · exact .inr (List.mem_of_mem_drop (List.mem_of_mem_take h))
  · exact .inr (List.mem_of_mem_drop h)

/-- A trace id can be written into a header. -/
theorem TraceId.isHeaderValue_render (t : TraceId) : Http.isHeaderValue t.render = true := by
  have hdigit : ∀ d : Fin 16, (!Http.isForbidden (digitChar d)) = true := by decide
  rw [Http.isHeaderValue, render, String.toList_ofList, List.all_eq_true]
  intro c hc
  rcases mem_hyphenate hc with rfl | hc
  · decide
  · obtain ⟨d, -, rfl⟩ := List.mem_map.mp hc
    exact hdigit d

/-- A session that was not touched only gives its response the trace id. -/
theorem Application.finish_ofCookie (trace : TraceId) (cookie : Option (List (String × Json)))
    (response : Http.Response) :
    finish trace cookie response (.ofCookie cookie) =
      ⟨response.setHeader traceHeader trace.render, .unchanged, cookie⟩ := by
  cases cookie <;> rfl

/-- The response by which an audience is turned away. -/
def Audience.away (trace : TraceId) : Audience → Http.Response
  | .scripts => (Refusal.script .unauthorized "Unauthorized").response trace
  | .users | .everyone => .redirect "/"

theorem Audience.settle_turnAway (a : Audience) (trace : TraceId) (v : Visit) :
    Application.settle trace v a.turnAway = pure (a.away trace, v.session) := by
  cases a <;> rfl

/-- The response to scripts that are turned away. -/
theorem Audience.away_scripts (trace : TraceId) :
    (Audience.scripts.away trace).status = 401 ∧
      ∃ body : Json, (Audience.scripts.away trace).body = body.render ∧
        body.get? "error" = some (.string "Unauthorized") := by
  have hsays : Text.saysNothing "Unauthorized" = false := by decide
  have hfailure : Failure.new (some trace) .unauthorized "Unauthorized" =
      ⟨.unauthorized, "Unauthorized", some trace.render, none, hsays⟩ := by
    simp [Failure.new, Failure.tryNew, hsays]
  simp only [away, Refusal.response, hfailure, Failure.response, Http.Response.traced,
    Http.Response.withHeader, trace.isHeaderValue_render, if_true]
  exact ⟨rfl, _, rfl, rfl⟩

namespace Application

variable (app : Application) (fresh : TraceId) (now : Time.Timestamp)
  (cookie : Option (List (String × Json))) (r : Http.Request)

/-- A request from end to end, from what comes of the visit. -/
theorem serve_runIn_of_visit {around : Surroundings} {w w' : World} {response : Http.Response}
    {session : Session}
    (h : (app.visit (traceOf r fresh) ⟨r, .ofCookie cookie, now⟩).runIn around w =
      ((response, session), w')) :
    (app.serve fresh now cookie r).runIn around w =
      (finish (traceOf r fresh) cookie response session, w') := by
  have hserve := app.serve_runIn around fresh now cookie r w
  rwa [h] at hserve

/-- The outcome of a request without a user at an endpoint for users or scripts. -/
theorem serve_away {e : Endpoint} (hv : (Session.ofCookie cookie).user? = none)
    (hrequest : Endpoint.ofRequest r = some e) (he : e.audience ≠ .everyone) (hquery : e.Decodes r)
    (around : Surroundings) (w : World) :
    ((app.serve fresh now cookie r).runIn around w).1 =
      ⟨(e.audience.away (traceOf r fresh)).setHeader traceHeader (traceOf r fresh).render,
        .unchanged, cookie⟩ := by
  have hvisit : app.visit (traceOf r fresh) ⟨r, .ofCookie cookie, now⟩ =
      pure (e.audience.away (traceOf r fresh), .ofCookie cookie) := by
    rw [app.visit_of_endpoint _ ⟨r, .ofCookie cookie, now⟩ hrequest,
      app.handle_eq_turnAway _ hv he, e.turnAway_of_decodes ⟨r, .ofCookie cookie, now⟩ hquery,
      e.audience.settle_turnAway]
  rw [app.serve_runIn_of_visit fresh now cookie r (congrArg (Program.runIn around · w) hvisit)]
  exact finish_ofCookie _ _ _

theorem only_serve_anonymous (hv : (Session.ofCookie cookie).user? = none)
    (hcallback : Endpoint.ofRequest r ≠ some .loginCallback)
    (hexport : ∀ hash, Endpoint.ofRequest r ≠ some (.export hash)) :
    (app.serve fresh now cookie r).Only fun call => call = .freshChallenge :=
  Program.Only.bind
    (only_visit_anonymous app _ (v := ⟨r, .ofCookie cookie, now⟩) hv hcallback hexport)
    fun _ => .done _

/-- What a handling comes to decides what it is answered. -/
theorem settle_runIn_eq (trace : TraceId) (v : Visit) {h : Handling} {around : Surroundings}
    {w₁ w₂ : World} (heq : (h.runIn around w₁).1 = (h.runIn around w₂).1) :
    ((settle trace v h).runIn around w₁).1 = ((settle trace v h).runIn around w₂).1 := by
  change (Program.runIn around h.run w₁).1 = (Program.runIn around h.run w₂).1 at heq
  rw [settle, Program.runIn_bind, Program.runIn_bind, heq]
  cases (Program.runIn around h.run w₂).1 <;> rfl

/-- A request for an export looks at what the export looks at, and leaves the world alone. -/
theorem serve_export {hash : String} (hrequest : Endpoint.ofRequest r = some (.export hash))
    (around : Surroundings) :
    (∀ w, ((app.serve fresh now cookie r).runIn around w).2 = w) ∧
      ∀ w₁ w₂, w₁.store.SameExport hash w₂.store →
        ((app.serve fresh now cookie r).runIn around w₁).1 =
          ((app.serve fresh now cookie r).runIn around w₂).1 := by
  have hvisit : app.visit (traceOf r fresh) ⟨r, .ofCookie cookie, now⟩ =
      settle (traceOf r fresh) ⟨r, .ofCookie cookie, now⟩ (Site.export hash _) :=
    app.visit_of_endpoint _ ⟨r, .ofCookie cookie, now⟩ hrequest
  have hlooks : (app.serve fresh now cookie r).Only Call.Looks := by
    refine Program.Only.bind ?_ fun _ => .done _
    rw [hvisit]
    exact only_settle _ ((Site.views_export _ hash).mono fun _ => And.right)
  refine ⟨fun w => Program.world_of_only around hlooks w, fun w₁ w₂ hsame => ?_⟩
  obtain ⟨response₁, h₁⟩ := settle_runIn (traceOf r fresh) ⟨r, .ofCookie cookie, now⟩ around
    (Site.export hash ⟨r, .ofCookie cookie, now⟩) w₁
  obtain ⟨response₂, h₂⟩ := settle_runIn (traceOf r fresh) ⟨r, .ofCookie cookie, now⟩ around
    (Site.export hash ⟨r, .ofCookie cookie, now⟩) w₂
  have hresponse : response₁ = response₂ := by
    have hexport : ((Site.export hash ⟨r, .ofCookie cookie, now⟩).runIn around w₁).1 =
        ((Site.export hash ⟨r, .ofCookie cookie, now⟩).runIn around w₂).1 :=
      Site.export_runIn_eq _ hsame
    have hsettle := settle_runIn_eq (traceOf r fresh) ⟨r, .ofCookie cookie, now⟩ hexport
    rw [h₁, h₂] at hsettle
    exact congrArg Prod.fst hsettle
  rw [← hvisit] at h₁ h₂
  rw [app.serve_runIn_of_visit fresh now cookie r h₁,
    app.serve_runIn_of_visit fresh now cookie r h₂, hresponse]

end Application

/-- **Visitors learn nothing of what is kept.** A request whose session does not say completely who
its user is, to anything but the end of a login and the exports, has one outcome whatever is kept:
it depends on the challenges to come alone, and neither the store nor the log of questions to the
platform changes. Where the query can be read, the pages and forms of projects, rulesets and rules
lead to the start page and the interface for scripts refuses. An export, whoever asks for it,
depends on the rulesets of its public name and the rules of these alone. -/
theorem anonymous_noninterference (app : Application) (fresh : TraceId) (now : Time.Timestamp)
    (cookie : Option (List (String × Json))) (r : Http.Request) :
    (¬ (Session.ofCookie cookie).Complete → Endpoint.ofRequest r ≠ some .loginCallback →
      (∀ hash, Endpoint.ofRequest r ≠ some (.export hash)) →
        (∀ around₁ w₁ around₂ w₂, SameDraws around₁ w₁ around₂ w₂ →
          ((app.serve fresh now cookie r).runIn around₁ w₁).1 =
            ((app.serve fresh now cookie r).runIn around₂ w₂).1) ∧
        ∀ around w, ((app.serve fresh now cookie r).runIn around w).2.store = w.store ∧
          ((app.serve fresh now cookie r).runIn around w).2.asked = w.asked) ∧
    (¬ (Session.ofCookie cookie).Complete → ∀ e, Endpoint.ofRequest r = some e → e.Decodes r →
      ∀ around w,
        let response := ((app.serve fresh now cookie r).runIn around w).1.response
        (e.audience = .users →
          response.status = 302 ∧ response.headers.lookup "location" = some "/") ∧
        (e.audience = .scripts → response.status = 401 ∧ ∃ body : Json,
          response.body = body.render ∧ body.get? "error" = some (.string "Unauthorized"))) ∧
    ∀ hash, Endpoint.ofRequest r = some (.export hash) → ∀ around,
      (∀ w, ((app.serve fresh now cookie r).runIn around w).2 = w) ∧
        ∀ w₁ w₂, w₁.store.SameExport hash w₂.store →
          ((app.serve fresh now cookie r).runIn around w₁).1 =
            ((app.serve fresh now cookie r).runIn around w₂).1 := by
  refine ⟨fun hincomplete hcallback hexport => ?_, fun hincomplete e hrequest hquery around w => ?_,
    fun hash hrequest around => app.serve_export fresh now cookie r hrequest around⟩
  · have hv := (Session.user?_eq_none_iff _).mpr hincomplete
    have honly := app.only_serve_anonymous fresh now cookie r hv hcallback hexport
    exact ⟨fun around₁ w₁ around₂ w₂ hdraws => Program.runIn_eq_of_draws honly hdraws,
      fun around w => Program.world_of_draws honly around w⟩
  · have hv := (Session.user?_eq_none_iff _).mpr hincomplete
    refine ⟨fun he => ?_, fun he => ?_⟩
    · have hserve := app.serve_away fresh now cookie r hv hrequest (by simp [he]) hquery around w
      rw [hserve, he]
      exact ⟨rfl, rfl⟩
    · have hserve := app.serve_away fresh now cookie r hv hrequest (by simp [he]) hquery around w
      rw [hserve, he]
      dsimp only [Http.Response.setHeader]
      exact Audience.away_scripts (Application.traceOf r fresh)

/-- A session without an email address: the deletion of a ruleset is refused whether the ruleset is
there or not, and an export of another name does not tell of it. -/
theorem anonymous_noninterference_of_partial_session :
    let now : Time.Timestamp := ⟨⟨2024, 6, 1, by decide⟩, 12, 30, 0, 0, by decide⟩
    let ada : User := ⟨⟨"u-1", by decide⟩, "Ada", "ada@example.com", none⟩
    let around := Surroundings.plain ada
    let app : Application := ⟨none, fun _ challenge => challenge.text, .start⟩
    let fresh : TraceId := (Turn.plain 0 ada "/").trace
    let cookie := some [("user_id", Json.string "u-1"), ("user_name", Json.string "Ada")]
    let walls : Ruleset := ⟨"c", "walls", "", "p", [], now, now⟩
    let kept : World := { World.start with store := Store.empty.set .rulesets "c" walls.toJson }
    let deletion : Http.Request := ⟨"DELETE", "/api/rulesets/c", [], []⟩
    let download : Http.Request := ⟨"GET", "/r/abc/tsv", [], []⟩
    (¬ (Session.ofCookie cookie).Complete ∧
      ((app.serve fresh now cookie deletion).runIn around kept).1 =
        ((app.serve fresh now cookie deletion).runIn around World.start).1 ∧
      ((app.serve fresh now cookie deletion).runIn around kept).2.store = kept.store ∧
      ((app.serve fresh now cookie deletion).runIn around kept).1.response.status = 401) ∧
    kept.store.SameExport "abc" World.start.store ∧
      ((app.serve fresh now cookie download).runIn around kept).1 =
        ((app.serve fresh now cookie download).runIn around World.start).1 := by
  intro now ada around app fresh cookie walls kept deletion download
  have hincomplete : ¬ (Session.ofCookie cookie).Complete :=
    (Session.user?_eq_none_iff _).mp (by decide)
  have hdeletion : Endpoint.ofRequest deletion = some (.rulesetDelete "c") := by decide +kernel
  have hexport : Endpoint.ofRequest download = some (.export "abc") := by decide +kernel
  obtain ⟨hsame, haway, -⟩ := anonymous_noninterference app fresh now cookie deletion
  obtain ⟨houtcome, hworld⟩ := hsame hincomplete (by simp [hdeletion]) (by simp [hdeletion])
  have hrefused := (haway hincomplete _ hdeletion (by simp [Endpoint.Decodes, Endpoint.queryName])
    around kept).2 rfl
  refine ⟨⟨hincomplete, houtcome around kept around World.start fun _ => rfl,
    (hworld around kept).1, hrefused.1⟩, ?_⟩
  have hother : ∀ d ∈ (kept.store.shelf .rulesets).documents,
      (Rulesets.kind.ofDocument? d).all fun r => Export.hashOf r ≠ "abc" := by
    decide +kernel
  have hread : ∀ d ∈ (kept.store.shelf .rulesets).documents, ∀ r,
      Rulesets.kind.ofDocument? d = some r → Export.hashOf r ≠ "abc" := by
    intro d hd r hr
    simpa [hr] using hother d hd
  have hnothing : kept.store.SameExport "abc" World.start.store := by
    refine ⟨fun doc r hr hhash => ?_, fun doc r hr hhash hdoc => ?_⟩
    · exact ⟨fun hdoc => absurd hhash (hread doc hdoc r hr),
        fun hdoc => absurd hdoc Shelf.mem_empty⟩
    · exact absurd hhash (hread doc hdoc r hr)
  exact ⟨hnothing, ((anonymous_noninterference app fresh now cookie download).2.2 "abc" hexport
    around).2 kept World.start hnothing⟩

end Rulebook
