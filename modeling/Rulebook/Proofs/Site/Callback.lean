import Rulebook.Proofs.Json.Bytes
import Rulebook.Proofs.Login.AllOrNothing
import Rulebook.Proofs.Login.Verdict
import Rulebook.Proofs.Site.Consumed

/-!
# What the browser is told about a login

A callback with everything a login needs is answered by the verdict on the two requests: with a
redirect if the login is granted and the session of the user can be saved, and otherwise with a page
that names the first stage that failed (`callbacks_tell_first_failure`).
-/

namespace Rulebook

/-- A callback with an access code that is not blank, a pending challenge and credentials, while the
store is without outages; the platform is behind a server, and the session was saved before. -/
structure Scene.Returns (s : Setting) (p : Scene) (t : Turn) (server : Platform.Server)
    (send : Platform.Request → Platform.Delivery) (c : AppCredentials) (k : AccessCode)
    (ch : ChallengeId) : Prop where
  endpoint : t.endpoint = some .loginCallback
  code : ∃ raw, t.accessCode = .ok raw ∧ AccessCode.parse raw = some k
  challenge : (p.session t).takeChallenge.1 = some ch
  credentials : s.credentials = some c
  calm : t.outages = []
  platform : t.platform = .behind server send
  fits : (p.session t).Fits

/-- The session of a user who has logged in. -/
def Scene.signedIn (p : Scene) (t : Turn) (user : User) : Session :=
  (p.session t).takeChallenge.2.signIn user

/-- The answer to a callback and the session after it, from the verdict on its requests. -/
def Scene.told (p : Scene) (t : Turn) : Except (Nat × String) User → Http.Response × Session
  | .ok user => (.redirect "/projects", p.signedIn t user)
  | .error (status, message) =>
    ((Refusal.page status message).response t.traceId, (p.session t).takeChallenge.2)

namespace Scene.Returns

variable {s : Setting} {p : Scene} {t : Turn} {server : Platform.Server}
  {send : Platform.Request → Platform.Delivery} {c : AppCredentials} {k : AccessCode}
  {ch : ChallengeId} (h : p.Returns s t server send c k ch)

include h

/-- The sessions that such a callback leaves are saved just when they fit. -/
theorem canSave_iff :
    (p.session t).takeChallenge.2.canSave = true ∧
      ∀ user, (p.signedIn t user).canSave = true ↔ (p.signedIn t user).Fits := by
  have hholds : (p.session t).holdsChallenge = true := by
    by_contra hnone
    have htaken := h.challenge
    rw [Session.takeChallenge_of_not_holds (by simpa using hnone)] at htaken
    cases htaken
  have hbrought : (p.session t).brought = true := Session.brought_of_holds hholds
  have htaken : (p.session t).takeChallenge.2.status = .changed ∧
      (p.session t).takeChallenge.2.brought = true := by
    simpa [Session.takeChallenge, Session.remove, session, Session.ofCookie] using hbrought
  refine ⟨(Session.canSave_of_changed htaken.1 htaken.2).mpr (h.fits.remove _), fun user => ?_⟩
  obtain ⟨hstatus, hsame⟩ := Session.signIn_of_changed htaken.1 user
  exact Session.canSave_of_changed hstatus (hsame.trans htaken.2)

/-- Such a callback is handled as the verdict on its requests says. -/
theorem handled_eq :
    (p.handled s t).1 = p.told t (Login.verdict (Platform.deliver send (.exchangeCode c k ch))
      fun token => Platform.deliver send (.activeUser token)) := by
  obtain ⟨raw, hcode, hparse⟩ := h.code
  have hcalm : (t.around s).calm = t.around s := by
    simp [Turn.around, Surroundings.calm, h.calm]
  have hends := Login.ends_complete (t.around s) t.now p.world (some c) (some k) (some ch)
  rw [hcalm] at hends
  have hhandled := handled_of_complete s p t h.endpoint hcode rfl
  rw [h.credentials, hparse, h.challenge] at hhandled
  rw [hhandled]
  have hplatform : (t.around s).platform = .behind server send := h.platform
  generalize (Login.complete (some c) t.now (some k) (some ch)).runIn (t.around s) p.world = out
    at hends
  cases hends with
  | missing hmissing => simp at hmissing
  | @refused _ _ _ e hgrant =>
    rw [hplatform] at hgrant
    obtain ⟨status, message, hverdict, hrefusal⟩ := Login.verdict_of_refused hgrant
    rw [hverdict, callbackAnswer, hrefusal, told]
  | @unknown _ _ _ grant e hgrant huser =>
    rw [hplatform] at hgrant huser
    obtain ⟨status, message, hverdict, hrefusal⟩ : ∃ status message,
        Login.verdict _ (fun token => Platform.deliver send (.activeUser token)) =
          .error (status, message) ∧ Site.loginRefusal (.identity e) = .page status message :=
      Login.verdict_of_unknown hgrant huser
    rw [hverdict, callbackAnswer, hrefusal, told]
  | @completed _ _ _ grant user w hgrant huser =>
    rw [hplatform] at hgrant huser
    have hverdict : Login.verdict _
        (fun token => Platform.deliver send (.activeUser token)) = .ok user :=
      Login.verdict_of_known hgrant huser
    rw [hverdict, callbackAnswer, told, signedIn]

/-- A granted login is answered with a redirect if the session can be saved. -/
theorem response_of_ok {user : User}
    (hverdict : Login.verdict (Platform.deliver send (.exchangeCode c k ch))
      (fun token => Platform.deliver send (.activeUser token)) = .ok user) :
    ((p.signedIn t user).Fits → (p.outcome s t).1.response.status = 302 ∧
        ("location", "/projects") ∈ (p.outcome s t).1.response.headers) ∧
      (¬ (p.signedIn t user).Fits → (p.outcome s t).1.response.status = 500) := by
  have hredirect : Http.Response.redirect "/projects" = ⟨302, [("location", "/projects")], ""⟩ := by
    decide
  have hhandled := h.handled_eq
  rw [hverdict, told, hredirect] at hhandled
  rw [outcome_eq, hhandled, Application.finish]
  constructor <;> intro hfits
  · rw [if_pos ((h.canSave_iff.2 user).mpr hfits)]
    simp [Http.Response.setHeader, traceHeader]
  · rw [if_neg (mt (h.canSave_iff.2 user).mp hfits)]
    rfl

/-- A login that is not granted is answered with the page of the verdict. -/
theorem response_of_error {status : Nat} {message : String}
    (hverdict : Login.verdict (Platform.deliver send (.exchangeCode c k ch))
      (fun token => Platform.deliver send (.activeUser token)) = .error (status, message)) :
    (p.outcome s t).1.response.status = status ∧
      (p.outcome s t).1.response.body =
        (Page.failure status message (some t.traceId.render)).render := by
  have hhandled := h.handled_eq
  rw [hverdict, told] at hhandled
  rw [outcome_eq, hhandled, Application.finish, if_pos h.canSave_iff.1]
  simp [Refusal.response, PageFailure.new, PageFailure.response, Http.Response.traced,
    Http.Response.withHeader, Http.Response.setHeader, t.traceId.isHeaderValue_render,
    Http.Response.of]

end Scene.Returns

/-- **Failures of the platform reach the browser with the right page.** Whatever becomes of the two
requests of a login, the answer is the redirect exactly when the login is granted and the session
with the user can be saved. If it is not granted the answer is a page with the message of the first
stage that failed and the status of an error: that of the delivery where it has one. If it is
granted but the session cannot be saved, the answer has the status of an error too. -/
theorem callbacks_tell_first_failure {s : Setting} {p : Scene} {t : Turn}
    {server : Platform.Server} {send : Platform.Request → Platform.Delivery} {c : AppCredentials}
    {k : AccessCode} {ch : ChallengeId} (h : p.Returns s t server send c k ch) :
    let token := Platform.deliver send (.exchangeCode c k ch)
    let profile := fun bearer => Platform.deliver send (.activeUser bearer)
    let answer := (p.outcome s t).1.response
    (answer.status = 302 ↔
        ∃ user, Login.Granted token profile user ∧ (p.signedIn t user).Fits) ∧
      (answer.status = 302 → ("location", "/projects") ∈ answer.headers) ∧
      ((∃ user, Login.Granted token profile user) ∨
        ∃ status message, Login.verdict token profile = .error (status, message)) ∧
      (∀ user, Login.Granted token profile user → answer.status ≠ 302 → 400 ≤ answer.status) ∧
      ∀ status message, Login.verdict token profile = .error (status, message) →
        400 ≤ status ∧ status ≤ 599 ∧ answer.status = status ∧
          answer.body = (Page.failure status message (some t.traceId.render)).render := by
  intro token profile answer
  have hok : ∀ user, Login.verdict token profile = .ok user →
      ((p.signedIn t user).Fits →
        answer.status = 302 ∧ ("location", "/projects") ∈ answer.headers) ∧
        (¬ (p.signedIn t user).Fits → answer.status = 500) := fun _ => h.response_of_ok
  have herror : ∀ status message, Login.verdict token profile = .error (status, message) →
      answer.status = status ∧
        answer.body = (Page.failure status message (some t.traceId.render)).render :=
    fun _ _ => h.response_of_error
  have hgranted : ∀ user, Login.Granted token profile user ↔
      Login.verdict token profile = .ok user := fun user => Login.verdict_eq_ok_iff.symm
  have hstatus : ∀ status message, Login.verdict token profile = .error (status, message) →
      400 ≤ status ∧ status ≤ 599 := fun _ _ => Login.status_of_verdict
  -- from here on only the verdict and the answer matter
  clear_value answer
  generalize Login.verdict token profile = verdict at hok herror hgranted hstatus
  simp only [hgranted]
  rcases verdict with ⟨status, message⟩ | user
  · obtain ⟨hlow, hhigh⟩ := hstatus status message rfl
    obtain ⟨hsame, hbody⟩ := herror status message rfl
    have hne : answer.status ≠ 302 := by omega
    refine ⟨by simp [hne], fun hredirect => absurd hredirect hne, .inr ⟨status, message, rfl⟩,
      by simp, fun _ _ heq => ?_⟩
    cases heq
    exact ⟨hlow, hhigh, hsame, hbody⟩
  · obtain ⟨hfits, hlong⟩ := hok user rfl
    by_cases hsaved : (p.signedIn t user).Fits
    · obtain ⟨h302, hlocation⟩ := hfits hsaved
      exact ⟨iff_of_true h302 ⟨user, rfl, hsaved⟩, fun _ => hlocation, .inl ⟨user, rfl⟩,
        fun _ _ hne => absurd h302 hne, by simp⟩
    · have h500 := hlong hsaved
      refine ⟨?_, by simp [h500], .inl ⟨user, rfl⟩, fun _ _ _ => by simp [h500], by simp⟩
      simpa [h500] using hsaved

/-! ## A server with one user -/

namespace Platform

/-- A body that is a written value is read as that value. -/
theorem treeOf?_render {v : Json} (h : Json.Legible 127 v) :
    treeOf? (Text.Utf8.encode v.render) = some v.raw :=
  Json.Raw.parseBytes?_encode (Json.Raw.parse?_render h)

/-- A server that grants every code and has one user, of some name. -/
def welcoming (name : String) (r : Request) : Delivery :=
  let body := if r.path = tokenPath then Json.object [("token", .string "t")]
    else .object [("data", .object [("activeUser",
      .object [("id", .string "u-1"), ("name", .string name)])])]
  .answered 200 (.ok (Text.Utf8.encode body.render))

/-- The user of the server. -/
def welcomed (name : String) : User :=
  ⟨⟨"u-1", by decide⟩, name, "", none⟩

theorem granted_welcoming (name : String) (c : AppCredentials) (k : AccessCode)
    (ch : ChallengeId) :
    Login.Granted (deliver (welcoming name) (.exchangeCode c k ch))
      (fun bearer => deliver (welcoming name) (.activeUser bearer)) (welcomed name) := by
  have hgrant : grantOf (Text.Utf8.encode (Json.object [("token", .string "t")]).render) =
      .ok ⟨⟨"t"⟩, none⟩ := by
    rw [grantOf, treeOf?_render (by simp [Json.Legible, Json.LegibleMembers])]
    rfl
  have hlegible : Json.Legible 127 (.object [("data", .object [("activeUser",
      .object [("id", .string "u-1"), ("name", .string name)])])]) := by
    simp [Json.Legible, Json.LegibleMembers]
  exact ⟨_, ⟨⟨"t"⟩, none⟩, _, rfl, hgrant, rfl, _, ⟨"u-1", some name, none, none⟩,
    treeOf?_render hlegible, rfl, (welcomed name).id.valid, rfl⟩

end Platform

/-- A server on the machine itself. -/
def Platform.Server.nearby : Server :=
  ⟨"http://[::1]", by decide +kernel, by decide +kernel⟩

/-- The browser comes back from the server of one user. -/
def Turn.welcomed (name : String) : Turn :=
  { Turn.plain 0 (Platform.welcomed name) "/auth/callback?access_code=x" with
    platform := .behind .nearby (Platform.welcoming name) }

/-- A login has been begun. -/
def Scene.begun : Scene :=
  Scene.start.next .plain (.plain 0 (Platform.welcomed "Ada") "/auth/init")

/-- The session in which a login has been begun. -/
def Session.begun : Session :=
  .ofCookie (Scene.begun.cookies 0)

theorem Scene.returns_begun (name : String) :
    Scene.begun.Returns .plain (.welcomed name) .nearby (Platform.welcoming name)
      ⟨"app-id", "app-secret", by decide, by decide⟩ ⟨"x", by decide⟩
      (Setting.plain.challenge 0) where
  endpoint := by
    change Endpoint.find? "GET" (Http.splitTarget "/auth/callback?access_code=x").1 = _
    decide +kernel
  code := by
    refine ⟨some "x", ?_, by decide⟩
    change Http.queryField (Http.queryPairs (Http.splitTarget "/auth/callback?access_code=x").2)
      "access_code" = _
    rfl
  challenge := by
    change Session.begun.takeChallenge.1 = _
    decide +kernel
  credentials := rfl
  calm := rfl
  platform := rfl
  fits := by
    change Session.begun.Fits
    decide +kernel

/-- The login of a user of the server ends with the redirect if the name is short. -/
theorem callback_redirects_short_name :
    (Scene.begun.outcome .plain (.welcomed "Ada")).1.response.status = 302 := by
  have hfits : (Scene.begun.signedIn (.welcomed "Ada") (Platform.welcomed "Ada")).Fits := by
    decide +kernel
  exact (callbacks_tell_first_failure (Scene.returns_begun "Ada")).1.mpr
    ⟨_, Platform.granted_welcoming "Ada" _ _ _, hfits⟩

/-- The login of a user with a name of five thousand letters is granted, and yet it does not end
with the redirect. -/
theorem granted_login_not_redirected_for_long_name :
    let name := String.ofList (List.replicate 5000 'n')
    ∃ c k ch, Scene.begun.Returns .plain (.welcomed name) .nearby (Platform.welcoming name) c k ch ∧
      Login.Granted (Platform.deliver (Platform.welcoming name) (.exchangeCode c k ch))
        (fun bearer => Platform.deliver (Platform.welcoming name) (.activeUser bearer))
        (Platform.welcomed name) ∧
      (Scene.begun.outcome .plain (.welcomed name)).1.response.status = 500 := by
  intro name
  have hreturns := Scene.returns_begun name
  have hanswer := hreturns.response_of_ok
    (Login.verdict_eq_ok_iff.mpr (Platform.granted_welcoming name _ _ _))
  refine ⟨_, _, _, hreturns, Platform.granted_welcoming name _ _ _, hanswer.2 fun hfits => ?_⟩
  have hname := hfits.length_text_le (Session.value?_signIn (by decide +kernel) _)
  have hlength : name.toList.length = 5000 := by
    rw [String.toList_ofList, List.length_replicate]
  rw [show (Platform.welcomed name).name = name from rfl, hlength] at hname
  exact absurd hname (by decide)

end Rulebook
