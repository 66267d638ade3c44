import Rulebook.Proofs.Site.Run

/-!
# Sessions as an automaton

What a session says changes by four kinds of event only: a login that is begun makes a fresh
challenge the pending one, a callback uses it up, a callback that succeeds signs the user in whose
profile the platform gave, and logging out forgets everything. `Standing.next` is this automaton. A
turn does to the session of its browser what the automaton says, unless it completes a login whose
session is too long to be saved: then the cookie stays as it was, with the challenge still in it
(`Scene.held_next`).
-/

namespace Rulebook

/-! ## The automaton -/

/-- What is seen of a turn from outside: what was asked for, the status of the answer, the challenge
the turn may have drawn, and the profile the platform gave during it. -/
structure Event where
  endpoint : Option Endpoint
  status : Nat
  challenge : ChallengeId
  profile : Option User

/-- The standing of a browser after an event of its own. -/
def Standing.next (e : Event) (s : Standing) : Standing :=
  match e.endpoint with
  | some .loginStart => if e.status = 200 then { s with pending := some e.challenge } else s
  | some .loginCallback =>
    { identity := if e.status = 302 then e.profile.map Identity.of else s.identity
      pending := .none }
  | some .logout => .none
  | _ => s

namespace Standing

variable {e : Event} (s : Standing)

theorem next_of_other (hstart : e.endpoint ≠ some .loginStart)
    (hcallback : e.endpoint ≠ some .loginCallback) (hlogout : e.endpoint ≠ some .logout) :
    s.next e = s := by
  unfold next
  split
  · next h => exact absurd h hstart
  · next h => exact absurd h hcallback
  · next h => exact absurd h hlogout
  · rfl

theorem next_logout (h : e.endpoint = some .logout) : s.next e = .none := by
  simp [next, h]

theorem next_begun (h : e.endpoint = some .loginStart) (hok : e.status = 200) :
    s.next e = { s with pending := some e.challenge } := by
  simp [next, h, hok]

theorem next_refused (h : e.endpoint = some .loginStart) (hne : e.status ≠ 200) : s.next e = s := by
  simp [next, h, hne]

theorem next_failed (h : e.endpoint = some .loginCallback) (hne : e.status ≠ 302) :
    s.next e = { s with pending := .none } := by
  simp [next, h, hne]

/-- A callback leaves nothing pending, whatever comes of it. -/
theorem pending_next_callback (h : e.endpoint = some .loginCallback) :
    (s.next e).pending = .none := by
  simp [next, h]

theorem next_completed (h : e.endpoint = some .loginCallback) (hok : e.status = 302) :
    s.next e = ⟨e.profile.map Identity.of, .none⟩ := by
  simp [next, h, hok]

end Standing

/-- The profile that the platform gave in answer to one of some questions. -/
def Platform.profileIn (platform : Platform) (questions : List PlatformCall) : Option User :=
  questions.findSome? fun
    | .activeUser token => (platform.answer (.activeUser token)).toOption
    | _ => none

/-- What is seen of a turn. -/
def Scene.event (s : Setting) (p : Scene) (t : Turn) : Event :=
  ⟨t.endpoint, (p.outcome s t).1.response.status, s.challenge p.world.challengesDrawn,
    t.platform.profileIn (p.questions s t)⟩

/-- Whether a turn completes a login of a user whose session is too long to be saved. -/
def Scene.Overflows (s : Setting) (p : Scene) (t : Turn) : Prop :=
  ∃ login, p.login? s t = some login ∧ ¬ (Standing.mk (some (.of login.user)) .none).Fits

/-! ## What becomes of the cookie -/

section Finish

variable (trace : TraceId) (cookie : Option (List (String × Json))) (response : Http.Response)
  {v : Session} {st : Standing}

/-- A session that was not touched leaves the cookie as it was. -/
theorem finish_untouched :
    (Application.finish trace cookie response (.ofCookie cookie)).cookie = cookie ∧
      (Application.finish trace cookie response (.ofCookie cookie)).response.status =
        response.status := by
  cases cookie <;> exact ⟨rfl, rfl⟩

/-- A session thrown away leaves no cookie. -/
theorem finish_purged :
    (Application.finish trace cookie response (Session.ofCookie cookie).purge).cookie = none ∧
      (Application.finish trace cookie response (Session.ofCookie cookie).purge).response.status =
        response.status := by
  cases cookie <;> exact ⟨rfl, rfl⟩

/-- A changed session that has to be saved is saved if it fits, and given up otherwise. -/
theorem finish_changed (hstatus : v.status = .changed) (hentries : v.entries = st.entries)
    (hsave : v.brought = true ∨ st.entries ≠ []) :
    (st.Fits ∧ (Application.finish trace cookie response v).cookie = some st.entries ∧
        (Application.finish trace cookie response v).response.status = response.status) ∨
      (¬ st.Fits ∧ (Application.finish trace cookie response v).cookie = cookie ∧
        (Application.finish trace cookie response v).response.status = 500) := by
  have heffect : v.effect = .set := by
    unfold Session.effect
    rcases hsave with hbrought | hne
    · simp [hbrought, hstatus]
    · rw [hentries]
      cases v.brought <;> simp [hstatus, hne]
  have hfits : v.canSave = true ↔ st.Fits := by
    unfold Session.canSave Standing.Fits Session.state
    simp [heffect, hentries]
  unfold Application.finish
  by_cases h : st.Fits
  · rw [if_pos (hfits.mpr h)]
    refine .inl ⟨h, ?_, rfl⟩
    simp [Session.cookieAfter, heffect, hentries]
  · rw [if_neg (mt hfits.mp h)]
    exact .inr ⟨h, rfl, rfl⟩

/-- A changed session that is new and empty leaves no cookie. -/
theorem finish_empty (hbrought : v.brought = false) (hentries : v.entries = []) :
    (Application.finish trace none response v).cookie = none ∧
      (Application.finish trace none response v).response.status = response.status := by
  have heffect : v.effect = .unchanged := by simp [Session.effect, hbrought, hentries]
  have hsave : v.canSave = true := by simp [Session.canSave, heffect]
  unfold Application.finish
  rw [if_pos hsave]
  exact ⟨by simp [Session.cookieAfter, heffect], rfl⟩

end Finish

/-! ## One turn -/

/-- No challenge is empty. -/
theorem Setting.text_challenge_ne (s : Setting) (n : Nat) : (s.challenge n).text ≠ "" := by
  obtain ⟨a, b, c, rest, hdraw⟩ : ∃ a b c rest, s.draws n = a :: b :: c :: rest := by
    have hlength := s.length_draws n
    match s.draws n, hlength with
    | a :: b :: c :: rest, _ => exact ⟨a, b, c, rest, rfl⟩
  rw [Setting.challenge, hdraw]
  simp [ChallengeId.ofBytes, Digest.base64UrlPadded, Digest.letters, ← String.toList_inj]

/-- A cookie that says what a standing is. It has been saved, if it is there, and its challenge can
be told from none. -/
structure Standing.Held (cookie : Option (List (String × Json))) (st : Standing) : Prop where
  entries_eq : cookie.getD [] = st.entries
  fits : cookie.isSome → st.Fits
  text_ne : ∀ c ∈ st.pending, c.text ≠ ""

namespace Scene

variable {s : Setting} {p : Scene} {t : Turn} {st : Standing}

/-- The challenge that a callback takes is the pending one. -/
theorem takeChallenge_session (h : st.Held (p.cookies t.browser)) :
    (p.session t).takeChallenge.1 = st.pending :=
  Session.takeChallenge_fst h.entries_eq h.text_ne

theorem event_endpoint (s : Setting) (p : Scene) (t : Turn) :
    (p.event s t).endpoint = t.endpoint := by
  rw [event]

theorem event_challenge (s : Setting) (p : Scene) (t : Turn) :
    (p.event s t).challenge = s.challenge p.world.challengesDrawn := by
  rw [event]

theorem event_profile (s : Setting) (p : Scene) (t : Turn) :
    (p.event s t).profile = t.platform.profileIn (p.questions s t) := by
  rw [event]

/-- The event of a turn, when the cookie is written by `finish`. -/
theorem event_status (s : Setting) (p : Scene) (t : Turn) :
    (p.event s t).status = (Application.finish t.traceId (p.cookies t.browser)
      (p.handled s t).1.1 (p.handled s t).1.2).response.status := by
  rw [event, outcome_eq]

theorem cookie_next :
    (p.next s t).cookies t.browser = (Application.finish t.traceId (p.cookies t.browser)
      (p.handled s t).1.1 (p.handled s t).1.2).cookie := by
  simp [next, outcome_eq]

/-- A turn that completes a login says what it was completed with. -/
theorem of_login {login : Login.Completed} (h : p.login? s t = some login) :
    t.endpoint = some .loginCallback ∧ ∃ raw c k ch, t.accessCode = .ok raw ∧
      (p.session t).takeChallenge.1 = some ch ∧
      t.platform.answer (.activeUser login.token) = .ok login.user ∧
      Login.questions (t.around s) s.credentials (AccessCode.parse raw)
        (p.session t).takeChallenge.1 = [.activeUser login.token, .exchangeCode c k ch] := by
  unfold login? at h
  split at h
  · next hendpoint =>
    refine ⟨hendpoint, ?_⟩
    split at h
    · next raw hcode =>
      obtain ⟨c, k, ch, grant, -, -, htaken, -, -, huser, hquestions⟩ :=
        Login.completed?_eq_some h
      exact ⟨raw, c, k, ch, hcode, htaken, huser, hquestions⟩
    · cases h
  · cases h

theorem login?_of_ne (h : t.endpoint ≠ some .loginCallback) : p.login? s t = none :=
  if_neg h

theorem not_overflows (h : p.login? s t = none) : ¬ p.Overflows s t := by
  rintro ⟨login, hlogin, -⟩
  rw [h] at hlogin
  cases hlogin

/-- A session whose challenge is taken away is saved, and a cookie that was missing stays away. -/
theorem held_withoutChallenge (h : st.Held (p.cookies t.browser)) (response : Http.Response) :
    let out := Application.finish t.traceId (p.cookies t.browser) response
      (p.session t).takeChallenge.2
    { st with pending := none }.Held out.cookie ∧ out.response.status = response.status := by
  have hentries : (p.session t).takeChallenge.2.entries = { st with pending := none }.entries :=
    Session.entries_takeChallenge h.entries_eq (by simp [session, Session.ofCookie])
  cases hcookie : p.cookies t.browser with
  | none =>
    have hempty : { st with pending := none }.entries = [] := by
      have hst : st.entries = [] := by rw [← h.entries_eq, hcookie]; rfl
      obtain ⟨identity, pending⟩ := st
      cases identity <;> simp_all [Standing.entries]
    have hbrought : (p.session t).takeChallenge.2.brought = false := by
      simp [session, hcookie, Session.ofCookie, Session.takeChallenge, Session.remove]
    have hfinish := finish_empty t.traceId response hbrought (hentries.trans hempty)
    refine ⟨?_, hfinish.2⟩
    rw [hfinish.1]
    exact ⟨hempty.symm, by simp, by simp⟩
  | some es =>
    have hbrought : (p.session t).takeChallenge.2.brought = true := by
      simp [session, hcookie, Session.ofCookie, Session.takeChallenge, Session.remove]
    have hfits : { st with pending := none }.Fits := (h.fits (by simp [hcookie])).withoutChallenge
    rcases finish_changed t.traceId (some es) response
      (by simp [session, Session.ofCookie, Session.takeChallenge, Session.remove]) hentries
      (.inl hbrought) with ⟨-, hsaved, hstatus⟩ | ⟨hlong, -⟩
    · refine ⟨?_, hstatus⟩
      rw [hsaved]
      exact ⟨rfl, fun _ => hfits, by simp⟩
    · exact absurd hfits hlong

/-- What a turn does to the session of its browser is what the automaton says, unless the session of
the user who logs in is too long; then the cookie stays as it was, and the two come apart. -/
theorem held_next (s : Setting) (h : st.Held (p.cookies t.browser))
    (hreadable : t.endpoint = some .loginCallback → t.accessCode.isOk) :
    (¬ p.Overflows s t ∧ (st.next (p.event s t)).Held ((p.next s t).cookies t.browser)) ∨
      (p.Overflows s t ∧ (p.next s t).cookies t.browser = p.cookies t.browser ∧
        st.entries ≠ (st.next (p.event s t)).entries) := by
  have hcases := handled_cases s p t
  have hentries : (p.session t).entries = st.entries := h.entries_eq
  have hunpurged : (p.session t).status ≠ .purged := by simp [session, Session.ofCookie]
  have hendpoint := event_endpoint s p t
  have hchallenge := event_challenge s p t
  have hprofile := event_profile s p t
  have hstatus := event_status s p t
  rw [cookie_next]
  generalize p.event s t = e at *
  generalize hhandled : p.handled s t = r at hcases hstatus
  cases hcases with
  | browsed hstart hcallback hlogout page hbrowsing response =>
    refine .inl ⟨not_overflows (login?_of_ne hcallback), ?_⟩
    rw [← hendpoint] at hstart hcallback hlogout
    rw [st.next_of_other hstart hcallback hlogout, session, (finish_untouched ..).1]
    exact h
  | loggedOut hlogout =>
    have hother : t.endpoint ≠ some .loginCallback := by rw [hlogout]; simp
    refine .inl ⟨not_overflows (login?_of_ne hother), ?_⟩
    rw [st.next_logout (hendpoint.trans hlogout), session, (finish_purged ..).1]
    exact ⟨rfl, by simp, by simp [Standing.none]⟩
  | unconfigured hstart response hrefused =>
    have hother : t.endpoint ≠ some .loginCallback := by rw [hstart]; simp
    refine .inl ⟨not_overflows (login?_of_ne hother), ?_⟩
    rw [session, (finish_untouched ..).2] at hstatus
    have hne : e.status ≠ 200 := by dsimp only at hstatus; omega
    rw [st.next_refused (hendpoint.trans hstart) hne, session, (finish_untouched ..).1]
    exact h
  | begun hstart response hok =>
    have hother : t.endpoint ≠ some .loginCallback := by rw [hstart]; simp
    refine .inl ⟨not_overflows (login?_of_ne hother), ?_⟩
    have hchanged : ((p.session t).storeChallenge
        (s.challenge p.world.challengesDrawn)).status = .changed := by
      simp [Session.storeChallenge, Session.insert, hunpurged]
    rcases finish_changed t.traceId (p.cookies t.browser) response hchanged
        (Session.entries_storeChallenge hentries hunpurged _)
        (.inr (by simp [Standing.entries])) with ⟨hfits, hcookie, hfinish⟩ | ⟨-, hcookie, hfinish⟩
    · rw [hfinish] at hstatus
      rw [st.next_begun (hendpoint.trans hstart) (hstatus.trans hok), hcookie, hchallenge]
      refine ⟨rfl, fun _ => hfits, fun c hc => ?_⟩
      cases hc
      exact s.text_challenge_ne _
    · rw [hfinish] at hstatus
      rw [st.next_refused (hendpoint.trans hstart) (by omega), hcookie]
      exact h
  | unreadable hcallback fault hcode =>
    have hok := hreadable hcallback
    rw [hcode] at hok
    cases hok
  | failed hcallback raw hcode hlogin response hrefused =>
    refine .inl ⟨not_overflows hlogin, ?_⟩
    obtain ⟨hheld, hfinish⟩ := held_withoutChallenge h response
    rw [hfinish] at hstatus
    have hne : e.status ≠ 302 := by omega
    rw [st.next_failed (hendpoint.trans hcallback) hne]
    exact hheld
  | completed hcallback raw hcode login hlogin response hok created =>
    obtain ⟨-, raw', c, k, ch, hcode', htaken, huser, hquestions⟩ := of_login hlogin
    cases hcode.symm.trans hcode'
    have hpending : st.pending = some ch := (takeChallenge_session h).symm.trans htaken
    have hasked : p.questions s t = [.activeUser login.token, .exchangeCode c k ch] :=
      p.questions_eq s t (by rw [hhandled, ← hquestions])
    have hseen : e.profile = some login.user := by
      rw [hprofile, hasked]
      simp [Platform.profileIn, huser, Except.toOption]
    have hbrought : (p.session t).brought = true := by
      cases hcookie : p.cookies t.browser with
      | some es => simp [session, hcookie, Session.ofCookie]
      | none =>
        have hempty := h.entries_eq
        simp [hcookie, Standing.entries, hpending] at hempty
    have hkept : (p.session t).takeChallenge.2.status = .changed ∧
        (p.session t).takeChallenge.2.brought = true := by
      simp [Session.takeChallenge, Session.remove, hunpurged, hbrought]
    have hsigned : ((p.session t).takeChallenge.2.signIn login.user).entries =
        (Standing.mk (some (.of login.user)) none).entries :=
      Session.entries_signIn (Session.entries_takeChallenge hentries hunpurged) (by simp [hkept.1])
        login.user
    have hchanged : ((p.session t).takeChallenge.2.signIn login.user).status = .changed ∧
        ((p.session t).takeChallenge.2.signIn login.user).brought = true := by
      simp [Session.signIn, Session.insert, hkept]
    rcases finish_changed t.traceId (p.cookies t.browser) response hchanged.1 hsigned
        (.inl hchanged.2) with ⟨hfits, hcookie, hfinish⟩ | ⟨hlong, hcookie, hfinish⟩
    · refine .inl ⟨?_, ?_⟩
      · rintro ⟨other, hother, hlong⟩
        cases hlogin.symm.trans hother
        exact hlong hfits
      · rw [hfinish] at hstatus
        rw [st.next_completed (hendpoint.trans hcallback) (hstatus.trans hok), hcookie, hseen]
        exact ⟨rfl, fun _ => hfits, by simp⟩
    · refine .inr ⟨⟨login, hlogin, hlong⟩, hcookie, ?_⟩
      rw [hfinish] at hstatus
      rw [st.next_failed (hendpoint.trans hcallback) (by omega)]
      simp [Standing.entries, hpending]

end Scene

end Rulebook
