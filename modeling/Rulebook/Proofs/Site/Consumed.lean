import Rulebook.Proofs.Site.Challenges
import Rulebook.Proofs.Site.ErrorAnswers
import Rulebook.Proofs.Store.DocumentMap

/-!
# What a callback leaves of the pending challenge

Whatever a session holds, a callback takes the challenge out of it before anything else can fail,
but for two kinds of requests: a query that gives the access code twice is refused before the
session is looked at, and a session that is too long to be saved leaves the cookie as it was, with
the challenge in it (`Scene.holds_next_callback`). A browser without a challenge gets none but by
beginning a login (`Scene.not_holds_run`), and without one no code is exchanged.
-/

namespace Rulebook

/-! ## Sizes of states -/

/-- Fewer members are written in no more bytes; a first member is written without a comma. -/
theorem Json.length_encode_renderMembers_le {ms ns : List (String × Json)} (h : ms.Sublist ns)
    (first : Bool) :
    ((renderMembers first ms).flatMap Text.Utf8.encodeChar).length ≤
      ((renderMembers first ns).flatMap Text.Utf8.encodeChar).length := by
  have hcomma : ∀ ms, ((renderMembers first ms).flatMap Text.Utf8.encodeChar).length ≤
      ((renderMembers false ms).flatMap Text.Utf8.encodeChar).length := by
    intro ms
    cases first <;> cases ms <;> simp [renderMembers]
  induction h generalizing first with
  | slnil => exact Nat.le_refl _
  | cons m h ih =>
    have hrest := ih false (fun ms => Nat.le_refl _)
    refine (hcomma _).trans (hrest.trans ?_)
    simp only [renderMembers, List.flatMap_append, List.flatMap_cons, List.length_append]
    omega
  | cons_cons m h ih =>
    have hrest := ih false (fun ms => Nat.le_refl _)
    simp only [renderMembers, List.flatMap_append, List.flatMap_cons, List.length_append]
    omega

namespace Session

variable {v : Session}

/-- A state is its members in braces. -/
theorem length_state (v : Session) :
    (Text.Utf8.encode v.state).length =
      ((Json.renderMembers true (v.entries.map fun m => (m.1, .string m.2.render))).flatMap
        Text.Utf8.encodeChar).length + 2 := by
  rw [state, Json.render, Json.renderChars, Text.Utf8.encode, String.toList_ofList]
  simp only [List.flatMap_cons, List.flatMap_append, List.flatMap_nil, List.length_append,
    List.append_nil]
  have hopen : (Text.Utf8.encodeChar '\x7b').length = 1 := by decide
  have hclose : (Text.Utf8.encodeChar '\x7d').length = 1 := by decide
  omega

/-- Whether the state of a session is short enough to be saved. -/
def Fits (v : Session) : Prop :=
  (Text.Utf8.encode v.state).length ≤ stateLimit

instance (v : Session) : Decidable v.Fits := by
  unfold Fits; infer_instance

/-- A session without an entry can be saved if it could be saved with it. -/
theorem Fits.remove (h : v.Fits) (name : String) : (v.remove name).Fits := by
  refine Nat.le_trans ?_ h
  have hsub : (v.remove name).entries.Sublist v.entries := by
    unfold Session.remove
    split
    · exact List.Sublist.refl _
    · exact List.filter_sublist
  have hmembers := Json.length_encode_renderMembers_le
    (hsub.map fun m : String × Json => (m.1, Json.string m.2.render)) true
  simp only [length_state]
  omega

/-- No text of a session that fits has more characters than the state may have bytes. -/
theorem Fits.length_text_le (h : v.Fits) {name text : String}
    (hvalue : v.value? name = some (.string text)) : text.toList.length ≤ stateLimit := by
  have hmem : (name, .string text) ∈ v.entries := by
    revert hvalue
    unfold value?
    induction v.entries with
    | nil => simp [Json.memberOf]
    | cons e es ih => by_cases he : e.1 = name <;> grind [Json.memberOf]
  -- the value is written as JSON, and that text is written as JSON once more
  let value := Json.render (.string text)
  have hinner : text.toList.length ≤ value.toList.length := by
    simpa [value, Json.render, Json.renderChars] using Standing.length_le_renderText text
  have hrow : value.toList.length ≤ (Json.renderMembers true [(name, .string value)]).length := by
    have houter := Standing.length_le_renderText value
    simp only [Json.renderMembers, Json.renderChars, List.length_append, List.length_cons]
    omega
  have hbytes := Standing.length_le_encode
    (String.ofList (Json.renderMembers true [(name, .string value)]))
  rw [Text.Utf8.encode, String.toList_ofList] at hbytes
  have hsub : [(name, Json.string value)].Sublist
      (v.entries.map fun m => (m.1, .string m.2.render)) :=
    List.singleton_sublist.mpr (List.mem_map.mpr ⟨_, hmem, rfl⟩)
  have hmembers := Json.length_encode_renderMembers_le hsub true
  rw [Fits, v.length_state] at h
  omega

/-- A changed session that the browser brought is saved just when it fits. -/
theorem canSave_of_changed (hs : v.status = .changed) (hbrought : v.brought = true) :
    v.canSave = true ↔ v.Fits := by
  simp [canSave, effect, hs, hbrought, Fits]

/-! ## Sessions with a challenge -/

/-- Whether a session has an entry for a pending challenge, whatever its value. -/
def holdsChallenge (v : Session) : Bool :=
  (v.value? challengeKey).isSome

/-- It is in the entries of a session whether it holds a challenge. -/
theorem holdsChallenge_ofCookie (v : Session) :
    (ofCookie (some v.entries)).holdsChallenge = v.holdsChallenge :=
  rfl

theorem holdsChallenge_insert {name : String} (h : challengeKey ≠ name) (value : Json) :
    (v.insert name value).holdsChallenge = v.holdsChallenge := by
  unfold Session.insert
  split
  · rfl
  · simp only [holdsChallenge, value?, Json.memberOf_insertMember_ne h]

/-- Who is signed in is told by name. -/
theorem value?_signIn (hs : v.status ≠ .purged) (u : User) :
    (v.signIn u).value? userNameKey = some (.string u.name) := by
  have hid := status_insert hs userIdKey (.string u.id.text)
  have hname := status_insert hid userNameKey (.string u.name)
  rw [signIn, value?, entries_insert hname, Json.memberOf_insertMember_ne (by decide),
    entries_insert hid, Json.memberOf_insertMember]

/-- Who is signed in has nothing to do with the challenge. -/
theorem holdsChallenge_signIn (u : User) : (v.signIn u).holdsChallenge = v.holdsChallenge := by
  rw [signIn, holdsChallenge_insert (by decide), holdsChallenge_insert (by decide),
    holdsChallenge_insert (by decide)]

theorem holdsChallenge_takeChallenge (hs : v.status ≠ .purged) :
    v.takeChallenge.2.holdsChallenge = false := by
  have hnone : ∀ es : List (String × Json),
      Json.memberOf challengeKey (es.filter (·.1 ≠ challengeKey)) = none := by
    intro es
    induction es with
    | nil => rfl
    | cons e es ih => by_cases h : e.1 = challengeKey <;> simp_all [Json.memberOf]
  rw [takeChallenge, Session.remove, if_neg hs, holdsChallenge, value?, hnone]
  rfl

/-- From a session without a challenge none is taken. -/
theorem takeChallenge_of_not_holds (h : v.holdsChallenge = false) : v.takeChallenge.1 = none := by
  have hvalue : v.value? challengeKey = none := by simpa [holdsChallenge] using h
  simp [takeChallenge, text?, hvalue]

/-- A session with a challenge has been brought along in a cookie. -/
theorem brought_of_holds {cookie : Option (List (String × Json))}
    (h : (ofCookie cookie).holdsChallenge = true) : (ofCookie cookie).brought = true := by
  cases cookie with
  | none => simp [ofCookie, holdsChallenge, value?, Json.memberOf] at h
  | some es => rfl

/-- A changed session is one too when a user has been signed in. -/
theorem signIn_of_changed (hs : v.status = .changed) (u : User) :
    (v.signIn u).status = .changed ∧ (v.signIn u).brought = v.brought := by
  simp [signIn, Session.insert, hs]

end Session

/-! ## What becomes of the cookie -/

/-- A cookie without a challenge gets none from a session without one. -/
theorem Application.holdsChallenge_finish (trace : TraceId)
    {cookie : Option (List (String × Json))} (response : Http.Response) {v : Session}
    (hcookie : (Session.ofCookie cookie).holdsChallenge = false) (hv : v.holdsChallenge = false) :
    (Session.ofCookie (finish trace cookie response v).cookie).holdsChallenge = false := by
  unfold finish
  split
  · unfold Session.cookieAfter
    cases v.effect with
    | unchanged => exact hcookie
    | set => exact (Session.holdsChallenge_ofCookie v).trans hv
    | removed => rfl
  · exact hcookie

/-- A query is refused exactly for a field that stands in it more than once. -/
theorem Http.queryField_eq_error_iff (pairs : List (String × String)) (field : String) :
    (∃ fault, queryField pairs field = .error fault) ↔
      2 ≤ (pairs.filter (·.1 = field)).length := by
  unfold queryField
  generalize pairs.filter (·.1 = field) = found
  match found with
  | [] | [_] | _ :: _ :: _ => simp

/-- The access codes in the query of a request. -/
def Turn.accessCodes (t : Turn) : List (String × String) :=
  (Http.queryPairs (Http.splitTarget t.request.target).2).filter (·.1 = "access_code")

namespace Scene

variable {s : Setting} {p : Scene} {t : Turn}

/-- Whether the session of a browser has an entry for a pending challenge. -/
def Holds (p : Scene) (b : Nat) : Prop :=
  (Session.ofCookie (p.cookies b)).holdsChallenge

instance (p : Scene) (b : Nat) : Decidable (p.Holds b) := by
  unfold Holds; infer_instance

/-- The session a callback leaves, if its query can be read. -/
def left (s : Setting) (p : Scene) (t : Turn) : Session :=
  match p.login? s t with
  | none => (p.session t).takeChallenge.2
  | some login => (p.session t).takeChallenge.2.signIn login.user

/-- A callback leaves no challenge behind, whether or not it completes a login. -/
theorem left_spec (s : Setting) (p : Scene) (t : Turn) :
    (p.left s t).holdsChallenge = false ∧ (p.left s t).status = .changed ∧
      (p.left s t).brought = (p.session t).brought := by
  have hunpurged : (p.session t).status ≠ .purged := by simp [session, Session.ofCookie]
  have htaken : (p.session t).takeChallenge.2.status = .changed ∧
      (p.session t).takeChallenge.2.brought = (p.session t).brought := by
    simp [Session.takeChallenge, Session.remove, hunpurged]
  have hnone := Session.holdsChallenge_takeChallenge hunpurged
  unfold left
  split
  · exact ⟨hnone, htaken⟩
  · next login _ =>
    obtain ⟨hstatus, hbrought⟩ := Session.signIn_of_changed htaken.1 login.user
    exact ⟨(Session.holdsChallenge_signIn _).trans hnone, hstatus, hbrought.trans htaken.2⟩

theorem session_handled (hcallback : t.endpoint = some .loginCallback)
    (hcode : ¬ ∃ fault, t.accessCode = .error fault) : (p.handled s t).1.2 = p.left s t := by
  have hcases := handled_cases s p t
  generalize p.handled s t = r at hcases
  cases hcases with
  | browsed _ hne => exact absurd hcallback hne
  | loggedOut h | unconfigured h | begun h => rw [hcallback] at h; cases h
  | unreadable _ fault hfault => exact absurd ⟨fault, hfault⟩ hcode
  | failed _ _ _ hlogin => simp only [left, hlogin]
  | completed _ _ _ login hlogin => simp only [left, hlogin]

/-- **A callback and the challenge of its browser.** The challenge stays in two cases: the query
gives more than one access code, or the session that is left is too long to be saved. -/
theorem holds_next_callback (hcallback : t.endpoint = some .loginCallback)
    (hholds : p.Holds t.browser) :
    (p.next s t).Holds t.browser ↔ 2 ≤ t.accessCodes.length ∨ (p.left s t).canSave = false := by
  obtain ⟨hnone, hchanged, hbrought⟩ := left_spec s p t
  rw [Holds, cookie_next, Turn.accessCodes, ← Http.queryField_eq_error_iff, ← Turn.accessCode]
  by_cases hcode : ∃ fault, t.accessCode = .error fault
  · obtain ⟨fault, hfault⟩ := hcode
    rw [handled_loginCallback_of_error s p t hcallback hfault, session, (finish_untouched ..).1]
    exact ⟨fun _ => .inl ⟨fault, hfault⟩, fun _ => hholds⟩
  · rw [session_handled hcallback hcode, or_iff_right hcode]
    have hcookie : (p.session t).brought = true := Session.brought_of_holds hholds
    have heffect : (p.left s t).effect = .set := by
      simp [Session.effect, hbrought, hcookie, hchanged]
    generalize p.left s t = v at hnone heffect
    unfold Application.finish
    cases hsave : v.canSave with
    | true =>
      simp [Session.cookieAfter, heffect, Session.holdsChallenge_ofCookie, hnone]
    | false =>
      simp only [Bool.false_eq_true, ↓reduceIte, iff_true]
      exact hholds

/-- A session that could be saved with the challenge is too long afterwards only if it is the one of
a user who logs in. -/
theorem canSave_left (hfits : (p.session t).Fits) :
    (p.left s t).canSave = false ↔ p.Unsavable s t := by
  unfold left Unsavable
  cases p.login? s t with
  | none =>
    have htaken : (p.session t).takeChallenge.2.Fits := hfits.remove _
    have hsave : (p.session t).takeChallenge.2.canSave = true := by
      simp only [Session.canSave, Bool.or_eq_true, decide_eq_true_eq]
      exact .inr htaken
    simp [hsave]
  | some login => simp

/-! ## Without a challenge -/

/-- A browser without a challenge gets none but by beginning a login. -/
theorem not_holds_next {b : Nat} (h : ¬ p.Holds b)
    (hinit : t.browser = b → t.endpoint ≠ some .loginStart) : ¬ (p.next s t).Holds b := by
  by_cases hb : t.browser = b
  · subst hb
    have hcookie : (Session.ofCookie (p.cookies t.browser)).holdsChallenge = false := by
      simpa [Holds] using h
    suffices hnone : (p.handled s t).1.2.holdsChallenge = false by
      have hnext := Application.holdsChallenge_finish t.traceId (p.handled s t).1.1 hcookie hnone
      rw [Holds, cookie_next, hnext]
      exact Bool.false_ne_true
    have hleft := (left_spec s p t).1
    have hcases := handled_cases s p t
    generalize p.handled s t = r at hcases
    cases hcases with
    | browsed | unconfigured | unreadable => exact hcookie
    | loggedOut => rfl
    | begun hstart => exact absurd hstart (hinit rfl)
    | failed _ _ _ hlogin | completed _ _ _ _ hlogin => simpa only [left, hlogin] using hleft
  · have hsame : (p.next s t).cookies b = p.cookies b := by simp [next, Ne.symm hb]
    rwa [Holds, hsame]

theorem not_holds_run {b : Nat} {turns : List Turn} (h : ¬ p.Holds b)
    (hinit : ∀ t ∈ turns, t.browser = b → t.endpoint ≠ some .loginStart) :
    ¬ (turns.foldl (next s) p).Holds b := by
  induction turns generalizing p with
  | nil => exact h
  | cons t turns ih =>
    rw [List.foldl_cons]
    exact ih (not_holds_next h (hinit t List.mem_cons_self))
      fun u hu => hinit u (List.mem_cons_of_mem t hu)

/-- Without a challenge no code is exchanged. -/
theorem not_exchanged (h : ¬ p.Holds t.browser) {c : AppCredentials} {k : AccessCode}
    {ch : ChallengeId} : .exchangeCode c k ch ∉ p.questions s t := by
  intro hmem
  obtain ⟨-, -, htaken⟩ := of_exchangeCode hmem
  have hnone : (p.session t).holdsChallenge = false := by simpa [Holds, session] using h
  rw [Session.takeChallenge_of_not_holds hnone] at htaken
  cases htaken

end Scene

/-- **A callback uses the challenge up**, whatever else the session holds and whatever the
configuration, the query, the outages and the answers of the platform are, but in two cases: the
query gives more than one access code, or the session that is left cannot be saved, which happens
only to a user who logs in, if the session could be saved before. Once the challenge is gone no code
is exchanged for a browser with that session, however the run goes on, before it begins a login
again. -/
theorem callbacks_use_challenge_up (s : Setting) (p : Scene) (t : Turn)
    (hcallback : t.endpoint = some .loginCallback) (hholds : p.Holds t.browser) :
    ((p.next s t).Holds t.browser ↔
        2 ≤ t.accessCodes.length ∨ (p.left s t).canSave = false) ∧
      ((p.session t).Fits → ((p.left s t).canSave = false ↔ p.Unsavable s t)) ∧
      (¬ (p.next s t).Holds t.browser → ∀ q : Scene,
        q.cookies t.browser = (p.next s t).cookies t.browser → ∀ (later : List Turn) (u : Turn),
          (∀ x ∈ later, x.browser = t.browser → x.endpoint ≠ some .loginStart) →
          u.browser = t.browser → ∀ c k ch,
            .exchangeCode c k ch ∉ (later.foldl (Scene.next s) q).questions s u) := by
  refine ⟨Scene.holds_next_callback hcallback hholds, Scene.canSave_left,
    fun hgone q hcookie later u hinit hbrowser c k ch => ?_⟩
  have hq : ¬ q.Holds t.browser := by rwa [Scene.Holds, hcookie]
  refine Scene.not_exchanged ?_
  rw [hbrowser]
  exact Scene.not_holds_run hq hinit

/-- A callback with one code uses the challenge of a login up, and the next one exchanges nothing.
-/
theorem callback_uses_challenge_up_with_one_code :
    let ada : User := ⟨⟨"u-1", by decide⟩, "Ada", "ada@example.com", none⟩
    let p := Scene.start.next .plain (.plain 0 ada "/auth/init")
    let t := Turn.plain 0 ada "/auth/callback?access_code=x"
    ¬ (p.next .plain t).Holds 0 ∧ ∀ c k ch, .exchangeCode c k ch ∉
      (p.next .plain t).questions .plain (.plain 0 ada "/auth/callback?access_code=y") := by
  intro ada p t
  have hcallback : t.endpoint = some .loginCallback := by decide +kernel
  have hholds : p.Holds 0 := by decide +kernel
  have hcodes : ¬ 2 ≤ t.accessCodes.length := by decide +kernel
  have hsave : (p.left .plain t).canSave = true := by decide +kernel
  obtain ⟨hiff, -, hlater⟩ := callbacks_use_challenge_up .plain p t hcallback hholds
  have hgone : ¬ (p.next .plain t).Holds 0 := by
    rw [show (0 : Nat) = t.browser from rfl, hiff, hsave]
    simp [hcodes]
  exact ⟨hgone, hlater hgone (p.next .plain t) rfl [] _ (by simp) rfl⟩

/-- A callback with two codes is refused before the challenge is taken, and the next callback
exchanges a code for it. -/
theorem challenge_outlives_repeated_code :
    let ada : User := ⟨⟨"u-1", by decide⟩, "Ada", "ada@example.com", none⟩
    let p := Scene.start.next .plain (.plain 0 ada "/auth/init")
    let t := Turn.plain 0 ada "/auth/callback?access_code=x&access_code=y"
    let u := Turn.plain 0 ada "/auth/callback?access_code=z"
    t.endpoint = some .loginCallback ∧ p.Holds 0 ∧ (p.next .plain t).Holds 0 ∧
      exchanges (Setting.plain.challenge 0) ((p.next .plain t).questions .plain u) = 1 := by
  decide +kernel

end Rulebook
