import Mathlib.Data.List.Induction
import Rulebook.Proofs.Site.Tokens
import Rulebook.Proofs.Site.Twin

/-!
# Secrets stay inside

Two runs of the same requests are compared. They differ in the app secret and in the tokens that the
platform grants, and the platform otherwise answers alike what it is asked in them. Endpoint by
endpoint the requests are handled by twins, so the outcomes of all requests are the same in both
runs, and the stores differ at most in the kept tokens (`secrets_stay_inside`).
-/

namespace Rulebook

open Attempt (Twin only_pure)

/-! ## Logging in -/

/-- Two settings of credentials that differ at most in the secret. -/
def AppCredentials.Alike (c₁ c₂ : Option AppCredentials) : Prop :=
  c₁.map (·.appId) = c₂.map (·.appId)

namespace Login

/-- Records that are kept in alike worlds are read alike. -/
theorem twin_storedToken (userId : UserId) :
    Twin (Option.Rel UserToken.Alike) (storedToken userId) (storedToken userId) := by
  have hget := Attempt.twin_getToken userId.text
  refine hget.outcome.bind fun x y hxy => ?_
  cases hxy with
  | error e =>
    by_cases hmissing : e.isNotFound
    · simp only [hmissing, if_true]
      exact .pure .none
    · simp only [hmissing]
      exact .done (.error e)
  | @ok d₁ d₂ h =>
    obtain ⟨r₁, r₂, hr, hfirst, hsecond⟩ := h
    simp only [hfirst, hsecond, UserToken.decode_toJson]
    exact .pure (.some hr)

theorem twin_tokenFor (userId : UserId) :
    Twin (Option.Rel fun _ _ => True) (tokenFor userId) (tokenFor userId) := by
  refine (twin_storedToken userId).bind fun x y hxy => ?_
  cases hxy with
  | none => exact .pure .none
  | some h => exact .pure (.some trivial)

/-- Two tokens are kept for a user with the same times. -/
theorem twin_storeToken (now : Time.Timestamp) (userId : UserId) (t₁ t₂ : BearerToken) :
    Twin Eq (storeToken now userId t₁) (storeToken now userId t₂) := by
  have hset : ∀ created, Twin Eq
      (Attempt.set .userTokens userId.text (UserToken.toJson ⟨t₁.text, userId, created, now⟩))
      (Attempt.set .userTokens userId.text (UserToken.toJson ⟨t₂.text, userId, created, now⟩)) :=
    fun created => Attempt.twin_setToken (.of_token t₁.text t₂.text userId created now) _
  refine (twin_storedToken userId).outcome.bind fun x y hxy => ?_
  cases hxy with
  | error e => exact hset now
  | ok h =>
    cases h with
    | none => exact hset now
    | @some r₁ r₂ h =>
      have hcreated : r₁.createdAt = r₂.createdAt := h.createdAt_eq
      dsimp only
      rw [hcreated]
      exact hset r₂.createdAt

/-- The end of a login, whatever the secret is and whatever is granted. -/
theorem twin_complete {c₁ c₂ : Option AppCredentials} (h : AppCredentials.Alike c₁ c₂)
    (now : Time.Timestamp) (code : Option AccessCode) (challenge : Option ChallengeId) :
    Twin Eq (complete c₁ now code challenge) (complete c₂ now code challenge) := by
  cases code with
  | none => exact .of_kept (Attempt.only_throw _)
  | some code =>
  cases challenge with
  | none => exact .of_kept (Attempt.only_throw _)
  | some challenge =>
  cases c₁ with
  | none =>
    obtain rfl : c₂ = none := Option.map_eq_none_iff.mp h.symm
    exact .of_kept (Attempt.only_throw _)
  | some c₁ =>
    obtain ⟨c₂, rfl, hid⟩ : ∃ c, c₂ = some c ∧ c.appId = c₁.appId :=
      Option.map_eq_some_iff.mp h.symm
    have hexchange := Attempt.twin_exchangeCode hid.symm code challenge
    refine (hexchange.orFail LoginError.identity).bind fun grant₁ grant₂ _ => ?_
    have hactive := Attempt.twin_activeUser grant₁.token grant₂.token
    refine (hactive.orFail LoginError.identity).bind fun user other huser => ?_
    subst huser
    have hstore := twin_storeToken now user.id grant₁.token grant₂.token
    exact (hstore.orFail LoginError.tokenStore).bind fun _ _ _ => .pure rfl

/-- The start of a login reads no secret. -/
theorem start_eq {c₁ c₂ : Option AppCredentials} (h : AppCredentials.Alike c₁ c₂)
    (approvalUrl : String → ChallengeId → String) :
    start c₁ approvalUrl = start c₂ approvalUrl := by
  cases c₁ with
  | none =>
    obtain rfl : c₂ = none := Option.map_eq_none_iff.mp h.symm
    rfl
  | some c₁ =>
    obtain ⟨c₂, rfl, hid⟩ : ∃ c, c₂ = some c ∧ c.appId = c₁.appId :=
      Option.map_eq_some_iff.mp h.symm
    simp only [start, hid]

end Login

/-! ## Pages -/

namespace Site

variable (v : Visit)

/-- A page for a user whose token is kept, whatever the token is. -/
theorem twin_token (user : User) {without : Handling} {page : BearerToken → Handling}
    (hwithout : without.Only Call.Kept) (hpage : ∀ t₁ t₂, Twin Eq (page t₁) (page t₂)) :
    Twin Eq
      (do match ← storedToken user with
        | none => without
        | some token => page token)
      (do match ← storedToken user with
        | none => without
        | some token => page token) := by
  have hstored : Twin (Option.Rel fun _ _ => True)
      (storedToken user : Attempt Refusal (Option BearerToken)) (storedToken user) := by
    refine (Login.twin_tokenFor user.id).outcome.bind fun x y hxy => ?_
    cases hxy with
    | error e => exact .pure .none
    | ok h => exact .pure h
  refine hstored.bind fun x y hxy => ?_
  cases hxy with
  | none => exact .of_kept hwithout
  | some _ => exact hpage _ _

theorem twin_forMember {page : User → BearerToken → Handling}
    (h : ∀ user t₁ t₂, Twin Eq (page user t₁) (page user t₂)) :
    Twin Eq (forMember v page) (forMember v page) := by
  unfold forMember Visit.forUser
  split
  · exact .of_kept (only_pure _)
  · exact twin_token _ (only_pure _) (h _)

theorem twin_field (name : String) {page : Option String → Handling}
    (h : ∀ value, Twin Eq (page value) (page value)) :
    Twin Eq (v.field name >>= page) (v.field name >>= page) := by
  refine (Twin.of_kept (v.only_field name)).bind fun x y hxy => ?_
  subst hxy
  exact h x

theorem twin_home : Twin Eq (home v) (home v) := by
  unfold home
  split
  · exact .of_kept (only_pure _)
  · refine twin_token _ (only_pure _) fun t₁ t₂ => ?_
    refine (Attempt.twin_listProjects t₁ t₂ pageSize none).outcome.bind fun x y hxy => ?_
    cases hxy with
    | error e => exact .pure rfl
    | ok h => exact .pure (by rw [h])

theorem twin_projectList : Twin Eq (projectList v) (projectList v) := by
  refine twin_field v "cursor" fun cursor => twin_forMember v fun user t₁ t₂ => ?_
  have hlist := Attempt.twin_listProjects t₁ t₂ pageSize (cursor.filter (· ≠ ""))
  refine (hlist.orFail _).bind fun x y hxy => ?_
  exact .pure (by rw [hxy])

theorem twin_projectSearch : Twin Eq (projectSearch v) (projectSearch v) := by
  refine twin_field v "q" fun q => twin_forMember v fun user t₁ t₂ => ?_
  dsimp only
  split
  · exact .pure rfl
  · have hsearch :=
      Attempt.twin_searchProjects t₁ t₂ (Text.trim (q.getD "")) searchLimit searchLimit
    refine (hsearch.orFail _).bind fun x y hxy => ?_
    exact .pure (by rw [hxy])

theorem twin_projectDetail (projectId : String) :
    Twin Eq (projectDetail projectId v) (projectDetail projectId v) := by
  refine twin_forMember v fun user t₁ t₂ => ?_
  have hdetails := Attempt.twin_projectDetails t₁ t₂ projectId
  refine (hdetails.orFail _).bind fun project other hproject => ?_
  subst hproject
  have hrulesets := (Rulesets.views_listOfProject projectId).about.rulesets
    (.internal "Failed to fetch project rulesets")
  exact .of_kept (hrulesets.bind fun _ => only_pure _)

end Site

/-! ## Requests -/

namespace Application

variable {app other : Application} (trace : TraceId) (v : Visit)

/-- A handling and its twin are told in one way. -/
theorem twin_settle {h : Handling} (hh : Twin Eq h h) :
    Program.Twin Eq (settle trace v h) (settle trace v h) := by
  refine Program.Twin.bind hh fun x y hxy => ?_
  cases hxy with
  | error e => exact .done rfl
  | ok hxy => exact .done (by rw [hxy])

/-- Two applications that differ at most in the secret. -/
structure Alike (app other : Application) : Prop where
  credentials : AppCredentials.Alike app.credentials other.credentials
  approvalUrl : app.approvalUrl = other.approvalUrl
  health : app.health = other.health

/-- Two applications that differ at most in the secret handle a visit as twins. -/
theorem Alike.twin_handle (h : app.Alike other) (e : Endpoint) :
    Program.Twin Eq (app.handle trace v e) (other.handle trace v e) := by
  have hkept : ∀ page : Handling, page.Only Call.Kept →
      Program.Twin Eq (settle trace v page) (settle trace v page) := fun page hpage =>
    twin_settle trace v (.of_kept hpage)
  have hview : ∀ page : Handling, page.Only Call.KeptView →
      Program.Twin Eq (settle trace v page) (settle trace v page) := fun page hpage =>
    hkept page (hpage.mono fun _ => And.left)
  cases e with
  | ready | live => exact .done (by rw [h.health])
  | logout => exact .done rfl
  | loginStart =>
    rw [handle_loginStart, handle_loginStart, ← h.approvalUrl]
    unfold Site.loginStart
    rw [Login.start_eq h.credentials]
    refine Program.Twin.of_only (Program.Only.bind ?_ fun answer => ?_)
    · unfold Login.start
      split
      · exact .done _
      · exact .ask (.inr rfl) fun _ => .done _
    · cases answer <;> exact .done _
  | loginCallback =>
    rw [handle_loginCallback, handle_loginCallback]
    unfold Site.loginCallback
    split
    · exact .done rfl
    · refine Program.Twin.bind (Login.twin_complete h.credentials _ _ _) fun x y hxy => ?_
      cases hxy with
      | error e => exact .done rfl
      | ok hxy => exact .done (by rw [hxy])
  | home => exact twin_settle trace v (Site.twin_home v)
  | projectSearch => exact twin_settle trace v (Site.twin_projectSearch v)
  | projects => exact twin_settle trace v (Site.twin_projectList v)
  | project id => exact twin_settle trace v (Site.twin_projectDetail v id)
  | rulesets => exact hview _ (Site.views_rulesetList v)
  | rulesetNew => exact hview _ (Site.views_rulesetNew v)
  | rulesetEdit id => exact hview _ (Site.views_rulesetEdit v id)
  | rulesetCreate => exact hkept _ (Site.only_rulesetCreate v)
  | rulesetUpdate id => exact hkept _ (Site.only_rulesetUpdate v id)
  | rulesetDelete id => exact hkept _ (Site.only_rulesetDelete v id)
  | ruleNew rulesetId => exact hview _ (Site.views_ruleNew v rulesetId)
  | ruleEdit rulesetId ruleId => exact hview _ (Site.views_ruleEdit v rulesetId ruleId)
  | ruleCreate rulesetId => exact hkept _ (Site.only_ruleCreate v rulesetId)
  | ruleUpdate rulesetId ruleId => exact hkept _ (Site.only_ruleUpdate v rulesetId ruleId)
  | ruleDelete rulesetId ruleId => exact hkept _ (Site.only_ruleDelete v rulesetId ruleId)
  | ruleReorder rulesetId ruleId => exact hkept _ (Site.only_ruleReorder v rulesetId ruleId)
  | «export» hash => exact hview _ (Site.views_export v hash)

/-- A request is answered alike from end to end. -/
theorem Alike.twin_serve (h : app.Alike other) (fresh : TraceId) (now : Time.Timestamp)
    (cookie : Option (List (String × Json))) (r : Http.Request) :
    Program.Twin Eq (app.serve fresh now cookie r) (other.serve fresh now cookie r) := by
  refine Program.Twin.bind (S := Eq) ?_ fun x y hxy => ?_
  · unfold visit
    split
    · exact h.twin_handle _ _ _
    · exact .done rfl
  · exact .done (by rw [hxy])

end Application

/-! ## Runs -/

/-- The same setting with other credentials. -/
def Setting.withCredentials (s : Setting) (credentials : Option AppCredentials) : Setting :=
  { s with credentials := credentials }

/-- The same turn with another platform. -/
def Turn.facing (t : Turn) (platform : Platform) : Turn :=
  { t with platform := platform }

/-- Two scenes with alike worlds and the same cookies. -/
structure Scene.Alike (p q : Scene) : Prop where
  world : p.world.Alike q.world
  cookies : p.cookies = q.cookies

/-- The questions of a turn are those of the program that handles it. -/
theorem Scene.questions_eq_serve (s : Setting) (p : Scene) (t : Turn) :
    p.questions s t = ((t.application s).serve t.trace t.now (p.cookies t.browser)
      t.request).questions (t.around s) p.world := by
  unfold questions Program.questions next outcome
  dsimp only

theorem Scene.world_next_eq (s : Setting) (p : Scene) (t : Turn) :
    (p.next s t).world = (p.outcome s t).2 := by
  rw [next]

theorem Scene.cookies_next_eq (s : Setting) (p : Scene) (t : Turn) (b : Nat) :
    (p.next s t).cookies b =
      if b = t.browser then (p.outcome s t).1.cookie else p.cookies b := by
  rw [next]

theorem Turn.browser_facing (t : Turn) (platform : Platform) :
    (t.facing platform).browser = t.browser :=
  rfl

namespace Scene.Alike

variable {p q : Scene} {s : Setting} {credentials : Option AppCredentials}

theorem start : Scene.start.Alike Scene.start where
  world :=
    { store := ⟨fun _ _ => rfl, fun _ => .none⟩
      idsTried := rfl
      challengesDrawn := rfl }
  cookies := rfl

theorem meeting (h : p.Alike q) (x : Sent) (platform : Platform) :
    (p.meeting x).Alike (q.meeting { x with turn := x.turn.facing platform }) where
  world := h.world
  cookies := by
    change Function.update p.cookies x.turn.browser x.cookie =
      Function.update q.cookies x.turn.browser x.cookie
    rw [h.cookies]

/-- One turn in alike scenes has one outcome and leaves alike scenes. -/
theorem next (h : p.Alike q) (hc : AppCredentials.Alike s.credentials credentials) (t : Turn)
    (platform : Platform)
    (hagree : ∀ x ∈ p.questions s t,
      ∀ y ∈ q.questions (s.withCredentials credentials) (t.facing platform),
        t.platform.AnswersAlike platform x y) :
    (p.outcome s t).1 = (q.outcome (s.withCredentials credentials) (t.facing platform)).1 ∧
      (p.next s t).Alike (q.next (s.withCredentials credentials) (t.facing platform)) := by
  have happ : (t.application s).Alike ((t.facing platform).application
      (s.withCredentials credentials)) := ⟨hc, rfl, rfl⟩
  rw [questions_eq_serve, questions_eq_serve, ← h.cookies] at hagree
  obtain ⟨houtcome, hworld⟩ := happ.twin_serve t.trace t.now (p.cookies t.browser) t.request
    (t.around s) platform p.world q.world h.world hagree
  have hsame : (p.outcome s t).1 = (q.outcome (s.withCredentials credentials)
      (t.facing platform)).1 := by
    unfold outcome
    rw [← h.cookies]
    exact houtcome
  have hafter : (p.outcome s t).2.Alike (q.outcome (s.withCredentials credentials)
      (t.facing platform)).2 := by
    unfold outcome
    rw [← h.cookies]
    exact hworld
  refine ⟨hsame, ?_, funext fun b => ?_⟩
  · rw [world_next_eq, world_next_eq]
    exact hafter
  · rw [cookies_next_eq, cookies_next_eq, hsame, h.cookies, Turn.browser_facing]

end Scene.Alike

/-- A request that is sent in two runs, with the platform it meets in the second one. -/
structure SentTwice where
  first : Sent
  platform : Platform

/-- The request as it is sent in the second run. -/
def SentTwice.second (x : SentTwice) : Sent :=
  { x.first with turn := x.first.turn.facing x.platform }

/-- The scene after the first of two runs. -/
def Scene.afterFirst (s : Setting) (past : List SentTwice) : Scene :=
  (Ledger.after s (past.map (·.first))).scene

/-- The scene after the second of two runs, whose credentials are others. -/
def Scene.afterSecond (s : Setting) (credentials : Option AppCredentials)
    (past : List SentTwice) : Scene :=
  (Ledger.after (s.withCredentials credentials) (past.map (·.second))).scene

section Runs

variable {s : Setting} {credentials : Option AppCredentials} {past : List SentTwice}

theorem Ledger.scene_next (s : Setting) (l : Ledger) (x : Sent) :
    (l.next s x).scene = (l.scene.meeting x).next s x.turn :=
  rfl

theorem Scene.afterFirst_concat (s : Setting) (past : List SentTwice) (x : SentTwice) :
    afterFirst s (past ++ [x]) = ((afterFirst s past).meeting x.first).next s x.first.turn := by
  unfold afterFirst
  rw [List.map_append, List.map_singleton, Ledger.after_concat, Ledger.scene_next]

theorem Scene.afterSecond_concat (s : Setting) (credentials : Option AppCredentials)
    (past : List SentTwice) (x : SentTwice) :
    afterSecond s credentials (past ++ [x]) =
      ((afterSecond s credentials past).meeting x.second).next (s.withCredentials credentials)
        x.second.turn := by
  unfold afterSecond
  rw [List.map_append, List.map_singleton, Ledger.after_concat, Ledger.scene_next]

/-- The platforms of two runs answer alike what they are asked in the same turn. -/
def AnsweredAlike (s : Setting) (credentials : Option AppCredentials) (past : List SentTwice) :
    Prop :=
  ∀ before x, before ++ [x] <+: past →
    ∀ a ∈ ((Scene.afterFirst s before).meeting x.first).questions s x.first.turn,
      ∀ b ∈ ((Scene.afterSecond s credentials before).meeting x.second).questions
          (s.withCredentials credentials) x.second.turn,
        x.first.turn.platform.AnswersAlike x.platform a b

/-- Along two runs the scenes stay alike. -/
theorem Scene.Alike.after (hc : AppCredentials.Alike s.credentials credentials)
    (hagree : AnsweredAlike s credentials past) :
    (Scene.afterFirst s past).Alike (Scene.afterSecond s credentials past) := by
  induction past using List.reverseRecOn with
  | nil => exact .start
  | append_singleton past x ih =>
    have hpast := ih fun before y hinitial =>
      hagree before y (hinitial.trans (List.prefix_append past [x]))
    rw [Scene.afterFirst_concat, Scene.afterSecond_concat]
    exact ((hpast.meeting x.first x.platform).next hc x.first.turn x.platform
      (hagree past x (List.prefix_refl _))).2

/-- **Secrets stay inside.** The same requests are sent in two runs from the empty store, with the
same times, draws and outages, but with different app secrets; the platform may grant different
tokens and otherwise answers alike what it is asked. Then every request has one outcome in both
runs, response, cookie and all, and the stores differ at most in the kept tokens. -/
theorem secrets_stay_inside (s : Setting) (credentials : Option AppCredentials)
    (hc : s.credentials.map (·.appId) = credentials.map (·.appId)) (past : List SentTwice)
    (hagree : AnsweredAlike s credentials past) :
    (∀ before x, before ++ [x] <+: past →
      (((Scene.afterFirst s before).meeting x.first).outcome s x.first.turn).1 =
        (((Scene.afterSecond s credentials before).meeting x.second).outcome
          (s.withCredentials credentials) x.second.turn).1) ∧
    ∀ before, before <+: past →
      (Scene.afterFirst s before).cookies = (Scene.afterSecond s credentials before).cookies ∧
      (∀ c, c ≠ .userTokens → (Scene.afterFirst s before).world.store.shelf c =
        (Scene.afterSecond s credentials before).world.store.shelf c) ∧
      ∀ id, Option.Rel
        (fun x y => ∃ (record : UserToken) (token : String),
          x = record.toJson ∧ y = UserToken.toJson { record with token := token })
        (((Scene.afterFirst s before).world.store.shelf .userTokens).get? id)
        (((Scene.afterSecond s credentials before).world.store.shelf .userTokens).get? id) := by
  have halike : ∀ before, before <+: past →
      (Scene.afterFirst s before).Alike (Scene.afterSecond s credentials before) := by
    intro before hbefore
    refine Scene.Alike.after hc fun earlier x hearlier => ?_
    exact hagree earlier x (hearlier.trans hbefore)
  refine ⟨fun before x hx => ?_, fun before hbefore => ?_⟩
  · have hbefore := halike before ((List.prefix_append before [x]).trans hx)
    exact ((hbefore.meeting x.first x.platform).next hc x.first.turn x.platform
      (hagree before x hx)).1
  · have h := halike before hbefore
    refine ⟨h.cookies, h.world.store.shelf, fun id => ?_⟩
    have htokens := h.world.store.tokens id
    generalize ((Scene.afterFirst s before).world.store.shelf .userTokens).get? id = x at htokens ⊢
    generalize ((Scene.afterSecond s credentials before).world.store.shelf .userTokens).get? id = y
      at htokens ⊢
    cases htokens with
    | none => exact .none
    | some hbodies =>
      obtain ⟨r₁, r₂, hr, hx, hy⟩ := hbodies
      exact .some ⟨r₁, r₂.token, hx, by rw [hy, hr]⟩

end Runs

/-- A user logs in and browses her projects. The secrets and the granted tokens are different in the
two runs, and she is shown the same page. -/
theorem secrets_stay_inside_while_browsing :
    let ada : User := ⟨⟨"u-1", by decide⟩, "Ada", "ada@example.com", none⟩
    let other : Platform := ⟨fun
      | .exchangeCode _ _ _ => .ok ⟨⟨"other"⟩, some ⟨"refresh"⟩⟩
      | call => (Platform.ofUser ada).answer call, fun _ challenge => challenge.text⟩
    let credentials : Option AppCredentials :=
      some ⟨"app-id", "another secret", by decide, by decide⟩
    let pending := (Standing.mk none (some ⟨"c"⟩)).entries
    let past : List SentTwice :=
      [⟨⟨.plain 0 ada "/auth/callback?access_code=a", some pending⟩, other⟩]
    let x : SentTwice :=
      ⟨⟨.plain 0 ada "/projects", some (Standing.mk (some (.of ada)) none).entries⟩, other⟩
    AnsweredAlike .plain credentials (past ++ [x]) ∧
      (((Scene.afterFirst .plain past).meeting x.first).outcome .plain x.first.turn).1 =
        (((Scene.afterSecond .plain credentials past).meeting x.second).outcome
          (Setting.plain.withCredentials credentials) x.second.turn).1 ∧
      Site.keptToken (x.first.turn.around .plain) (Scene.afterFirst .plain past).world ada.id =
        some ⟨"a"⟩ ∧
      Site.keptToken (x.first.turn.around .plain)
        (Scene.afterSecond .plain credentials past).world ada.id = some ⟨"other"⟩ := by
  intro ada other credentials pending past x
  have hanswers : ∀ a b, (Platform.ofUser ada).AnswersAlike other a b := by
    intro a b
    cases a <;> cases b <;> simp [Platform.AnswersAlike, Platform.ofUser, other]
    exact fun _ _ _ => .ok trivial
  have hplatforms : ∀ y ∈ past ++ [x], y.first.turn.platform = Platform.ofUser ada ∧
      y.platform = other := by
    intro y hy
    rcases List.mem_cons.mp hy with rfl | hy
    · exact ⟨rfl, rfl⟩
    · obtain rfl := List.mem_singleton.mp hy
      exact ⟨rfl, rfl⟩
  have hagree : AnsweredAlike .plain credentials (past ++ [x]) := by
    intro before y hinitial a _ b _
    have hy : y ∈ past ++ [x] := hinitial.subset (by simp)
    obtain ⟨hfirst, hsecond⟩ := hplatforms y hy
    rw [hfirst, hsecond]
    exact hanswers a b
  have houtcomes := (secrets_stay_inside .plain credentials rfl (past ++ [x]) hagree).1
  refine ⟨hagree, houtcomes past x (List.prefix_refl _), ?_, ?_⟩
  · decide +kernel
  · decide +kernel

end Rulebook
