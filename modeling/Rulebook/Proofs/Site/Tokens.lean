import Mathlib.Data.List.Induction
import Rulebook.Proofs.Site.Run
import Rulebook.Proofs.Store.Shelf

/-!
# Whose token is used

`Ledger` writes down the logins that are completed while the application runs. The tokens that are
kept are the latest ones in it, one for each user (`Ledger.Kept`), and so a question about projects
is always asked with the latest token of the user of the session
(`projects_asked_with_latest_token`). The browsers are not trusted to send back their latest cookie:
any cookie may come with a request.
-/

namespace Rulebook

/-! ## The token that is kept for a user -/

/-- The token in a document, if it is a token record. -/
def UserToken.tokenIn? (fields : Json) : Option BearerToken :=
  (Json.decodeWith UserToken.read fields).toOption.map fun record => ⟨record.token⟩

theorem UserToken.tokenIn?_toJson (token : BearerToken) (owner : UserId)
    (created updated : Time.Timestamp) :
    tokenIn? (toJson ⟨token.text, owner, created, updated⟩) = some token := by
  rw [tokenIn?, decode_toJson]
  rfl

namespace Site

/-- The token kept for a user is read from the user's document, if the store can be read at all. -/
theorem keptToken_eq (around : Surroundings) (w : World) (id : UserId) :
    keptToken around w id =
      match Outage.meets? around.outages (.get .userTokens id.text) with
      | some _ => none
      | none => ((w.store.shelf .userTokens).get? id.text).bind UserToken.tokenIn? := by
  have hget := Attempt.runIn_get around w .userTokens id.text
  rw [keptToken, Login.tokenFor, bind_pure_comp, Attempt.runIn_map, Login.storedToken,
    Attempt.runIn_bind, Attempt.runIn_outcome, hget]
  cases Outage.meets? around.outages (.get .userTokens id.text) with
  | some e =>
    dsimp only
    split <;> rfl
  | none =>
    dsimp only
    unfold Store.get
    cases (w.store.shelf .userTokens).get? id.text with
    | none => rfl
    | some fields =>
      dsimp only [Option.bind_some, UserToken.tokenIn?]
      cases Json.decodeWith UserToken.read fields <;> rfl

end Site

/-- The end of a login asks nothing about projects. -/
theorem Login.not_browses_of_mem {around : Surroundings} {credentials : Option AppCredentials}
    {code : Option AccessCode} {challenge : Option ChallengeId} {call : PlatformCall}
    (h : call ∈ questions around credentials code challenge) (token : BearerToken) :
    ¬ call.Browses token := by
  intro hbrowses
  unfold questions at h
  split at h
  · split at h <;> cases call <;> first | exact hbrowses | simp at h
  · cases h

namespace Scene

/-- The kept tokens change by logins that are completed, and by nothing else. -/
theorem tokens_next (s : Setting) (p : Scene) (t : Turn) :
    ∃ created, (p.next s t).world.store.shelf .userTokens =
      match p.login? s t with
      | none => p.world.store.shelf .userTokens
      | some login => (p.world.store.shelf .userTokens).insert login.user.id.text
          (UserToken.toJson ⟨login.token.text, login.user.id, created, t.now⟩) := by
  rw [world_next]
  have hcases := handled_cases s p t
  have hother : t.endpoint ≠ some .loginCallback → p.login? s t = none := fun h => if_neg h
  generalize p.handled s t = r at hcases
  cases hcases with
  | browsed hstart hcallback hlogout page hbrowsing response =>
    refine ⟨t.now, ?_⟩
    rw [hother hcallback]
    exact Program.shelf_of_only _ (hbrowsing.harmless.mono fun _ h => h.1) _
  | loggedOut hlogout => exact ⟨t.now, by rw [hother (by simp [hlogout])]⟩
  | unconfigured hstart => exact ⟨t.now, by rw [hother (by simp [hstart])]⟩
  | begun hstart => exact ⟨t.now, by rw [hother (by simp [hstart])]⟩
  | unreadable hcallback fault hcode =>
    have hnone : p.login? s t = none := by simp [login?, hcallback, hcode]
    exact ⟨t.now, by rw [hnone]⟩
  | failed hcallback raw hcode hlogin => exact ⟨t.now, by rw [hlogin]⟩
  | completed hcallback raw hcode login hlogin response hstatus created =>
    refine ⟨created, ?_⟩
    rw [hlogin]
    exact Store.shelf_put_self _ _ _

end Scene

/-! ## Logins along a run -/

/-- A request together with the cookie that comes along. -/
structure Sent where
  turn : Turn
  cookie : Option (List (String × Json))

/-- The scene that a request with its cookie meets. -/
def Scene.meeting (p : Scene) (x : Sent) : Scene :=
  { p with cookies := Function.update p.cookies x.turn.browser x.cookie }

theorem Scene.world_meeting (p : Scene) (x : Sent) : (p.meeting x).world = p.world :=
  rfl

/-- The application and the logins that were completed, the latest first. -/
structure Ledger where
  scene : Scene
  logins : List Login.Completed

namespace Ledger

/-- Nothing has happened. -/
def start : Ledger :=
  ⟨Scene.start, []⟩

/-- One request later. -/
def next (s : Setting) (l : Ledger) (x : Sent) : Ledger :=
  ⟨(l.scene.meeting x).next s x.turn, ((l.scene.meeting x).login? s x.turn).toList ++ l.logins⟩

/-- A run of requests later. -/
def after (s : Setting) (past : List Sent) : Ledger :=
  past.foldl (next s) start

/-- The token of the latest login that a user completed. -/
def latest? (l : Ledger) (id : UserId) : Option BearerToken :=
  (l.logins.find? fun login => login.user.id = id).map (·.token)

variable {s : Setting} {l : Ledger} {x : Sent}

theorem after_concat (s : Setting) (past : List Sent) (x : Sent) :
    after s (past ++ [x]) = (after s past).next s x := by
  simp [after]

/-- The run in which every browser sends the cookie it was left with is one of many. -/
theorem exists_sent (s : Setting) (turns : List Turn) :
    ∃ past : List Sent, past.map (·.turn) = turns ∧ (after s past).scene = Scene.after s turns := by
  induction turns using List.reverseRecOn with
  | nil => exact ⟨[], rfl, rfl⟩
  | append_singleton turns t ih =>
    obtain ⟨past, hturns, hscene⟩ := ih
    refine ⟨past ++ [⟨t, (Scene.after s turns).cookies t.browser⟩], by simp [hturns], ?_⟩
    have hmeeting : (Scene.after s turns).meeting ⟨t, (Scene.after s turns).cookies t.browser⟩ =
        Scene.after s turns := by
      simp [Scene.meeting]
    rw [after_concat]
    simp only [next, hscene, hmeeting]
    simp [Scene.after]

theorem latest?_next_of_none (h : (l.scene.meeting x).login? s x.turn = none) (id : UserId) :
    (l.next s x).latest? id = l.latest? id := by
  simp only [latest?, next, h, Option.toList_none, List.nil_append]

theorem latest?_next_of_some {login : Login.Completed}
    (h : (l.scene.meeting x).login? s x.turn = some login) (id : UserId) :
    (l.next s x).latest? id = if login.user.id = id then some login.token else l.latest? id := by
  simp only [latest?, next, h, Option.toList_some, List.singleton_append, List.find?_cons]
  by_cases heq : login.user.id = id <;> simp [heq]

/-- The tokens that are kept are the latest. -/
def Kept (l : Ledger) : Prop :=
  ∀ id : UserId, ((l.scene.world.store.shelf .userTokens).get? id.text).bind UserToken.tokenIn? =
    l.latest? id

theorem Kept.start : Kept start := by
  intro id
  rfl

/-- A request keeps the tokens up to date. -/
theorem Kept.next (h : l.Kept) (s : Setting) (x : Sent) : (l.next s x).Kept := by
  intro id
  obtain ⟨created, hshelf⟩ := Scene.tokens_next s (l.scene.meeting x) x.turn
  have hscene : (l.next s x).scene = (l.scene.meeting x).next s x.turn := rfl
  rw [Scene.world_meeting] at hshelf
  rw [hscene, hshelf]
  cases hlogin : (l.scene.meeting x).login? s x.turn with
  | none =>
    rw [latest?_next_of_none hlogin]
    exact h id
  | some login =>
    dsimp only
    rw [latest?_next_of_some hlogin, Shelf.get?_insert]
    by_cases hid : login.user.id = id
    · rw [if_pos (congrArg UserId.text hid.symm), if_pos hid]
      exact UserToken.tokenIn?_toJson ..
    · have htext : id.text ≠ login.user.id.text := by
        intro heq
        cases hu : login.user.id
        cases id
        simp_all
      rw [if_neg htext, if_neg hid]
      exact h id

theorem Kept.after (s : Setting) (past : List Sent) : (Ledger.after s past).Kept := by
  induction past using List.reverseRecOn with
  | nil => exact Kept.start
  | append_singleton past x ih =>
    rw [after_concat]
    exact ih.next s x

/-- The token that is found for a user is the latest, unless the store cannot be read. -/
theorem Kept.keptToken (h : l.Kept) (around : Surroundings) (id : UserId) :
    Site.keptToken around l.scene.world id =
      match Outage.meets? around.outages (.get .userTokens id.text) with
      | some _ => none
      | none => l.latest? id := by
  rw [Site.keptToken_eq, h id]

end Ledger

/-- Whatever requests came before and whatever cookies came along, a question about projects is
asked with the token of the latest login that the user of the session completed. If no token can be
found for the user, no such question is asked. The owner of a token is asked for only right after
the token was granted. So no token is ever used for anybody but the user it was granted to. -/
theorem projects_asked_with_latest_token (s : Setting) (past : List Sent) (x : Sent) :
    let l := Ledger.after s past
    let p := l.scene.meeting x
    (∀ call ∈ p.questions s x.turn, ∀ token, call.Browses token →
        ∃ user, (p.session x.turn).user? = some user ∧ l.latest? user.id = some token) ∧
      (∀ user, (p.session x.turn).user? = some user →
        Site.keptToken (x.turn.around s) p.world user.id = none →
          ∀ call ∈ p.questions s x.turn, ∀ token, ¬ call.Browses token) ∧
      ∀ token, .activeUser token ∈ p.questions s x.turn →
        ∃ c k ch grant, .exchangeCode c k ch ∈ p.questions s x.turn ∧
          x.turn.platform.answer (.exchangeCode c k ch) = .ok grant ∧ grant.token = token := by
  intro l p
  have hbrowses : ∀ call ∈ p.questions s x.turn, ∀ token, call.Browses token →
      ∃ user, (p.session x.turn).user? = some user ∧
        Site.keptToken (x.turn.around s) p.world user.id = some token := by
    intro call hcall token htoken
    rcases p.questions_cases s x.turn with ⟨raw, -, -, hquestions⟩ | hserves
    · exact absurd htoken (Login.not_browses_of_mem (hquestions ▸ hcall) token)
    · obtain ⟨user, kept, huser, hkept, hcalled⟩ := hserves call hcall
      obtain rfl : token = kept := by
        cases call <;> first | exact htoken.elim | exact htoken.symm.trans hcalled
      exact ⟨user, huser, hkept⟩
  refine ⟨fun call hcall token htoken => ?_, fun user huser hnone call hcall token htoken => ?_,
    fun token htoken => ?_⟩
  · obtain ⟨user, huser, hkept⟩ := hbrowses call hcall token htoken
    refine ⟨user, huser, ?_⟩
    have hworld : p.world = l.scene.world := rfl
    rw [hworld, (Ledger.Kept.after s past).keptToken] at hkept
    split at hkept
    · cases hkept
    · exact hkept
  · obtain ⟨other, hother, hkept⟩ := hbrowses call hcall token htoken
    cases huser.symm.trans hother
    cases hnone.symm.trans hkept
  · rcases p.questions_cases s x.turn with ⟨raw, -, -, hquestions⟩ | hserves
    · rw [hquestions] at htoken ⊢
      exact Login.activeUser_mem_questions htoken
    · obtain ⟨user, kept, -, -, hcalled⟩ := hserves _ htoken
      exact hcalled.elim

/-- Two users have logged in, and the first asks for projects with a token of her own. -/
theorem projects_asked_with_own_token :
    let ada : User := ⟨⟨"u-1", by decide⟩, "Ada", "ada@example.com", none⟩
    let bob : User := ⟨⟨"u-2", by decide⟩, "Bob", "bob@example.com", none⟩
    let pending := (Standing.mk none (some ⟨"c"⟩)).entries
    let past : List Sent := [⟨.plain 0 ada "/auth/callback?access_code=a", some pending⟩,
      ⟨.plain 1 bob "/auth/callback?access_code=b", some pending⟩]
    let x : Sent := ⟨.plain 0 ada "/projects", some (Standing.mk (some (.of ada)) none).entries⟩
    let l := Ledger.after .plain past
    .listProjects ⟨"a"⟩ 5 none ∈ (l.scene.meeting x).questions .plain x.turn ∧
      ∃ user, ((l.scene.meeting x).session x.turn).user? = some user ∧
        l.latest? user.id = some ⟨"a"⟩ := by
  intro ada bob pending past x l
  have hasked : .listProjects ⟨"a"⟩ 5 none ∈ (l.scene.meeting x).questions .plain x.turn := by
    decide +kernel
  exact ⟨hasked, (projects_asked_with_latest_token .plain past x).1 _ hasked ⟨"a"⟩ rfl⟩

end Rulebook
