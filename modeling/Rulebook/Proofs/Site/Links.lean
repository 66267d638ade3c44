import Rulebook.Proofs.Http.Query
import Rulebook.Proofs.Page.Links
import Rulebook.Proofs.Page.RuleForm
import Rulebook.Proofs.Site.ErrorAnswers
import Rulebook.Proofs.Site.Tokens

/-!
# Links that are followed

A page hands data on to the next request in the address of a link. The list of projects has a link
to its next page exactly where the page is full and has a cursor, and whoever follows it asks the
platform with this very cursor; the link on the page of a project opens the form for a new ruleset
with the id of this very project (`links_carry_data`). The cursor and the id may be any text.
-/

namespace Rulebook

/-! ## Handlings of members -/

namespace Attempt

variable (around : Surroundings) (w : World)

@[simp] theorem runIn_listProjects (token : BearerToken) (limit : Nat) (cursor : Option String) :
    runIn around (Attempt.listProjects token limit cursor) w =
      (around.platform.answer (.listProjects token limit cursor),
        { w with asked := .listProjects token limit cursor :: w.asked }) :=
  rfl

@[simp] theorem runIn_projectDetails (token : BearerToken) (id : String) :
    runIn around (Attempt.projectDetails token id) w =
      (around.platform.answer (.projectDetails token id),
        { w with asked := .projectDetails token id :: w.asked }) :=
  rfl

end Attempt

namespace Site

variable {v : Visit} {around : Surroundings} {w : World} {user : User} {token : BearerToken}

theorem field_of_ok {name : String} {value : Option String}
    (h : Http.queryField v.query name = .ok value) :
    v.field name = (pure value : Attempt Refusal _) := by
  rw [Visit.field, h]

theorem forUser_of_some (h : v.session.user? = some user) (page : User → Handling) :
    v.forUser page = page user := by
  rw [Visit.forUser, h]

/-- A page for members is carried out for a user whose token is kept. -/
theorem forMember_runIn (huser : v.session.user? = some user)
    (htoken : keptToken around w user.id = some token) (page : User → BearerToken → Handling) :
    (forMember v page).runIn around w = (page user token).runIn around w := by
  rw [forMember, forUser_of_some huser, Attempt.runIn_bind, storedToken_runIn, htoken]

/-- The start page shows a member the first page of the list, or the login if there is none. -/
theorem home_runIn (huser : v.session.user? = some user)
    (htoken : keptToken around w user.id = some token) :
    (home v).runIn around w =
      (.ok (match around.platform.answer (.listProjects token pageSize none) with
        | .ok page => (Page.projects user page (nextCursor page) none).respond
        | .error _ => (Page.login (some user)).respond),
        { w with asked := .listProjects token pageSize none :: w.asked }) := by
  simp only [home, huser, Attempt.runIn_bind, storedToken_runIn, htoken, Attempt.runIn_outcome,
    Attempt.runIn_listProjects]
  cases around.platform.answer (.listProjects token pageSize none) <;> rfl

/-- The list shows a member the page behind the cursor of the query. -/
theorem projectList_runIn {text : Option String}
    (htext : Http.queryField v.query "cursor" = .ok text)
    (huser : v.session.user? = some user) (htoken : keptToken around w user.id = some token) :
    (projectList v).runIn around w =
      (match around.platform.answer (.listProjects token pageSize (text.filter (· ≠ ""))) with
        | .ok page => .ok (Page.projects user page (nextCursor page) none).respond
        | .error _ => .error (.internal "Failed to fetch projects"),
        { w with asked := .listProjects token pageSize (text.filter (· ≠ "")) :: w.asked }) := by
  rw [projectList, field_of_ok htext, pure_bind, forMember_runIn huser htoken, Attempt.runIn_bind,
    Attempt.orRefuse, Attempt.runIn_orFail, Attempt.runIn_listProjects]
  cases around.platform.answer (.listProjects token pageSize (text.filter (· ≠ ""))) <;> rfl

/-- The page of a project shows a member what the platform tells of it, with the rulesets kept for
it. -/
theorem projectDetail_runIn {id : String} {project : Project}
    (huser : v.session.user? = some user) (htoken : keptToken around w user.id = some token)
    (hproject : around.platform.answer (.projectDetails token id) = .ok project)
    (hlist : Outage.meets? around.outages
      (.list .rulesets (some (Rulesets.ofProjectFilter id))) = none) :
    (projectDetail id v).runIn around w =
      (.ok (Page.projectDetail user project (Rulesets.kind.listing
          (w.store.list .rulesets (some (Rulesets.ofProjectFilter id)))).items).respond,
        { w with asked := .projectDetails token id :: w.asked }) := by
  rw [projectDetail, forMember_runIn huser htoken, Attempt.runIn_bind, Attempt.orRefuse,
    Attempt.runIn_orFail, Attempt.runIn_projectDetails, hproject]
  simp only [Attempt.mapError_ok, Attempt.runIn_bind, Attempt.orRefuse, Attempt.runIn_orFail,
    Rulesets.listOfProject, Attempt.runIn_list, hlist]
  rfl

end Site

/-- The response that shows a page has the page as its body, whatever the trace id. -/
theorem Page.answer_respond (p : Page) (trace : TraceId) (name value : String) :
    ((Handling.answer trace (.ok p.respond)).setHeader name value).status = 200 ∧
      ((Handling.answer trace (.ok p.respond)).setHeader name value).body = p.render :=
  ⟨rfl, rfl⟩

/-! ## Turns that show lists and projects -/

namespace Turn

variable (t : Turn)

/-- The value of a field in the query of a request. -/
def field (name : String) : Except Http.DuplicateField (Option String) :=
  Http.queryField (Http.queryPairs (Http.splitTarget t.request.target).2) name

/-- A turn that asks for the list of projects behind a cursor. The start page shows its beginning,
and so does an empty cursor. -/
inductive AsksList : Option String → Prop
  | home (h : t.endpoint = some .home) : AsksList none
  | list (h : t.endpoint = some .projects) {text : Option String}
      (htext : t.field "cursor" = .ok text) : AsksList (text.filter (· ≠ ""))

/-- A turn that follows a link. -/
structure Follows (link : String) : Prop where
  method : t.request.method = "GET"
  target : t.request.target = link

variable {t}

/-- Who follows the link to the next page asks for the list behind the cursor of the link. -/
theorem Follows.asksList {cursor : String} (h : t.Follows (Page.cursorAddress cursor))
    (hcursor : cursor ≠ "") : t.AsksList (some cursor) := by
  have hsplit : Http.splitTarget t.request.target =
      ("/projects".toList, Http.queryOf "cursor" cursor) := by
    rw [h.target]
    exact Http.splitTarget_of_field (by decide) "/projects?cursor="
      (by decide) (by decide) (by decide) cursor
  have hendpoint : t.endpoint = some .projects := by
    rw [endpoint, h.method, hsplit]
    change Endpoint.find? "GET" "/projects".toList = some .projects
    decide
  have hfield : t.field "cursor" = .ok (some cursor) := by
    rw [field, hsplit]
    exact Http.queryField_queryOf (by decide) cursor
  have hkept : (some cursor).filter (· ≠ "") = some cursor := if_pos (decide_eq_true hcursor)
  exact hkept ▸ .list hendpoint hfield

/-- Who follows the link to the form for a new ruleset opens it with the project of the link. -/
theorem Follows.rulesetNew {projectId : String} (h : t.Follows (Page.newRulesetAddress projectId)) :
    t.endpoint = some .rulesetNew ∧ t.field "project_id" = .ok (some projectId) := by
  have hsplit : Http.splitTarget t.request.target =
      ("/rulesets/new".toList, Http.queryOf "project_id" projectId) := by
    rw [h.target]
    exact Http.splitTarget_of_field (by decide) "/rulesets/new?project_id="
      (by decide) (by decide) (by decide) projectId
  constructor
  · rw [endpoint, h.method, hsplit]
    change Endpoint.find? "GET" "/rulesets/new".toList = some .rulesetNew
    decide
  · rw [field, hsplit]
    exact Http.queryField_queryOf (by decide) projectId

end Turn

namespace Scene

variable (s : Setting) (p : Scene) (t : Turn)

/-- A turn of a user who is signed in and whose token can be read. -/
structure Member (user : User) (token : BearerToken) : Prop where
  signedIn : (p.session t).user? = some user
  kept : Site.keptToken (t.around s) p.world user.id = some token

variable {s p t} {user : User} {token : BearerToken}

/-- The response and the world after an endpoint that leaves the session alone. -/
theorem outcome_of_settle {e : Endpoint} (h : t.endpoint = some e) {handling : Handling}
    (hhandle : (t.application s).handle t.traceId ⟨t.request, p.session t, t.now⟩ e =
      Application.settle t.traceId ⟨t.request, p.session t, t.now⟩ handling) :
    p.outcome s t =
      (⟨(Handling.answer t.traceId (handling.runIn (t.around s) p.world).1).setHeader traceHeader
          t.traceId.render, .unchanged, p.cookies t.browser⟩,
        (handling.runIn (t.around s) p.world).2) := by
  rw [outcome_eq, handled_of_endpoint s p t h, hhandle, Application.settle_runIn_answer]
  exact congrArg (·, _) (Application.finish_ofCookie _ _ _)

/-- A member who asks for the list of projects has the platform asked for it, and is shown the page
that the platform answers with. -/
theorem outcome_of_asksList (h : p.Member s t user token) {cursor : Option String}
    (hasks : t.AsksList cursor) :
    (p.outcome s t).2 =
        { p.world with asked := .listProjects token Site.pageSize cursor :: p.world.asked } ∧
      (p.outcome s t).1.cookie = p.cookies t.browser ∧
      ∀ page, t.platform.answer (.listProjects token Site.pageSize cursor) = .ok page →
        (p.outcome s t).1.response.status = 200 ∧ (p.outcome s t).1.response.body =
          (Page.projects user page (Site.nextCursor page) none).render := by
  cases hasks with
  | home he =>
    rw [outcome_of_settle he rfl, Site.home_runIn h.signedIn h.kept]
    refine ⟨rfl, rfl, fun page hpage => ?_⟩
    rw [show (t.around s).platform = t.platform from rfl, hpage]
    exact Page.answer_respond _ _ _ _
  | list he htext =>
    have hrun : (Site.projectList ⟨t.request, p.session t, t.now⟩).runIn (t.around s) p.world = _ :=
      Site.projectList_runIn htext h.signedIn h.kept
    rw [outcome_of_settle he rfl, hrun]
    refine ⟨rfl, rfl, fun page hpage => ?_⟩
    rw [show (t.around s).platform = t.platform from rfl, hpage]
    exact Page.answer_respond _ _ _ _

/-- The one question of such a turn. -/
theorem questions_of_asksList (h : p.Member s t user token) {cursor : Option String}
    (hasks : t.AsksList cursor) :
    p.questions s t = [.listProjects token Site.pageSize cursor] := by
  have hhandled : (p.handled s t).2 = (p.outcome s t).2 := by rw [outcome_eq]
  refine p.questions_eq s t ?_
  rw [hhandled, (outcome_of_asksList h hasks).1, List.singleton_append]

/-- The browser of such a turn stays that of the same member. -/
theorem Member.next (h : p.Member s t user token) {cursor : Option String}
    (hasks : t.AsksList cursor) {again : Turn} (hbrowser : again.browser = t.browser)
    (houtages : again.outages = t.outages) : (p.next s t).Member s again user token := by
  obtain ⟨hworld, hcookie, -⟩ := outcome_of_asksList h hasks
  constructor
  · have hsame : (p.next s t).session again = p.session t := by
      simp only [session, Scene.next, hbrowser, if_true, hcookie]
    rw [hsame]
    exact h.signedIn
  · have hkept := h.kept
    rw [Site.keptToken_eq] at hkept ⊢
    rw [Scene.next, hworld, show (again.around s).outages = t.outages from houtages]
    exact hkept

/-- A member who asks for the page of a project is shown what the platform tells of it, if its
rulesets can be listed. -/
theorem outcome_of_project (h : p.Member s t user token) {id : String}
    (he : t.endpoint = some (.project id)) {project : Project}
    (hproject : t.platform.answer (.projectDetails token id) = .ok project)
    (hlist : Outage.meets? t.outages
      (.list .rulesets (some (Rulesets.ofProjectFilter id))) = none) :
    ∃ rulesets, (p.outcome s t).1.response.status = 200 ∧
      (p.outcome s t).1.response.body = (Page.projectDetail user project rulesets).render := by
  have hrun : (Site.projectDetail id ⟨t.request, p.session t, t.now⟩).runIn (t.around s) p.world =
      _ :=
    Site.projectDetail_runIn h.signedIn h.kept hproject hlist
  rw [outcome_of_settle he rfl, hrun]
  exact ⟨_, Page.answer_respond _ _ _ _⟩

/-- The form for a new ruleset carries the project that the query names. -/
theorem outcome_of_rulesetNew (huser : (p.session t).user? = some user)
    (he : t.endpoint = some .rulesetNew) {projectId : Option String}
    (hfield : t.field "project_id" = .ok projectId) :
    (p.outcome s t).1.response.status = 200 ∧
      (p.outcome s t).1.response.body = (Page.newRuleset user projectId).render := by
  have hrun : (Site.rulesetNew ⟨t.request, p.session t, t.now⟩).runIn (t.around s) p.world =
      (.ok (Page.newRuleset user projectId).respond, p.world) := by
    have hpure := Site.field_of_ok (v := ⟨t.request, p.session t, t.now⟩) hfield
    rw [Site.rulesetNew, hpure, pure_bind, Site.forUser_of_some huser]
    rfl
  rw [outcome_of_settle he rfl, hrun]
  exact Page.answer_respond _ _ _ _

variable (s p t) in
/-- A turn in which a member asks for the list of projects and the platform answers with a page. -/
structure ShowsList (user : User) (token : BearerToken) (page : ProjectPage) : Prop where
  member : p.Member s t user token
  asked : ∃ cursor, t.AsksList cursor ∧
    t.platform.answer (.listProjects token Site.pageSize cursor) = .ok page

variable (s p t) in
/-- A turn in which a member asks for the page of a project, the platform tells of a project, and
the rulesets kept for it can be listed. -/
structure ShowsProject (user : User) (token : BearerToken) (project : Project) : Prop where
  member : p.Member s t user token
  asked : ∃ id, t.endpoint = some (.project id) ∧
    t.platform.answer (.projectDetails token id) = .ok project ∧
    Outage.meets? t.outages (.list .rulesets (some (Rulesets.ofProjectFilter id))) = none

end Scene

/-- A page of five projects with a cursor that is not empty. -/
structure ProjectPage.GoesOn (page : ProjectPage) (c : String) : Prop where
  full : page.items.length = 5
  cursor : page.cursor = some c
  nonempty : c ≠ ""

/-- The list has a cursor for the next page exactly if the page goes on. -/
theorem Site.nextCursor_eq_some_iff {page : ProjectPage} {c : String} :
    (nextCursor page).filter (· ≠ "") = some c ↔ page.GoesOn c := by
  rw [Option.filter_eq_some_iff, nextCursor, decide_eq_true_eq, pageSize]
  split
  · next hfull => exact ⟨fun h => ⟨hfull, h.1, h.2⟩, fun h => ⟨h.cursor, h.nonempty⟩⟩
  · next hother => exact ⟨fun h => absurd h.1 nofun, fun h => absurd h.full hother⟩

namespace Scene

variable {s : Setting} {p : Scene} {t : Turn} {user : User} {token : BearerToken}

/-- The links further along the list that a member is shown. -/
theorem ShowsList.nextLinks {page : ProjectPage} (h : p.ShowsList s t user token page) :
    (p.outcome s t).1.response.status = 200 ∧
      Page.nextLinks (p.outcome s t).1.response.body =
        (((Site.nextCursor page).filter (· ≠ "")).map Page.cursorAddress).toList := by
  obtain ⟨cursor, hasks, hpage⟩ := h.asked
  obtain ⟨hstatus, hbody⟩ := (outcome_of_asksList h.member hasks).2.2 page hpage
  rw [hbody, Page.nextLinks_projects]
  exact ⟨hstatus, rfl⟩

/-- Who follows the link has the platform asked with the cursor of the page. -/
theorem questions_of_follows {cursor : String} (hcursor : cursor ≠ "")
    (hfollows : t.Follows (Page.cursorAddress cursor)) (h : p.Member s t user token) :
    p.questions s t = [.listProjects token 5 (some cursor)] :=
  questions_of_asksList h (hfollows.asksList hcursor)

end Scene

/-- **Links carry their data.** A member who asks for the list of projects is shown the page that
the platform answers with. It has one link to a next page if the page has five projects and a cursor
that is not empty, and otherwise it has none. Whoever follows this link, be it the same browser at
once or any member at any time, has the platform asked with exactly this cursor. The page of a
project has a link that opens a form whose project is exactly the id of this project. -/
theorem links_carry_data (s : Setting) (p : Scene) (t : Turn) (user : User) (token : BearerToken) :
    (∀ page, p.ShowsList s t user token page →
      let shown := (p.outcome s t).1.response
      shown.status = 200 ∧
      ((∀ c, ¬ page.GoesOn c) → Page.nextLinks shown.body = []) ∧
      ∀ c, page.GoesOn c → ∃ link, Page.nextLinks shown.body = [link] ∧
        ∀ again : Turn, again.Follows link →
          (again.browser = t.browser → again.outages = t.outages →
            (p.next s t).questions s again = [.listProjects token 5 (some c)]) ∧
          ∀ (later : Scene) user' token', later.Member s again user' token' →
            later.questions s again = [.listProjects token' 5 (some c)]) ∧
    ∀ project, p.ShowsProject s t user token project →
      let shown := (p.outcome s t).1.response
      shown.status = 200 ∧ ∃ link, Page.newRulesetLink? shown.body = some link ∧
        ∀ (later : Scene) (again : Turn) user', again.Follows link →
          (later.session again).user? = some user' →
          let form := (later.outcome s again).1.response
          form.status = 200 ∧ Text.Html.fields form.body =
            [("name", ""), ("description", ""), ("projectId", project.id)] := by
  refine ⟨fun page hshown => ?list, fun project hshown => ?project⟩
  case list =>
    obtain ⟨hstatus, hlinks⟩ := hshown.nextLinks
    refine ⟨hstatus, fun hnone => ?_, fun c hgoes => ⟨Page.cursorAddress c, ?_,
      fun again hfollows => ⟨fun hbrowser houtages => ?_, fun later user' token' hmember => ?_⟩⟩⟩
    · have hcursor : (Site.nextCursor page).filter (· ≠ "") = none :=
        Option.eq_none_iff_forall_ne_some.mpr fun c hc =>
          hnone c (Site.nextCursor_eq_some_iff.mp hc)
      rw [hlinks, hcursor]
      rfl
    · rw [hlinks, Site.nextCursor_eq_some_iff.mpr hgoes]
      rfl
    · obtain ⟨cursor, hasks, -⟩ := hshown.asked
      exact Scene.questions_of_follows hgoes.nonempty hfollows
        (hshown.member.next hasks hbrowser houtages)
    · exact Scene.questions_of_follows hgoes.nonempty hfollows hmember
  case project =>
    obtain ⟨id, hendpoint, hproject, hlist⟩ := hshown.asked
    obtain ⟨rulesets, hstatus, hbody⟩ :=
      Scene.outcome_of_project hshown.member hendpoint hproject hlist
    refine ⟨hstatus, Page.newRulesetAddress project.id, ?_,
      fun later again user' hfollows huser => ?_⟩
    · rw [hbody, Page.newRulesetLink?_projectDetail]
    · obtain ⟨hnew, hfield⟩ := hfollows.rulesetNew
      obtain ⟨hopened, hform⟩ := Scene.outcome_of_rulesetNew huser hnew hfield
      exact ⟨hopened, by rw [hform, Page.fields_newRuleset]; rfl⟩

/-- A cursor of signs that mean something in addresses comes back in the question for the next
page, and a project id of such signs comes back in the form for a new ruleset. -/
theorem hostile_cursor_carried :
    let ada : User := ⟨⟨"u-1", by decide⟩, "Ada", "ada@example.com", none⟩
    let past : List Sent := [⟨.plain 0 ada "/auth/callback?access_code=a",
      some (Standing.mk none (some ⟨"c"⟩)).entries⟩]
    let cookie := (Standing.mk (some (.of ada)) none).entries
    let p : Scene := { (Ledger.after .plain past).scene with cookies := fun _ => some cookie }
    let cursor := "a+b&c=%20 #\"<é\" /?"
    let pump : Project := ⟨"p&q=%20 #\"<é\" +", "Pump", none, ⟨0, none, []⟩⟩
    let page : ProjectPage := ⟨9, some cursor, List.replicate 5 pump⟩
    let platform : Platform := ⟨fun
      | .listProjects _ _ _ => .ok page
      | .projectDetails _ _ => .ok pump
      | call => (Platform.ofUser ada).answer call, fun _ challenge => challenge.text⟩
    let t : Turn := { Turn.plain 0 ada "/projects" with platform := platform }
    let visit : Turn := { Turn.plain 0 ada "/projects/pump" with platform := platform }
    (∃ link, Page.nextLinks (p.outcome .plain t).1.response.body = [link] ∧
      (p.next .plain t).questions .plain { t with request := ⟨"GET", link, [], []⟩ } =
        [.listProjects ⟨"a"⟩ 5 (some cursor)]) ∧
    ∃ link, Page.newRulesetLink? (p.outcome .plain visit).1.response.body = some link ∧
      let again : Turn := { visit with request := ⟨"GET", link, [], []⟩ }
      Text.Html.fields (p.outcome .plain again).1.response.body =
        [("name", ""), ("description", ""), ("projectId", pump.id)] := by
  intro ada past cookie p cursor pump page platform t visit
  have huser : Session.user? (.ofCookie (some cookie)) = some ada := by decide
  have hmember : p.Member .plain t ada ⟨"a"⟩ := ⟨huser, by decide +kernel⟩
  have htext : t.field "cursor" = .ok none := by decide +kernel
  have hlist : t.AsksList none := .list (by decide +kernel) htext
  have hvisit : visit.endpoint = some (.project "pump") := by decide +kernel
  obtain ⟨hpages, -⟩ := links_carry_data .plain p t ada ⟨"a"⟩
  obtain ⟨-, -, hgoes⟩ := hpages page ⟨hmember, none, hlist, rfl⟩
  obtain ⟨next, hnext, hfollow⟩ := hgoes cursor ⟨rfl, rfl, by decide⟩
  obtain ⟨-, hprojects⟩ := links_carry_data .plain p visit ada ⟨"a"⟩
  obtain ⟨-, new, hnew, hform⟩ :=
    hprojects pump ⟨⟨huser, hmember.kept⟩, "pump", hvisit, rfl, rfl⟩
  exact ⟨⟨next, hnext, (hfollow _ ⟨rfl, rfl⟩).1 rfl rfl⟩,
    new, hnew, (hform p _ ada ⟨rfl, rfl⟩ huser).2⟩

end Rulebook
