import Rulebook.Proofs.Login.Completion
import Rulebook.Proofs.Program.Kept
import Rulebook.Site.Application

/-!
# What the endpoints ask

The endpoints fall into three groups. The two steps of a login ask what a login asks. The start page
and the pages of projects ask the platform about projects, always with the token that is kept for
the user of the session (`Site.Serves`). All other endpoints ask the store about rulesets and rules
and nothing else. Outside a login no session is changed but by logging out.
-/

namespace Rulebook

/-- A question about rulesets or rules. -/
def Call.Kept (q : Call) : Prop :=
  ∃ c, c ≠ .userTokens ∧ q.About c

/-- A look at rulesets or rules. -/
def Call.KeptView (q : Call) : Prop :=
  q.Kept ∧ q.Looks

/-- A question to the platform about projects, asked with a token. -/
def PlatformCall.Browses (token : BearerToken) : PlatformCall → Prop
  | .listProjects t _ _ | .searchProjects t _ _ _ | .projectDetails t _ => t = token
  | _ => False

namespace Call

/-- A question that a page asks on behalf of a user whose token is kept. -/
def Member (token : BearerToken) (q : Call) : Prop :=
  q.Kept ∨ ∃ call, q = .platform call ∧ call.Browses token

/-- A question that leaves the kept tokens alone and belongs to no login. -/
def Harmless (q : Call) : Prop :=
  q.written? ≠ some .userTokens ∧ q ≠ .freshChallenge ∧
    ∀ call, q = .platform call → ∃ token, call.Browses token

variable {q : Call}

theorem Kept.of_rulesets (h : q.About .rulesets) : q.Kept :=
  ⟨_, by simp, h⟩

theorem Kept.of_rules {rulesetId : String} (h : q.About (.rules rulesetId)) : q.Kept :=
  ⟨_, by simp, h⟩

theorem Kept.harmless (h : q.Kept) : q.Harmless := by
  obtain ⟨c, hc, habout⟩ := h
  refine ⟨habout.written_ne hc, ?_, ?_⟩
  · rintro rfl
    exact habout
  · rintro call rfl
    exact habout.elim

theorem Looks.harmless (h : q.Looks) : q.Harmless := by
  cases q with
  | platform call => exact h.elim
  | freshChallenge => exact h.elim
  | store call =>
    refine ⟨?_, by simp, fun call hcall => by simp at hcall⟩
    cases call <;> first | exact h.elim | simp [written?]

theorem Member.harmless {token : BearerToken} (h : q.Member token) : q.Harmless := by
  rcases h with h | ⟨call, rfl, h⟩
  · exact h.harmless
  · refine ⟨by simp [written?], by simp, ?_⟩
    rintro _ ⟨rfl⟩
    exact ⟨token, h⟩

end Call

namespace Attempt

variable {ε α : Type} {p : Attempt ε α} {P : Call → Prop}

theorem Only.orRefuse (h : p.Only P) (refusal : Refusal) : (p.orRefuse refusal).Only P :=
  h.orFail _

/-- What is asked about rulesets, told as a refusal where it fails. -/
theorem Only.rulesets (h : p.Only (Call.About .rulesets)) (refusal : Refusal) :
    (p.orRefuse refusal).Only Call.Kept :=
  (h.mono fun _ => Call.Kept.of_rulesets).orRefuse refusal

/-- What is asked about the rules of a ruleset, told as a refusal where it fails. -/
theorem Only.rules {rulesetId : String} (h : p.Only (Call.About (.rules rulesetId)))
    (refusal : Refusal) : (p.orRefuse refusal).Only Call.Kept :=
  (h.mono fun _ => Call.Kept.of_rules).orRefuse refusal

/-- A look at rulesets or rules, told as a refusal where it fails. -/
theorem Only.view {c : Collection} (h : p.Only (Call.Views c)) (hc : c ≠ .userTokens)
    (refusal : Refusal) : (p.orRefuse refusal).Only Call.KeptView :=
  (h.mono fun _ hq => ⟨⟨c, hc, hq.1⟩, hq.2⟩).orRefuse refusal

end Attempt

namespace Visit

variable (v : Visit) {P : Call → Prop}

theorem only_field (name : String) : (v.field name).Only P := by
  unfold field
  split
  · exact Attempt.only_pure _
  · exact Attempt.only_throw _

theorem only_forUser {page : User → Handling} (h : ∀ user, (page user).Only P) :
    (v.forUser page).Only P := by
  unfold forUser
  split
  · exact Attempt.only_pure _
  · exact h _

theorem only_forScript {answer : Handling} (h : answer.Only P) : (v.forScript answer).Only P := by
  unfold forScript
  split
  · exact Attempt.only_throw _
  · exact h

end Visit

namespace Site

open Attempt (Only only_pure only_throw)

variable (v : Visit) (id rulesetId ruleId : String)

/-! ## Endpoints that work on rulesets and rules -/

theorem only_withRuleset {act : RulesetDraft → Handling} (h : ∀ draft, (act draft).Only Call.Kept) :
    (withRuleset v act).Only Call.Kept := by
  unfold withRuleset
  split
  · exact h _
  · exact only_throw _

theorem only_withRule {act : RuleDraft → Handling} (h : ∀ draft, (act draft).Only Call.Kept) :
    (withRule v act).Only Call.Kept := by
  unfold withRule
  split
  · exact h _
  · exact only_throw _

theorem views_rulesetList : (rulesetList v).Only Call.KeptView :=
  v.only_forUser fun _ => (Rulesets.views_list.view nofun _).bind fun _ => only_pure _

theorem views_rulesetNew : (rulesetNew v).Only Call.KeptView :=
  Only.bind (v.only_field _) fun _ => v.only_forUser fun _ => only_pure _

theorem views_rulesetEdit : (rulesetEdit id v).Only Call.KeptView :=
  v.only_forUser fun _ => ((Rulesets.views_get id).view nofun _).bind fun _ =>
    ((Rules.views_list id).view nofun _).bind fun _ => only_pure _

theorem only_rulesetCreate : (rulesetCreate v).Only Call.Kept :=
  v.only_forUser fun _ => only_withRuleset v fun draft =>
    ((Rulesets.only_create v.now draft).rulesets _).bind fun _ => only_pure _

theorem only_rulesetUpdate : (rulesetUpdate id v).Only Call.Kept :=
  v.only_forUser fun _ => only_withRuleset v fun draft =>
    ((Rulesets.only_update v.now id draft).rulesets _).bind fun _ => only_pure _

theorem only_rulesetDelete : (rulesetDelete id v).Only Call.Kept :=
  v.only_forScript (((Rulesets.only_delete id).rulesets _).bind fun _ => only_pure _)

theorem views_export : (Site.export id v).Only Call.KeptView := by
  refine ((Rulesets.views_findByHash id).view nofun _).bind fun found => ?_
  cases found with
  | none => exact only_throw _
  | some ruleset =>
    refine ((Rules.views_list ruleset.id).view nofun _).bind fun rules => ?_
    cases Export.tsv rules.items with
    | ok text => exact only_pure _
    | error e => exact only_throw _

theorem views_ruleNew : (ruleNew rulesetId v).Only Call.KeptView :=
  v.only_forUser fun _ => only_pure _

theorem views_ruleEdit : (ruleEdit rulesetId ruleId v).Only Call.KeptView :=
  v.only_forUser fun _ => ((Rules.views_get rulesetId ruleId).view nofun _).bind fun _ =>
    only_pure _

theorem only_ruleCreate : (ruleCreate rulesetId v).Only Call.Kept :=
  v.only_forUser fun _ => only_withRule v fun draft =>
    ((Rules.only_create v.now rulesetId draft).rules _).bind fun _ => only_pure _

theorem only_ruleUpdate : (ruleUpdate rulesetId ruleId v).Only Call.Kept :=
  v.only_forUser fun _ => only_withRule v fun draft =>
    ((Rules.only_update v.now rulesetId ruleId draft).rules _).bind fun _ => only_pure _

theorem only_ruleDelete : (ruleDelete rulesetId ruleId v).Only Call.Kept :=
  v.only_forScript (((Rules.only_delete rulesetId ruleId).rules _).bind fun _ => only_pure _)

theorem only_ruleReorder : (ruleReorder rulesetId ruleId v).Only Call.Kept := by
  refine Only.bind (v.only_field _) fun text => v.only_forScript ?_
  split
  · exact only_throw _
  · exact ((Rules.only_reorder v.now rulesetId ruleId _).rules _).bind fun _ => only_pure _

/-! ## Pages of projects -/

/-- The token kept for a user, if a record of it can be read. -/
def keptToken (around : Surroundings) (w : World) (userId : UserId) : Option BearerToken :=
  ((Login.tokenFor userId).runIn around w).1.toOption.join

/-- What the platform is asked by a page for the user of a session: nothing, unless a token is kept
for the user, and then only with this token. -/
def Serves (around : Surroundings) (w : World) (session : Session) (call : PlatformCall) : Prop :=
  ∃ user token, session.user? = some user ∧ keptToken around w user.id = some token ∧
    call.Browses token

variable {v} {around : Surroundings} {w : World}

theorem only_storedToken {ε : Type} (user : User) :
    (storedToken user : Attempt ε (Option BearerToken)).Only Call.Looks := by
  have htoken : (Login.tokenFor user.id).Only Call.Looks :=
    (Login.only_storedToken user.id).bind fun _ => only_pure _
  refine htoken.outcome.bind fun answer => ?_
  cases answer <;> exact only_pure _

theorem storedToken_runIn {ε : Type} (user : User) :
    (storedToken user : Attempt ε (Option BearerToken)).runIn around w =
      (.ok (keptToken around w user.id), w) := by
  have hworld : ((Login.tokenFor user.id).runIn around w).2 = w := by
    rw [Login.tokenFor, bind_pure_comp, Attempt.runIn_map]
    exact Login.storedToken_runIn_world around w user.id
  rw [storedToken, Attempt.runIn_bind, Attempt.runIn_outcome, hworld]
  unfold keptToken
  cases ((Login.tokenFor user.id).runIn around w).1 <;> rfl

/-- A page that asks nothing harmful, and the platform only with the token kept for the user of its
session. -/
structure Browsing (v : Visit) (p : Handling) : Prop where
  harmless : p.Only Call.Harmless
  serves : ∀ around w, p.run.Logs around w (Serves around w v.session)

theorem Browsing.of_kept {p : Handling} (h : p.Only Call.Kept) : Browsing v p where
  harmless := h.mono fun _ => Call.Kept.harmless
  serves _ _ := (Program.logs_of_only h).mono fun _ ⟨_, _, habout⟩ => habout.elim

theorem Browsing.of_view {p : Handling} (h : p.Only Call.KeptView) : Browsing v p :=
  .of_kept (h.mono fun _ => And.left)

theorem Browsing.field {name : String} {page : Option String → Handling}
    (h : ∀ value, Browsing v (page value)) : Browsing v (v.field name >>= page) := by
  unfold Visit.field
  split
  · exact h _
  · exact .of_kept (only_throw _)

/-- What follows the look-up of a user's token may use the token. -/
theorem Browsing.token {user : User} (huser : v.session.user? = some user) {without : Handling}
    {page : BearerToken → Handling} (hwithout : without.Only Call.Kept)
    (hpage : ∀ token, (page token).Only (Call.Member token)) :
    Browsing v (do
      match ← storedToken user with
      | none => without
      | some token => page token) where
  harmless := by
    refine ((only_storedToken user).mono fun _ => Call.Looks.harmless).bind fun found => ?_
    cases found with
    | none => exact hwithout.mono fun _ => Call.Kept.harmless
    | some token => exact (hpage token).mono fun _ => Call.Member.harmless
  serves around w := by
    refine Attempt.logs_bind ?_ fun found hfound => ?_
    · exact ⟨[], by rw [← Attempt.runIn, storedToken_runIn]; rfl, by simp⟩
    · rw [storedToken_runIn] at hfound ⊢
      cases hfound
      cases hkept : keptToken around w user.id with
      | none => exact (Browsing.of_kept hwithout).serves around w
      | some token =>
        refine (Program.logs_of_only (hpage token)).mono fun call hcall => ?_
        rcases hcall with ⟨_, _, habout⟩ | ⟨_, ⟨rfl⟩, hbrowses⟩
        · exact habout.elim
        · exact ⟨user, token, huser, hkept, hbrowses⟩

theorem Browsing.forMember {page : User → BearerToken → Handling}
    (h : ∀ user token, (page user token).Only (Call.Member token)) :
    Browsing v (forMember v page) := by
  unfold Site.forMember Visit.forUser
  split
  · exact .of_kept (only_pure _)
  · next user huser => exact .token huser (only_pure _) (h user)

/-- A question about projects, told as a refusal where it fails. -/
theorem only_browses {ε α : Type} {token : BearerToken} {call : PlatformCall}
    {next : call.Answer → Except ε α} (h : call.Browses token) :
    (ExceptT.mk (.ask (.platform call) fun a => .done (next a)) : Attempt ε α).Only
      (Call.Member token) :=
  .ask (.inr ⟨call, rfl, h⟩) fun _ => .done _

theorem browsing_home : Browsing v (home v) := by
  unfold home
  split
  · exact .of_kept (only_pure _)
  · next user huser =>
    refine .token huser (only_pure _) fun token => ?_
    have hlist : (Attempt.listProjects token pageSize none).Only (Call.Member token) :=
      only_browses rfl
    refine hlist.outcome.bind fun answer => ?_
    cases answer <;> exact only_pure _

theorem browsing_projectList : Browsing v (projectList v) := by
  refine .field fun cursor => .forMember fun user token => ?_
  have hlist : (Attempt.listProjects token pageSize (cursor.filter (· ≠ ""))).Only
      (Call.Member token) := only_browses rfl
  exact (hlist.orRefuse _).bind fun _ => only_pure _

theorem browsing_projectSearch : Browsing v (projectSearch v) := by
  refine .field fun q => .forMember fun user token => ?_
  dsimp only
  split
  · exact only_pure _
  · have hsearch : (Attempt.searchProjects token (Text.trim (q.getD "")) searchLimit
        searchLimit).Only (Call.Member token) := only_browses rfl
    exact (hsearch.orRefuse _).bind fun _ => only_pure _

theorem browsing_projectDetail (projectId : String) : Browsing v (projectDetail projectId v) := by
  refine .forMember fun user token => ?_
  have hdetails : (Attempt.projectDetails token projectId).Only (Call.Member token) :=
    only_browses rfl
  refine (hdetails.orRefuse _).bind fun project => ?_
  have hrulesets := (Rulesets.views_listOfProject projectId).about.rulesets
    (.internal "Failed to fetch project rulesets")
  exact (hrulesets.mono fun _ => .inl).bind fun _ => only_pure _

end Site

end Rulebook
