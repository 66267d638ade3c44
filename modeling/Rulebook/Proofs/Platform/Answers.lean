import Mathlib.Tactic.MkIffOfInductiveProp
import Rulebook.Platform.Client
import Rulebook.Proofs.Json.Shape
import Rulebook.Proofs.Login.Verdict

/-!
# Whole answers or none

What a body has to be for a query to be answered, said of its tree alone: an object, or a list, with
wanted data that is not null and no errors (`Platform.Answered`), and in it the user, the project or
the projects in their shapes. A query that is answered with a status and a body comes to exactly
what such a body tells, if the status is 200; any other status is the failure it is, and any other
body a failure to decode (`queries_whole_or_nothing`). So nothing of an answer with errors is ever
used.
-/

namespace Rulebook

open Json (Raw ReadsAs readsAs_text readsAs_nat64)
open Json.Raw (Fields Text Count Present Maybe Items Required Defaulted)
open Json.Reading (seq_eq_ok_iff map_eq_ok_iff)
open Json.Record (required_eq_ok_iff orElse_eq_ok_iff nullable_eq_ok_some_iff)

/-! ## Projects -/

/-- What the fields of a version tell. -/
@[mk_iff]
structure ModelVersion.Told (field : String → Option Raw) (v : ModelVersion) : Prop where
  sourceApplication : Defaulted none (Maybe Text) (field "sourceApplication") v.sourceApplication

/-- A tree that is a version. -/
def ModelVersion.Shape : Raw → ModelVersion → Prop :=
  Fields ["sourceApplication"] Told

/-- A tree that is a record of versions. -/
def ModelVersion.ListShape : Raw → List ModelVersion → Prop :=
  Fields ["items"] fun field versions => Defaulted [] (Items Shape) (field "items") versions

/-- What the fields of a model tell. -/
@[mk_iff]
structure ProjectModel.Told (field : String → Option Raw) (m : ProjectModel) : Prop where
  id : Defaulted "" Text (field "id") m.id
  name : Defaulted "" Text (field "name") m.name
  description : Defaulted none (Maybe Text) (field "description") m.description
  previewUrl : Defaulted none (Maybe Text) (field "previewUrl") m.previewUrl
  versions : Defaulted [] ModelVersion.ListShape (field "versions") m.versions
  totalCount : Defaulted 0 Count (field "totalCount") m.totalCount
  cursor : Defaulted none (Maybe Text) (field "cursor") m.cursor

/-- A tree that is a model. -/
def ProjectModel.Shape : Raw → ProjectModel → Prop :=
  Fields ["id", "name", "description", "previewUrl", "versions", "totalCount", "cursor"] Told

/-- What the fields of a page of models tell. -/
@[mk_iff]
structure ModelPage.Told (field : String → Option Raw) (p : ModelPage) : Prop where
  totalCount : Defaulted 0 Count (field "totalCount") p.totalCount
  cursor : Defaulted none (Maybe Text) (field "cursor") p.cursor
  items : Defaulted [] (Items ProjectModel.Shape) (field "items") p.items

/-- A tree that is a page of models. -/
def ModelPage.Shape : Raw → ModelPage → Prop :=
  Fields ["totalCount", "cursor", "items"] Told

/-- What the fields of a project tell. -/
@[mk_iff]
structure Project.Told (field : String → Option Raw) (p : Project) : Prop where
  id : Defaulted "" Text (field "id") p.id
  name : Defaulted "" Text (field "name") p.name
  description : Defaulted none (Maybe Text) (field "description") p.description
  models : Defaulted ModelPage.empty ModelPage.Shape (field "models") p.models

/-- A tree that is a project. -/
def Project.Shape : Raw → Project → Prop :=
  Fields ["id", "name", "description", "models"] Told

/-- What the fields of a page of projects tell. -/
@[mk_iff]
structure ProjectPage.Told (field : String → Option Raw) (p : ProjectPage) : Prop where
  totalCount : Defaulted 0 Count (field "totalCount") p.totalCount
  cursor : Defaulted none (Maybe Text) (field "cursor") p.cursor
  items : Defaulted [] (Items Project.Shape) (field "items") p.items

/-- A tree that is a page of projects. -/
def ProjectPage.Shape : Raw → ProjectPage → Prop :=
  Fields ["totalCount", "cursor", "items"] Told

theorem ModelVersion.readsAs : ReadsAs read Shape := by
  refine ReadsAs.record fun r v => ?_
  cases v
  simp [told_iff, map_eq_ok_iff, orElse_eq_ok_iff readsAs_text.optional]

theorem ModelVersion.readsAs_list : ReadsAs readList ListShape :=
  ReadsAs.record fun _ _ => orElse_eq_ok_iff readsAs.list

theorem ProjectModel.readsAs : ReadsAs read Shape := by
  refine ReadsAs.record fun r m => ?_
  cases m
  simp [told_iff, seq_eq_ok_iff, map_eq_ok_iff, orElse_eq_ok_iff readsAs_text,
    orElse_eq_ok_iff readsAs_text.optional, orElse_eq_ok_iff readsAs_nat64,
    orElse_eq_ok_iff ModelVersion.readsAs_list, and_assoc]

theorem ModelPage.readsAs : ReadsAs read Shape := by
  refine ReadsAs.record fun r p => ?_
  cases p
  simp [told_iff, seq_eq_ok_iff, map_eq_ok_iff, orElse_eq_ok_iff readsAs_text.optional,
    orElse_eq_ok_iff readsAs_nat64, orElse_eq_ok_iff ProjectModel.readsAs.list]

theorem Project.readsAs : ReadsAs read Shape := by
  refine ReadsAs.record fun r p => ?_
  cases p
  simp [told_iff, seq_eq_ok_iff, map_eq_ok_iff, orElse_eq_ok_iff readsAs_text,
    orElse_eq_ok_iff readsAs_text.optional, orElse_eq_ok_iff ModelPage.readsAs, and_assoc]

theorem ProjectPage.readsAs : ReadsAs read Shape := by
  refine ReadsAs.record fun r p => ?_
  cases p
  simp [told_iff, seq_eq_ok_iff, map_eq_ok_iff, orElse_eq_ok_iff readsAs_text.optional,
    orElse_eq_ok_iff readsAs_nat64, orElse_eq_ok_iff Project.readsAs.list]

namespace Platform

/-! ## Users -/

/-- What the fields of a profile tell of a user: a name or an address that is null or missing is
empty, and an avatar that is blank is none. -/
structure UserTold (field : String → Option Raw) (user : User) : Prop where
  id : Required Text (field "id") user.id.text
  name : ∃ name, Defaulted none (Maybe Text) (field "name") name ∧ user.name = name.getD ""
  email : ∃ email, Defaulted none (Maybe Text) (field "email") email ∧ user.email = email.getD ""
  avatar : ∃ avatar, Defaulted none (Maybe Text) (field "avatar") avatar ∧
    user.avatar = avatar.filter fun s => !Text.saysNothing s

/-- A tree that is the profile of a user. -/
def UserShape : Raw → User → Prop :=
  Fields ["id", "name", "email", "avatar"] UserTold

/-- What the fields of a profile tell. -/
@[mk_iff]
structure Profile.Told (field : String → Option Raw) (p : Profile) : Prop where
  id : Required Text (field "id") p.id
  name : Defaulted none (Maybe Text) (field "name") p.name
  email : Defaulted none (Maybe Text) (field "email") p.email
  avatar : Defaulted none (Maybe Text) (field "avatar") p.avatar

theorem Profile.readsAs : ReadsAs read (Fields ["id", "name", "email", "avatar"] Told) := by
  refine ReadsAs.record fun r p => ?_
  cases p
  simp [told_iff, seq_eq_ok_iff, map_eq_ok_iff, required_eq_ok_iff readsAs_text,
    orElse_eq_ok_iff readsAs_text.optional, and_assoc]

/-- A tree that is the profile of a user is a profile, and the user is the one of the profile. -/
theorem userShape_iff {tree : Raw} {user : User} :
    UserShape tree user ↔ ∃ p, Profile.read tree = .ok p ∧ p.user = .ok user := by
  simp only [Profile.readsAs tree, Profile.user_eq_ok_iff]
  constructor
  · rintro ⟨field, hlays, hid, ⟨name, hname, hname'⟩, ⟨email, hemail, hemail'⟩, avatar, havatar,
      havatar'⟩
    refine ⟨⟨user.id.text, name, email, avatar⟩, ⟨field, hlays, hid, hname, hemail, havatar⟩,
      user.id.valid, ?_⟩
    cases user
    simp_all [User.withAvatar]
  · rintro ⟨p, ⟨field, hlays, hid, hname, hemail, havatar⟩, hvalid, rfl⟩
    exact ⟨field, hlays, hid, ⟨p.name, hname, rfl⟩, ⟨p.email, hemail, rfl⟩, p.avatar, havatar, rfl⟩

/-! ## Answers -/

variable {α β : Type}

/-- A body answers a query: it is JSON with wanted data that is not null, and without errors. -/
def Answered (told : Raw → α → Prop) (body : List UInt8) (x : α) : Prop :=
  ∃ tree field, treeOf? body = some tree ∧ tree.Lays ["data", "errors"] field ∧
    (field "errors" = none ∨ field "errors" = some (.array [])) ∧
      Required (Present told) (field "data") x

/-- A tree with a single member that is not null. -/
def Member (name : String) (told : Raw → α → Prop) : Raw → α → Prop :=
  Fields [name] fun field x => Required (Present told) (field name) x

/-- A tree with projects, of whatever shape. -/
def Projects (told : Raw → α → Prop) : Raw → α → Prop :=
  Fields ["projects"] fun field x => Required told (field "projects") x

/-- A tree that is a record of projects. -/
def ItemsShape : Raw → List Project → Prop :=
  Fields ["items"] fun field projects => Defaulted [] (Items Project.Shape) (field "items") projects

theorem ofBody_eq_ok_iff {read : Raw → Json.Decode α} {told : Raw → α → Prop}
    (h : ReadsAs read told) {body : List UInt8} {x : α} :
    Envelope.ofBody read body = .ok x ↔ Answered told body x := by
  have herrors : ∀ field : Option Raw,
      Defaulted [] (Items fun tree e => Envelope.readError tree = .ok e) field [] ↔
        field = none ∨ field = some (.array []) := by
    rintro (_ | tree)
    · simp [Defaulted]
    · simp [Defaulted, Items]
  have hread : ∀ tree, Envelope.read read tree = .ok ⟨some x, []⟩ ↔ ∃ field,
      tree.Lays ["data", "errors"] field ∧
        (field "errors" = none ∨ field "errors" = some (.array [])) ∧
          Required (Present told) (field "data") x := by
    refine Json.Record.read_eq_ok_iff fun r => ?_
    rw [← herrors]
    simp [seq_eq_ok_iff, map_eq_ok_iff, nullable_eq_ok_some_iff h,
      orElse_eq_ok_iff (ReadsAs.self Envelope.readError).list, and_comm]
  simp only [Envelope.ofBody_eq_ok_iff, hread, Answered, exists_and_left]

theorem readMember_eq_ok_some_iff {read : Raw → Json.Decode α} {told : Raw → α → Prop}
    (h : ReadsAs read told) (name : String) (tree : Raw) (x : α) :
    readMember name read tree = .ok (some x) ↔ Member name told tree x :=
  Json.Record.read_eq_ok_iff (fun _ => nullable_eq_ok_some_iff h) tree

/-- The value of a member that must not be null, in a body. -/
theorem ofBody_present_iff {read : Raw → Json.Decode α} {told : Raw → α → Prop}
    (h : ReadsAs read told) (missing : String) {name : String} {body : List UInt8} {x : α} :
    (Envelope.ofBody (readMember name read) body >>= present missing) = .ok x ↔
      Answered (Member name told) body x := by
  have hsome : (Envelope.ofBody (readMember name read) body >>= present missing) = .ok x ↔
      Envelope.ofBody (readMember name read) body = .ok (some x) := by
    cases Envelope.ofBody (readMember name read) body with
    | error e => exact iff_of_false nofun nofun
    | ok o => cases o <;> simp [bind, Except.bind, present]
  rw [hsome, ofBody_eq_ok_iff (ReadsAs.self (readMember name read))]
  simp only [Answered, Required, Present, readMember_eq_ok_some_iff h]

theorem readsAs_projects {read : Raw → Json.Decode α} {told : Raw → α → Prop}
    (h : ReadsAs read told) : ReadsAs (readProjects read) (Projects told) :=
  ReadsAs.record fun _ _ => required_eq_ok_iff h

theorem readsAs_items : ReadsAs readItems ItemsShape :=
  ReadsAs.record fun _ _ => orElse_eq_ok_iff Project.readsAs.list

/-! ## The four queries -/

section Bodies

variable {body : List UInt8}

theorem pageOf_eq_ok_iff {page : ProjectPage} :
    pageOf body = .ok page ↔
      Answered (Member "activeUser" (Projects ProjectPage.Shape)) body page :=
  ofBody_present_iff (readsAs_projects ProjectPage.readsAs) _

theorem foundOf_eq_ok_iff {projects : List Project} :
    foundOf body = .ok projects ↔
      Answered (Member "activeUser" (Projects ItemsShape)) body projects :=
  ofBody_present_iff (readsAs_projects readsAs_items) _

theorem projectOf_eq_ok_iff {projectId : String} {project : Project} :
    projectOf projectId body = .ok project ↔
      Answered (Member "project" Project.Shape) body project :=
  ofBody_present_iff Project.readsAs _

theorem userOf_eq_ok_iff_answered {user : User} :
    userOf body = .ok user ↔ Answered (Member "activeUser" UserShape) body user := by
  have hprofile : userOf body = .ok user ↔ ∃ p : Profile,
      Answered (Member "activeUser" fun tree p => Profile.read tree = .ok p) body p ∧
        p.user = .ok user := by
    simp only [← ofBody_present_iff (ReadsAs.self Profile.read) "activeUser was null"]
    unfold userOf
    rw [← bind_assoc]
    cases Envelope.ofBody (readMember "activeUser" Profile.read) body >>=
        present "activeUser was null" with
    | error e => exact iff_of_false nofun nofun
    | ok p => simp [bind, Except.bind]
  simp only [hprofile, Answered, Member, Fields, Required, Present, userShape_iff]
  constructor
  · rintro ⟨p, ⟨tree, field, htree, hlays, herrors, data, hdata, hnull, inner, hinner, profile,
      hmember, hpresent, hread⟩, huser⟩
    exact ⟨tree, field, htree, hlays, herrors, data, hdata, hnull, inner, hinner, profile, hmember,
      hpresent, p, hread, huser⟩
  · rintro ⟨tree, field, htree, hlays, herrors, data, hdata, hnull, inner, hinner, profile,
      hmember, hpresent, p, hread, huser⟩
    exact ⟨p, ⟨tree, field, htree, hlays, herrors, data, hdata, hnull, inner, hinner, profile,
      hmember, hpresent, hread⟩, huser⟩

end Bodies

/-- A body with an error: an object that has a list of errors with an entry, or a list that has one
in the second place. -/
def Erring (body : List UInt8) : Prop :=
  ∃ tree e es, treeOf? body = some tree ∧
    ((∃ members, tree = .object members ∧ (some "errors", .array (e :: es)) ∈ members) ∨
      ∃ data rest, tree = .array (data :: .array (e :: es) :: rest))

/-- A body with an error answers nothing, whatever its data. -/
theorem Erring.not_answered {told : Raw → α → Prop} {body : List UInt8} (h : Erring body) (x : α) :
    ¬ Answered told body x := by
  obtain ⟨tree, e, es, htree, herring⟩ := h
  rintro ⟨tree', field, htree', hlays, herrors, -⟩
  cases htree.symm.trans htree'
  have hfield : field "errors" = some (.array (e :: es)) := by
    rcases herring with ⟨members, rfl, hmem⟩ | ⟨data, rest, rfl⟩
    · exact hlays.field_of_mem (by simp) hmem
    · rw [hlays.2 "errors"]
      rfl
  rcases herrors with hnone | hempty
  · exact absurd (hfield.symm.trans hnone) nofun
  · exact absurd (hfield.symm.trans hempty) (by simp)

/-- What comes of a query that is answered with a status and a body: all that the body tells, or the
failure that the status is, or a failure to decode. -/
structure WholeOrNothing {ε : Type} (refused : Nat → ε) (undecoded : String → ε)
    (told : Raw → α → Prop) (status : Nat) (body : List UInt8) (answer : Except ε α) : Prop where
  whole : ∀ x, answer = .ok x ↔ status = 200 ∧ Answered told body x
  erring : Erring body → ∀ x, answer ≠ .ok x
  refused : status ≠ 200 → answer = .error (refused status)
  undecoded : status = 200 → (∀ x, ¬ Answered told body x) →
    ∃ message, answer = .error (undecoded message)

theorem wholeOrNothing_result {ε : Type} {read : List UInt8 → Except String α}
    {told : Raw → α → Prop} {status : Nat} {body : List UInt8} (fail : Failing → ε)
    (h : ∀ x, read body = .ok x ↔ Answered told body x) :
    WholeOrNothing (fun code => fail (.status code)) (fun message => fail (.decode message)) told
      status body (((Delivery.answered status (.ok body)).result read).mapError fail) := by
  by_cases hstatus : status = 200
  · subst hstatus
    have hresult : ((Delivery.answered 200 (.ok body)).result read).mapError fail =
        (read body).mapError fun message => fail (.decode message) := by
      simp only [Delivery.result, ne_eq, not_true_eq_false, if_false]
      cases read body <;> rfl
    rw [hresult]
    have hok : ∀ x, (read body).mapError (fun message => fail (.decode message)) = .ok x ↔
        Answered told body x := fun x => by
      rw [← h x]
      cases read body <;> simp [Except.mapError]
    constructor
    case whole => simpa using hok
    case erring => exact fun herring x hx => herring.not_answered x ((hok x).mp hx)
    case refused => exact fun hne => absurd rfl hne
    case undecoded =>
      intro _ hnone
      cases hread : read body with
      | error message => exact ⟨message, rfl⟩
      | ok x => exact absurd ((h x).mp hread) (hnone x)
  · have hresult : ((Delivery.answered status (.ok body)).result read).mapError fail =
        .error (fail (.status status)) := by
      simp only [Delivery.result, ne_eq, hstatus, not_false_eq_true, if_true]
      rfl
    rw [hresult]
    constructor
    case whole => exact fun x => by simp [hstatus]
    case erring => exact fun _ x => by simp
    case refused => exact fun _ => rfl
    case undecoded => exact fun hok => absurd hok hstatus

/-- **No part of an answer is ever used.** Whatever status and body a query is answered with, it
comes to exactly what the body tells, if the status is 200 and the body answers the query without
errors, and otherwise to the failure that the status is or to a failure to decode. -/
theorem queries_whole_or_nothing (send : Request → Delivery) (status : Nat) (body : List UInt8) :
    (∀ token limit cursor,
      deliver send (.listProjects token limit cursor) = .answered status (.ok body) →
        WholeOrNothing CatalogueError.status .decode
          (Member "activeUser" (Projects ProjectPage.Shape)) status body
          (answerBy send (.listProjects token limit cursor))) ∧
    (∀ token query models versions,
      deliver send (.searchProjects token query models versions) = .answered status (.ok body) →
        WholeOrNothing CatalogueError.status .decode (Member "activeUser" (Projects ItemsShape))
          status body (answerBy send (.searchProjects token query models versions))) ∧
    (∀ token projectId,
      deliver send (.projectDetails token projectId) = .answered status (.ok body) →
        WholeOrNothing CatalogueError.status .decode (Member "project" Project.Shape) status body
          (answerBy send (.projectDetails token projectId))) ∧
    ∀ token, deliver send (.activeUser token) = .answered status (.ok body) →
      WholeOrNothing (fun code => .profileFetch (some code) (Failing.statusText code))
        IdentityError.profileDecode (Member "activeUser" UserShape) status body
        (answerBy send (.activeUser token)) := by
  refine ⟨fun token limit cursor h => ?_, fun token query models versions h => ?_,
    fun token projectId h => ?_, fun token h => ?_⟩
  · rw [answerBy, h]
    exact wholeOrNothing_result Failing.catalogue fun _ => pageOf_eq_ok_iff
  · rw [answerBy, h]
    exact wholeOrNothing_result Failing.catalogue fun _ => foundOf_eq_ok_iff
  · rw [answerBy, h]
    exact wholeOrNothing_result Failing.catalogue fun _ => projectOf_eq_ok_iff
  · rw [answerBy, h]
    exact wholeOrNothing_result Failing.profile fun _ => userOf_eq_ok_iff_answered

/-- A page with one project, of which it tells the id alone, is taken as it stands. The same page is
refused if there is an error beside it, and under another status. A byte that is no UTF-8 is passed
over in a member nobody asks for, and is a failure in the id. -/
theorem page_with_error_refused :
    let answered (status : Nat) (body : List UInt8) : Except CatalogueError ProjectPage :=
      answerBy (fun _ => .answered status (.ok body)) (.listProjects ⟨"a"⟩ 5 none)
    let utf8 := Text.Utf8.encode
    let before := "\"data\":\x7b\"activeUser\":\x7b\"projects\":\x7b\"items\":[\x7b\"id\":\"p"
    let after := "\"\x7d]\x7d\x7d\x7d"
    let whole := utf8 ("\x7b" ++ before ++ after ++ "\x7d")
    let erring := utf8 ("\x7b" ++ before ++ after ++ ",\"errors\":[\x7b\"message\":\"no\"\x7d]\x7d")
    let aside := utf8 "\x7b\"note\":\"" ++ 0xE9 :: utf8 ("\"," ++ before ++ after ++ "\x7d")
    let inId := utf8 ("\x7b" ++ before) ++ 0xE9 :: utf8 (after ++ "\x7d")
    let page : ProjectPage := ⟨0, none, [⟨"p", "", none, .empty⟩]⟩
    answered 200 whole = .ok page ∧ (∃ message, answered 200 erring = .error (.decode message)) ∧
      answered 503 whole = .error (.status 503) ∧ answered 200 aside = .ok page ∧
        ∃ message, answered 200 inId = .error (.decode message) := by
  intro answered utf8 before after whole erring aside inId page
  have hquery (status : Nat) (body : List UInt8) :=
    (queries_whole_or_nothing (fun _ => .answered status (.ok body)) status body).1 ⟨"a"⟩ 5 none rfl
  have hwhole : pageOf whole = .ok page := by decide +kernel
  have herring : pageOf erring = .error "graphql errors: no" := by decide +kernel
  have haside : pageOf aside = .ok page := by decide +kernel
  have hinId : pageOf inId = .error "invalid GraphQL JSON payload" := by decide +kernel
  refine ⟨((hquery 200 whole).whole _).mpr ⟨rfl, pageOf_eq_ok_iff.mp hwhole⟩,
    (hquery 200 erring).undecoded rfl fun page hpage => ?_,
    (hquery 503 whole).refused (by decide),
    ((hquery 200 aside).whole _).mpr ⟨rfl, pageOf_eq_ok_iff.mp haside⟩,
    (hquery 200 inId).undecoded rfl fun page hpage => ?_⟩
  · cases herring.symm.trans (pageOf_eq_ok_iff.mpr hpage)
  · cases hinId.symm.trans (pageOf_eq_ok_iff.mpr hpage)

end Platform

end Rulebook
