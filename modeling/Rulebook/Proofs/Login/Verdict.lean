import Rulebook.Platform.Client
import Rulebook.Site.Entrance

/-!
# What comes of the two requests of a login

`Login.verdict` says from the two deliveries alone whether a login is granted, and otherwise which
stage failed first and with which status that is told. A login is granted just when both statuses
are 200 and both bodies say what is wanted (`Login.verdict_eq_ok_iff`), and the answers that the
platform makes of the deliveries are refused as the verdict says.
-/

namespace Rulebook

namespace Platform

/-! ## Bodies -/

/-- The data of a body is that of an answer without errors. -/
theorem Envelope.ofBody_eq_ok_iff {α : Type} {readData : Json.Raw → Json.Decode α}
    {body : List UInt8} {x : α} :
    ofBody readData body = .ok x ↔
      ∃ tree, treeOf? body = some tree ∧ Envelope.read readData tree = .ok ⟨some x, []⟩ := by
  have hpayload : ∀ e : Envelope α, e.payload = .ok x ↔ e = ⟨some x, []⟩ := by
    rintro ⟨_ | y, _ | ⟨m, ms⟩⟩ <;> simp [payload]
  unfold ofBody
  cases treeOf? body with
  | none => simp
  | some tree => cases hread : Envelope.read readData tree <;> simp [hread, hpayload]

/-- The user of a profile has its id, which has to be one. -/
theorem Profile.user_eq_ok_iff {p : Profile} {user : User} :
    p.user = .ok user ↔ ∃ h : UserId.Valid p.id,
      user = (User.mk ⟨p.id, h⟩ (p.name.getD "") (p.email.getD "") none).withAvatar p.avatar := by
  unfold Profile.user
  by_cases h : UserId.Valid p.id
  · simp [UserId.of, h, eq_comm]
  · obtain ⟨fault, hfault⟩ : ∃ fault, UserId.of p.id = .error fault := by
      rw [UserId.of, dif_neg h]
      split <;> exact ⟨_, rfl⟩
    simp [hfault, h]

/-- Whether a body tells a user: it is an answer without errors, with a profile whose id is a user
id. -/
def Tells (body : List UInt8) (user : User) : Prop :=
  ∃ tree profile, treeOf? body = some tree ∧
    Envelope.read (readMember "activeUser" Profile.read) tree = .ok ⟨some (some profile), []⟩ ∧
    ∃ h : UserId.Valid profile.id,
      user = (User.mk ⟨profile.id, h⟩ (profile.name.getD "") (profile.email.getD "")
        none).withAvatar profile.avatar

/-- The user of a body is the one it tells. -/
theorem userOf_eq_ok_iff {body : List UInt8} {user : User} :
    userOf body = .ok user ↔ Tells body user := by
  have hbind : userOf body = .ok user ↔ ∃ profile : Profile,
      Envelope.ofBody (readMember "activeUser" Profile.read) body = .ok (some profile) ∧
        profile.user = .ok user := by
    unfold userOf
    cases Envelope.ofBody (readMember "activeUser" Profile.read) body with
    | error e => simp [bind, Except.bind]
    | ok profile => cases profile <;> simp [bind, Except.bind, present]
  simp only [hbind, Envelope.ofBody_eq_ok_iff, Profile.user_eq_ok_iff, Tells]
  constructor
  · rintro ⟨profile, ⟨tree, htree, hread⟩, huser⟩
    exact ⟨tree, profile, htree, hread, huser⟩
  · rintro ⟨tree, profile, htree, hread, huser⟩
    exact ⟨profile, ⟨tree, htree, hread⟩, huser⟩

/-! ## One stage -/

/-- What a delivery brings at a stage of a login, or what a failure is told as: a status and one of
two messages. The status is that of the delivery where that tells of an error. -/
def Delivery.stage {α : Type} (read : List UInt8 → Except String α) (lost unread : String) :
    Delivery → Except (Nat × String) α
  | .answered 200 (.ok body) => (read body).mapError fun _ => (500, unread)
  | .answered status _ => .error (if 400 ≤ status ∧ status ≤ 599 then status else 500, lost)
  | .lost _ => .error (500, lost)

/-- What a failure is told as at a stage of a login. -/
def Failing.told (lost unread : String) : Failing → Nat × String
  | .transport _ => (500, lost)
  | .status code => (PageFailure.statusOf (some code), lost)
  | .decode _ => (500, unread)

/-- A failure is told with the status of an error. -/
theorem Failing.status_told (lost unread : String) (f : Failing) :
    400 ≤ (f.told lost unread).1 ∧ (f.told lost unread).1 ≤ 599 := by
  cases f with
  | status code =>
    simp only [told, PageFailure.statusOf]
    split
    · assumption
    · decide
  | transport | decode => exact ⟨by simp [told], by simp [told]⟩

section Stage

variable {α : Type} (read : List UInt8 → Except String α) (lost unread : String) (d : Delivery)

/-- A stage fails as the result of its delivery does. -/
theorem Delivery.stage_eq :
    d.stage read lost unread = (d.result read).mapError (Failing.told lost unread) := by
  rcases d with fault | ⟨status, body⟩
  · rfl
  by_cases hok : status = 200
  · subst hok
    rcases body with fault | bytes
    · rfl
    · simp only [stage, result]
      cases read bytes <;> rfl
  · have hresult : (answered status body).result read = .error (.status status) := by
      simp [result, hok]
    rw [hresult]
    unfold stage
    split
    · next heq => simp_all
    · next heq => cases heq; rfl
    · next heq => cases heq

/-- A stage is passed with status 200 and a body that can be read. -/
theorem Delivery.stage_eq_ok_iff {x : α} :
    d.stage read lost unread = .ok x ↔
      ∃ body, d = .answered 200 (.ok body) ∧ read body = .ok x := by
  constructor
  · intro h
    unfold stage at h
    split at h
    · next body =>
      cases hread : read body with
      | error e => rw [hread] at h; cases h
      | ok y => rw [hread] at h; cases h; exact ⟨body, rfl, hread⟩
    · cases h
    · cases h
  · rintro ⟨body, rfl, hread⟩
    simp only [stage, hread]
    rfl

end Stage

end Platform

/-! ## Both stages -/

namespace Login

open Platform

/-- The user a login is granted to, or what the first stage that fails is told as. -/
def verdict (token : Delivery) (profile : BearerToken → Delivery) : Except (Nat × String) User := do
  let grant ← token.stage grantOf "Failed to exchange token" "Failed to decode token response"
  (profile grant.token).stage userOf "Failed to get user profile"
    "Failed to decode profile response"

/-- Whether a login is granted to a user: both statuses are 200, the first body is a grant, and the
second one tells the user. -/
def Granted (token : Delivery) (profile : BearerToken → Delivery) (user : User) : Prop :=
  ∃ tokenBody grant profileBody, token = .answered 200 (.ok tokenBody) ∧
    grantOf tokenBody = .ok grant ∧ profile grant.token = .answered 200 (.ok profileBody) ∧
    Tells profileBody user

section Verdict

variable {token : Delivery} {profile : BearerToken → Delivery}

theorem verdict_eq_ok_iff {user : User} :
    verdict token profile = .ok user ↔ Granted token profile user := by
  have hbind : verdict token profile = .ok user ↔ ∃ grant,
      token.stage grantOf "Failed to exchange token" "Failed to decode token response" =
          .ok grant ∧
        (profile grant.token).stage userOf "Failed to get user profile"
          "Failed to decode profile response" = .ok user := by
    unfold verdict
    cases token.stage grantOf "Failed to exchange token" "Failed to decode token response" <;>
      simp [bind, Except.bind]
  simp only [hbind, Delivery.stage_eq_ok_iff, userOf_eq_ok_iff, Granted]
  constructor
  · rintro ⟨grant, ⟨tokenBody, htoken, hgrant⟩, profileBody, hprofile, htells⟩
    exact ⟨tokenBody, grant, profileBody, htoken, hgrant, hprofile, htells⟩
  · rintro ⟨tokenBody, grant, profileBody, htoken, hgrant, hprofile, htells⟩
    exact ⟨grant, ⟨tokenBody, htoken, hgrant⟩, profileBody, hprofile, htells⟩

/-- A login that is not granted is told with the status of an error. -/
theorem status_of_verdict {status : Nat} {message : String}
    (h : verdict token profile = .error (status, message)) : 400 ≤ status ∧ status ≤ 599 := by
  have hstage : ∀ {α : Type} {read : List UInt8 → Except String α} {lost unread : String}
      {d : Delivery}, d.stage read lost unread = .error (status, message) →
        400 ≤ status ∧ status ≤ 599 := by
    intro α read lost unread d hd
    rw [Delivery.stage_eq] at hd
    cases hresult : d.result read with
    | ok x => rw [hresult] at hd; cases hd
    | error f =>
      rw [hresult] at hd
      have htold : f.told lost unread = (status, message) := Except.error.inj hd
      have hbounds := f.status_told lost unread
      rwa [htold] at hbounds
  unfold verdict at h
  cases htoken : token.stage grantOf "Failed to exchange token"
      "Failed to decode token response" with
  | error e =>
    rw [htoken] at h
    exact hstage (htoken.trans (congrArg Except.error (Except.error.inj h)))
  | ok grant =>
    rw [htoken] at h
    exact hstage h

/-! ## The answers of the platform -/

/-- A failed exchange is refused as what its stage is told as. -/
theorem loginRefusal_exchange (f : Failing) :
    Site.loginRefusal (.identity f.exchange) =
      .page (f.told "Failed to exchange token" "Failed to decode token response").1
        (f.told "Failed to exchange token" "Failed to decode token response").2 := by
  cases f <;> rfl

theorem loginRefusal_profile (f : Failing) :
    Site.loginRefusal (.identity f.profile) =
      .page (f.told "Failed to get user profile" "Failed to decode profile response").1
        (f.told "Failed to get user profile" "Failed to decode profile response").2 := by
  cases f <;> rfl

variable {e : IdentityError} {grant : TokenGrant} {user : User}

/-- A code that is not exchanged is refused as the verdict says. -/
theorem verdict_of_refused (h : (token.result grantOf).mapError Failing.exchange = .error e) :
    ∃ status message, verdict token profile = .error (status, message) ∧
      Site.loginRefusal (.identity e) = .page status message := by
  cases hresult : token.result grantOf with
  | ok grant =>
    rw [hresult] at h
    cases h
  | error f =>
    rw [hresult] at h
    cases h
    refine ⟨_, _, ?_, loginRefusal_exchange f⟩
    simp only [verdict, Delivery.stage_eq, hresult]
    rfl

/-- After a grant the verdict is that of the second stage. -/
theorem verdict_of_grant (h : (token.result grantOf).mapError Failing.exchange = .ok grant) :
    verdict token profile = (profile grant.token).stage userOf "Failed to get user profile"
      "Failed to decode profile response" := by
  cases hresult : token.result grantOf with
  | error f =>
    rw [hresult] at h
    cases h
  | ok g =>
    rw [hresult] at h
    cases h
    simp only [verdict, Delivery.stage_eq, hresult]
    rfl

/-- A profile that is not told is refused as the verdict says. -/
theorem verdict_of_unknown (hgrant : (token.result grantOf).mapError Failing.exchange = .ok grant)
    (h : ((profile grant.token).result userOf).mapError Failing.profile = .error e) :
    ∃ status message, verdict token profile = .error (status, message) ∧
      Site.loginRefusal (.identity e) = .page status message := by
  rw [verdict_of_grant hgrant, Delivery.stage_eq]
  cases hresult : (profile grant.token).result userOf with
  | ok user =>
    rw [hresult] at h
    cases h
  | error f =>
    rw [hresult] at h
    cases h
    exact ⟨_, _, rfl, loginRefusal_profile f⟩

theorem verdict_of_known (hgrant : (token.result grantOf).mapError Failing.exchange = .ok grant)
    (h : ((profile grant.token).result userOf).mapError Failing.profile = .ok user) :
    verdict token profile = .ok user := by
  rw [verdict_of_grant hgrant, Delivery.stage_eq]
  cases hresult : (profile grant.token).result userOf with
  | error f =>
    rw [hresult] at h
    cases h
  | ok u =>
    rw [hresult] at h
    cases h
    rfl

end Verdict

end Login

end Rulebook
