import Rulebook.Login.Flow
import Rulebook.Proofs.Json.Record
import Rulebook.Proofs.Json.RoundTrip
import Rulebook.Proofs.Program.Only
import Rulebook.Proofs.Time.RoundTrip

/-!
# What completing a login does

The end of a login either completes it or changes nothing that is kept. `completed?` says from the
answers of the platform and the outages of the store alone which of the two it is, and
`complete_runIn` says all that happens: the questions put to the platform, the result, and the one
document that is written. A token record is read back as it was written.
-/

namespace Rulebook

open Json (Decode Legible Raw decodeWith)

/-- A user id is read from its text. -/
theorem UserId.decode_text (id : UserId) : decodeWith UserId.read (.string id.text) = .ok id := by
  simp [decodeWith, Json.raw, UserId.read, Json.Raw.text, UserId.of, id.valid]

namespace UserTokenOf

variable {τ : Type} {readTime : Raw → Decode τ} {writeTime : τ → Json} {f : τ → τ}

/-- A token record with other times. -/
def mapTimes (f : τ → τ) (t : UserTokenOf τ) : UserTokenOf τ :=
  { t with createdAt := f t.createdAt, updatedAt := f t.updatedAt }

/-- The times of a token record have a property. -/
def Times (p : τ → Prop) (t : UserTokenOf τ) : Prop :=
  p t.createdAt ∧ p t.updatedAt

theorem mapTimes_eq_self {t : UserTokenOf τ} : t.mapTimes f = t ↔ t.Times fun x => f x = x := by
  simp [UserTokenOf.ext_iff, mapTimes, Times]

/-- A token record is read from its document with its times as they are read. -/
theorem decode_write (h : ∀ x, decodeWith readTime (writeTime x) = .ok (f x)) (t : UserTokenOf τ) :
    decodeWith (readWith readTime) (t.write writeTime) = .ok (t.mapTimes f) := by
  refine Json.Record.decodeWith_read_object (by simp) (by simp) fun r hr => ?_
  rw [hr.required (x := .string t.token) (by simp) (Json.decode_text _),
    hr.required (x := .string t.owner.text) (by simp) t.owner.decode_text,
    hr.required (x := writeTime t.createdAt) (by simp) (h _),
    hr.required (x := writeTime t.updatedAt) (by simp) (h _)]
  rfl

theorem legible_write (t : UserTokenOf τ) {room : Nat} (h : ∀ x, Legible room (writeTime x)) :
    Legible (room + 1) (t.write writeTime) := by
  simp [write, Legible, Json.LegibleMembers, h]

end UserTokenOf

/-- A token record is read back from its document. -/
theorem UserToken.decode_toJson (t : UserToken) : decodeWith UserToken.read t.toJson = .ok t :=
  UserTokenOf.decode_write (f := id) Time.Timestamp.decode_toJson t

namespace Login

/-- A login that was completed: the user and the token granted for it. -/
structure Completed where
  user : User
  token : BearerToken

variable (around : Surroundings) (credentials : Option AppCredentials) (now : Time.Timestamp)
  (code : Option AccessCode) (challenge : Option ChallengeId) (w : World)

/-- Whether the store refuses to keep tokens. -/
def refusesToken (userId : UserId) : Option StoreError :=
  Outage.meets? around.outages (.set .userTokens userId.text .null)

/-- The login that a code and a challenge complete. Nothing may be missing, the platform has to
grant a token and tell its owner, and the store has to keep the token. -/
def completed? : Option Completed := do
  let credentials ← credentials
  let code ← code
  let challenge ← challenge
  let grant ← (around.platform.answer (.exchangeCode credentials code challenge)).toOption
  let user ← (around.platform.answer (.activeUser grant.token)).toOption
  if (refusesToken around user.id).isSome then none else some ⟨user, grant.token⟩

/-- The questions that the end of a login puts to the platform, the latest first. -/
def questions : List PlatformCall :=
  match credentials, code, challenge with
  | some credentials, some code, some challenge =>
    match around.platform.answer (.exchangeCode credentials code challenge) with
    | .error _ => [.exchangeCode credentials code challenge]
    | .ok grant => [.activeUser grant.token, .exchangeCode credentials code challenge]
  | _, _, _ => []

/-- Looking for a token record asks the store for its document only. -/
theorem only_storedToken (userId : UserId) : (storedToken userId).Only Call.Looks := by
  have hget : (Attempt.get .userTokens userId.text).Only Call.Looks := Attempt.only_one trivial
  refine hget.outcome.bind fun r => ?_
  cases r with
  | error e =>
    dsimp only
    split
    · exact Attempt.only_pure _
    · exact Attempt.only_throw _
  | ok doc =>
    dsimp only
    split
    · exact Attempt.only_pure _
    · exact Attempt.only_throw _

theorem storedToken_runIn_world (userId : UserId) :
    ((storedToken userId).runIn around w).2 = w :=
  Program.world_of_only around (only_storedToken userId) w

/-- When the token of a user was first kept, according to the record that is there. -/
def firstKept (userId : UserId) : Time.Timestamp :=
  match ((storedToken userId).runIn around w).1 with
  | .ok (some record) => record.createdAt
  | .ok none | .error _ => now

/-- A token is kept in one document, or the store refuses it. -/
theorem storeToken_runIn (userId : UserId) (token : BearerToken) :
    (storeToken now userId token).runIn around w =
      match refusesToken around userId with
      | some e => (.error e, w)
      | none => (.ok (), { w with
          store := w.store.set .userTokens userId.text
            (UserToken.toJson ⟨token.text, userId, firstKept around now w userId, now⟩) }) := by
  rw [storeToken, Attempt.runIn_bind, Attempt.runIn_outcome, storedToken_runIn_world]
  dsimp only
  rw [Attempt.runIn_set]
  rfl

/-- The end of a login: its questions are asked, and one document is written if it is completed. -/
theorem complete_runIn :
    ∃ created,
      let out := (complete credentials now code challenge).runIn around w
      out.1.toOption = (completed? around credentials code challenge).map (·.user) ∧
      out.2 = { w with
        store := match completed? around credentials code challenge with
          | none => w.store
          | some login => w.store.set .userTokens login.user.id.text
              (UserToken.toJson ⟨login.token.text, login.user.id, created, now⟩)
        asked := questions around credentials code challenge ++ w.asked } := by
  cases code with
  | none => exact ⟨now, by cases credentials <;> rfl, by cases credentials <;> rfl⟩
  | some code =>
  cases challenge with
  | none => exact ⟨now, by cases credentials <;> rfl, by cases credentials <;> rfl⟩
  | some challenge =>
  cases credentials with
  | none => exact ⟨now, rfl, rfl⟩
  | some credentials =>
  cases hgrant : around.platform.answer (.exchangeCode credentials code challenge) with
  | error e =>
    refine ⟨now, ?_, ?_⟩ <;>
      simp [complete, Attempt.runIn_bind, Attempt.runIn_orFail, hgrant, completed?, questions,
        Except.toOption]
  | ok grant =>
  cases huser : around.platform.answer (.activeUser grant.token) with
  | error e =>
    refine ⟨now, ?_, ?_⟩ <;>
      simp [complete, Attempt.runIn_bind, Attempt.runIn_orFail, hgrant, huser, completed?,
        questions, Except.toOption]
  | ok user =>
  let asking : World :=
    { w with asked := questions around (some credentials) (some code) (some challenge) ++ w.asked }
  have hstore := storeToken_runIn around now asking user.id grant.token
  refine ⟨firstKept around now asking user.id, ?_, ?_⟩ <;>
    cases hrefuse : refusesToken around user.id <;>
    simp_all [asking, complete, Attempt.runIn_bind, Attempt.runIn_orFail, completed?, questions,
      Except.map, Except.toOption]

section Completed

variable {around : Surroundings} {credentials : Option AppCredentials} {code : Option AccessCode}
  {challenge : Option ChallengeId} {login : Completed}

/-- A completed login says what the platform was asked and what it answered. -/
theorem completed?_eq_some (h : completed? around credentials code challenge = some login) :
    ∃ c k ch grant, credentials = some c ∧ code = some k ∧ challenge = some ch ∧
      around.platform.answer (.exchangeCode c k ch) = .ok grant ∧ grant.token = login.token ∧
      around.platform.answer (.activeUser login.token) = .ok login.user ∧
      questions around credentials code challenge =
        [.activeUser login.token, .exchangeCode c k ch] := by
  rcases credentials with _ | c
  · cases h
  rcases code with _ | k
  · cases h
  rcases challenge with _ | ch
  · cases h
  cases hgrant : around.platform.answer (.exchangeCode c k ch) with
  | error e => simp [completed?, hgrant, Except.toOption] at h
  | ok grant =>
  cases huser : around.platform.answer (.activeUser grant.token) with
  | error e => simp [completed?, hgrant, huser, Except.toOption] at h
  | ok user =>
    simp [completed?, hgrant, huser, Except.toOption] at h
    obtain ⟨-, rfl⟩ := h
    exact ⟨c, k, ch, grant, rfl, rfl, rfl, hgrant, rfl, huser, by simp [questions, hgrant]⟩

/-- A code is exchanged only for the challenge at hand, and only if there is one of each. -/
theorem exchangeCode_mem_questions {c : AppCredentials} {k : AccessCode} {ch : ChallengeId}
    (h : .exchangeCode c k ch ∈ questions around credentials code challenge) :
    credentials = some c ∧ code = some k ∧ challenge = some ch := by
  unfold questions at h
  split at h
  · split at h <;> simp_all
  · cases h

/-- The owner of a token is asked for with the token that was granted right before. -/
theorem activeUser_mem_questions {token : BearerToken}
    (h : .activeUser token ∈ questions around credentials code challenge) :
    ∃ c k ch grant, .exchangeCode c k ch ∈ questions around credentials code challenge ∧
      around.platform.answer (.exchangeCode c k ch) = .ok grant ∧ grant.token = token := by
  unfold questions at h ⊢
  split at h
  · next c k ch =>
    split at h
    · simp at h
    · next grant hgrant =>
      obtain rfl : token = grant.token := by simpa using h
      exact ⟨c, k, ch, grant, by simp, hgrant, rfl⟩
  · cases h

end Completed

end Login

end Rulebook
