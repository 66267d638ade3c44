import Rulebook.Program

/-!
# Logging in

A login begins with a fresh challenge and the address where the user approves it. It is completed
by the access code and the challenge: they are exchanged for a token, the token's owner is looked
up, and the token is kept under the owner's id. A record that is replaced hands on the time it was
created.
-/

namespace Rulebook.Login

/-- The start of a login: a challenge, and where to approve it. -/
def start (credentials : Option AppCredentials) (approvalUrl : String → ChallengeId → String) :
    Attempt LoginError AuthorizationRequest :=
  match credentials with
  | none => throw .notConfigured
  | some c => do
    let challenge ← Attempt.freshChallenge
    return ⟨challenge, approvalUrl c.appId challenge, c.appId⟩

/-- The record of a user's token; none where there is no document. -/
def storedToken (userId : UserId) : Attempt StoreError (Option UserToken) := do
  match ← (Attempt.get .userTokens userId.text).outcome with
  | .ok doc =>
    match Json.decodeWith UserToken.read doc.fields with
    | .ok record => return some record
    | .error _ => throw (.malformedToken userId.text)
  | .error e => if e.isNotFound then return none else throw e

/-- The token kept for a user. -/
def tokenFor (userId : UserId) : Attempt StoreError (Option BearerToken) := do
  let record ← storedToken userId
  return record.map fun r => ⟨r.token⟩

/-- A token kept for a user. A record that cannot be read is replaced by a new one. -/
def storeToken (now : Time.Timestamp) (userId : UserId) (token : BearerToken) :
    Attempt StoreError Unit := do
  let created :=
    match ← (storedToken userId).outcome with
    | .ok (some record) => record.createdAt
    | .ok none | .error _ => now
  Attempt.set .userTokens userId.text (UserToken.toJson ⟨token.text, userId, created, now⟩)

/-- The end of a login; the result is the user. -/
def complete (credentials : Option AppCredentials) (now : Time.Timestamp)
    (code : Option AccessCode) (challenge : Option ChallengeId) : Attempt LoginError User :=
  match code, challenge with
  | some code, some challenge =>
    match credentials with
    | none => throw .notConfigured
    | some credentials => do
      let grant ← (Attempt.exchangeCode credentials code challenge).orFail .identity
      let user ← (Attempt.activeUser grant.token).orFail .identity
      (storeToken now user.id grant.token).orFail .tokenStore
      return user
  | _, _ => throw .missingCallbackParameters

end Rulebook.Login
