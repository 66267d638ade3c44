import Rulebook.Proofs.Login.Completion
import Rulebook.Proofs.Store.Change

/-!
# The end of a login is all or nothing

`Ends` lists the five ways in which the end of a login can come out, each with the questions that
have been put to the platform and what has become of the store: only a login that is completed
changes it, and then in the one document of its user (`Keeps`). What was there before decides
nothing but the time the record says it was created, and a record that cannot be read is replaced
like one that was missing. The main statement is `logins_end_all_or_nothing`.
-/

namespace Rulebook.Login

open Json (decodeWith)

/-- The time a user's token was first kept, from the record in a store, if there is a readable one.
-/
def since? (s : Store) (userId : UserId) : Option Time.Timestamp :=
  ((s.shelf .userTokens).get? userId.text).bind fun fields =>
    (decodeWith UserToken.read fields).toOption.map (·.createdAt)

/-- What a completed login leaves behind: a record of the granted token that says when the user's
token was first kept, no other document changed, the token found for its user, and for everybody
else what was found before. -/
structure Keeps (around : Surroundings) (now : Time.Timestamp) (user : User) (token : BearerToken)
    (w w' : World) : Prop where
  record : (w'.store.shelf .userTokens).get? user.id.text =
    some (UserToken.toJson ⟨token.text, user.id, (since? w.store user.id).getD now, now⟩)
  elsewhere : Store.ChangesAt Collection.userTokens.path user.id.text w.store w'.store
  own : (tokenFor user.id).runIn around w' = (.ok (some token), w')
  others : ∀ id, id ≠ user.id →
    ((tokenFor id).runIn around w').1 = ((tokenFor id).runIn around w).1

/-- How the end of a login comes out, given the credentials, the code and the challenge. -/
inductive Ends (around : Surroundings) (now : Time.Timestamp) (w : World) :
    Option AppCredentials → Option AccessCode → Option ChallengeId →
      Except LoginError User × World → Prop
  | missing {credentials : Option AppCredentials} {code : Option AccessCode}
      {challenge : Option ChallengeId} (h : code = none ∨ challenge = none) :
      Ends around now w credentials code challenge (.error .missingCallbackParameters, w)
  | unconfigured {code : AccessCode} {challenge : ChallengeId} :
      Ends around now w none (some code) (some challenge) (.error .notConfigured, w)
  | refused {credentials : AppCredentials} {code : AccessCode} {challenge : ChallengeId}
      {e : IdentityError}
      (hgrant : around.platform.answer (.exchangeCode credentials code challenge) = .error e) :
      Ends around now w (some credentials) (some code) (some challenge) (.error (.identity e),
        { w with asked := .exchangeCode credentials code challenge :: w.asked })
  | unknown {credentials : AppCredentials} {code : AccessCode} {challenge : ChallengeId}
      {grant : TokenGrant} {e : IdentityError}
      (hgrant : around.platform.answer (.exchangeCode credentials code challenge) = .ok grant)
      (huser : around.platform.answer (.activeUser grant.token) = .error e) :
      Ends around now w (some credentials) (some code) (some challenge) (.error (.identity e),
        { w with
          asked := .activeUser grant.token :: .exchangeCode credentials code challenge :: w.asked })
  | completed {credentials : AppCredentials} {code : AccessCode} {challenge : ChallengeId}
      {grant : TokenGrant} {user : User} {w' : World}
      (hgrant : around.platform.answer (.exchangeCode credentials code challenge) = .ok grant)
      (huser : around.platform.answer (.activeUser grant.token) = .ok user)
      (hasked : w'.asked =
        .activeUser grant.token :: .exchangeCode credentials code challenge :: w.asked)
      (hkeeps : Keeps around now user grant.token w w') :
      Ends around now w (some credentials) (some code) (some challenge) (.ok user, w')

variable (around : Surroundings) (now : Time.Timestamp) (w : World)

/-! ## The record of a token -/

/-- Ids are told apart by their texts, which are the keys of the documents. -/
theorem text_injective {a b : UserId} (h : a.text = b.text) : a = b := by
  cases a
  cases b
  cases h
  rfl

/-- A record that is missing counts as none, and one that does not read is a failure. -/
theorem storedToken_runIn_calm (userId : UserId) :
    (storedToken userId).runIn around.calm w =
      (match (w.store.shelf .userTokens).get? userId.text with
        | none => .ok none
        | some fields =>
          match decodeWith UserToken.read fields with
          | .ok record => .ok (some record)
          | .error _ => .error (.malformedToken userId.text), w) := by
  rw [storedToken, Attempt.runIn_bind, Attempt.runIn_outcome, Attempt.runIn_calm_get, Store.get]
  cases (w.store.shelf .userTokens).get? userId.text with
  | none => rfl
  | some fields => cases hread : decodeWith UserToken.read fields <;> simp [hread]

theorem firstKept_calm (userId : UserId) :
    firstKept around.calm now w userId = (since? w.store userId).getD now := by
  rw [firstKept, storedToken_runIn_calm, since?]
  cases (w.store.shelf .userTokens).get? userId.text with
  | none => rfl
  | some fields => cases hread : decodeWith UserToken.read fields <;> simp [hread, Except.toOption]

/-- What is found for a user depends on the user's own document only. -/
theorem tokenFor_congr {w w' : World} {userId : UserId}
    (h : (w'.store.shelf .userTokens).get? userId.text =
      (w.store.shelf .userTokens).get? userId.text) :
    ((tokenFor userId).runIn around.calm w').1 = ((tokenFor userId).runIn around.calm w).1 := by
  rw [tokenFor, bind_pure_comp, Attempt.runIn_map, Attempt.runIn_map, storedToken_runIn_calm,
    storedToken_runIn_calm, h]

/-- The token of a record is found. -/
theorem tokenFor_of_record {w : World} {userId : UserId} {record : UserToken}
    (h : (w.store.shelf .userTokens).get? userId.text = some record.toJson) :
    (tokenFor userId).runIn around.calm w = (.ok (some ⟨record.token⟩), w) := by
  rw [tokenFor, bind_pure_comp, Attempt.runIn_map, storedToken_runIn_calm, h]
  simp only [UserToken.decode_toJson]
  rfl

/-- A record set under a user's id is kept as a completed login keeps it. -/
theorem keeps_set {w w' : World} {user : User} {token : BearerToken}
    (hstore : w'.store = w.store.set .userTokens user.id.text
      (UserToken.toJson ⟨token.text, user.id, (since? w.store user.id).getD now, now⟩)) :
    Keeps around.calm now user token w w' := by
  have hget : ∀ id, (w'.store.shelf .userTokens).get? id =
      if id = user.id.text then
        some (UserToken.toJson ⟨token.text, user.id, (since? w.store user.id).getD now, now⟩)
      else (w.store.shelf .userTokens).get? id := by
    intro id
    rw [hstore, Store.shelf_set_self, Shelf.get?_insert]
  have hrecord := (hget user.id.text).trans (if_pos rfl)
  refine ⟨hrecord, ?_, tokenFor_of_record around hrecord, fun id hne => ?_⟩
  · rw [hstore]
    exact w.store.changesAt_set .userTokens _ _
  · have htext : id.text ≠ user.id.text := fun heq => hne (text_injective heq)
    exact tokenFor_congr around ((hget id.text).trans (if_neg htext))

/-! ## The end of a login -/

variable (credentials : Option AppCredentials) (code : Option AccessCode)
  (challenge : Option ChallengeId)

/-- In a store without outages a login ends in one of the five ways. -/
theorem ends_complete :
    Ends around.calm now w credentials code challenge
      ((complete credentials now code challenge).runIn around.calm w) := by
  cases code with
  | none => exact .missing (.inl rfl)
  | some code =>
  cases challenge with
  | none => exact .missing (.inr rfl)
  | some challenge =>
  cases credentials with
  | none => exact .unconfigured
  | some credentials =>
  rw [complete, Attempt.runIn_bind, Attempt.runIn_orFail, Attempt.runIn_exchangeCode]
  cases hgrant : around.calm.platform.answer (.exchangeCode credentials code challenge) with
  | error e => exact .refused hgrant
  | ok grant =>
    dsimp only [Attempt.mapError_ok]
    rw [Attempt.runIn_bind, Attempt.runIn_orFail, Attempt.runIn_activeUser]
    cases huser : around.calm.platform.answer (.activeUser grant.token) with
    | error e => exact .unknown hgrant huser
    | ok user =>
      dsimp only [Attempt.mapError_ok]
      rw [Attempt.runIn_bind, Attempt.runIn_orFail, storeToken_runIn, firstKept_calm]
      exact .completed hgrant huser rfl (keeps_set around now rfl)

/-- A login that fails leaves the store as it was, even when it is the store that fails. -/
theorem store_of_complete_error {e : LoginError}
    (h : ((complete credentials now code challenge).runIn around w).1 = .error e) :
    ((complete credentials now code challenge).runIn around w).2.store = w.store := by
  obtain ⟨created, hresult, hworld⟩ := complete_runIn around credentials now code challenge w
  have hnone : completed? around credentials code challenge = none := by
    rw [h] at hresult
    exact Option.map_eq_none_iff.mp hresult.symm
  rw [hworld, hnone]

/-- **The end of a login is all or nothing.** Without a code or a challenge it fails, whether or not
there are credentials, and without credentials it fails too, and nothing is asked. Otherwise the
code is exchanged once, for the challenge; the owner of the token is asked for once, with the token
granted, and only if one was; and a failure of either question is the failure of the login. If both
succeed the user is the one the platform told, and the token is kept in the user's document and
nowhere else, whatever was there before. A login that fails in any way, under any outages of the
store, leaves the store as it was. -/
theorem logins_end_all_or_nothing :
    Ends around.calm now w credentials code challenge
      ((complete credentials now code challenge).runIn around.calm w) ∧
    ∀ e, ((complete credentials now code challenge).runIn around w).1 = .error e →
      ((complete credentials now code challenge).runIn around w).2.store = w.store :=
  ⟨ends_complete around now w credentials code challenge,
    fun _ => store_of_complete_error around now w credentials code challenge⟩

end Rulebook.Login
