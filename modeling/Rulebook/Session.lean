import Rulebook.Json.Printer
import Rulebook.Login.Credentials
import Rulebook.Text.Utf8
import Rulebook.User

/-!
# Sessions

A session is what a browser carries in its cookie: a few named values. While a request is handled
the session also knows whether the browser brought one along and whether it has been changed or
thrown away. What is done to the cookie follows from that. A session whose encoded state is too
long cannot be saved.
-/

namespace Rulebook

/-- What has happened to a session during a request. -/
inductive SessionStatus where
  | unchanged
  | changed
  | purged
deriving DecidableEq, Repr

/-- The session of a request. The entries stand in the order of their names. -/
structure Session where
  entries : List (String × Json)
  brought : Bool
  status : SessionStatus

/-- What a response does to the cookie. -/
inductive CookieEffect where
  | unchanged
  | set
  | removed
deriving DecidableEq, Repr

namespace Session

/-- The name of the cookie. -/
def cookieName : String :=
  "speckle_session"

/-- The session at the start of a request, from what the cookie holds, if there is a readable one.
-/
def ofCookie (cookie : Option (List (String × Json))) : Session :=
  ⟨cookie.getD [], cookie.isSome, .unchanged⟩

/-- The value of an entry. -/
def value? (s : Session) (name : String) : Option Json :=
  Json.memberOf name s.entries

/-- The value of an entry that is a text. -/
def text? (s : Session) (name : String) : Option String :=
  match s.value? name with
  | some (.string t) => some t
  | _ => none

/-- A session with an entry set; a session thrown away takes none. -/
def insert (s : Session) (name : String) (value : Json) : Session :=
  if s.status = .purged then s
  else { s with entries := Json.insertMember name value s.entries, status := .changed }

/-- A session without an entry, changed whether it had one or not. -/
def remove (s : Session) (name : String) : Session :=
  if s.status = .purged then s
  else { s with entries := s.entries.filter (·.1 ≠ name), status := .changed }

/-- A session thrown away. -/
def purge (s : Session) : Session :=
  { s with entries := [], status := .purged }

/-- The entry of the user's id. -/
def userIdKey : String :=
  "user_id"

/-- The entry of the user's name. -/
def userNameKey : String :=
  "user_name"

/-- The entry of the user's email address. -/
def userEmailKey : String :=
  "user_email"

/-- The entry of the pending challenge. -/
def challengeKey : String :=
  "speckle_challenge_id"

/-- The user who is signed in: all three entries are texts, and the id is one. -/
def user? (s : Session) : Option User :=
  match s.text? userIdKey, s.text? userNameKey, s.text? userEmailKey with
  | some id, some name, some email =>
    match UserId.of id with
    | .ok id => some ⟨id, name, email, none⟩
    | .error _ => none
  | _, _, _ => none

/-- A session with a user signed in. -/
def signIn (s : Session) (u : User) : Session :=
  ((s.insert userIdKey (.string u.id.text)).insert userNameKey (.string u.name)).insert
    userEmailKey (.string u.email)

/-- A session with a pending challenge. -/
def storeChallenge (s : Session) (c : ChallengeId) : Session :=
  s.insert challengeKey c.toJson

/-- The pending challenge, and the session without it. -/
def takeChallenge (s : Session) : Option ChallengeId × Session :=
  ((s.text? challengeKey).bind ChallengeId.ofStored, s.remove challengeKey)

/-- The encoded state: an object from names to the JSON texts of the values. -/
def state (s : Session) : String :=
  Json.render (.object (s.entries.map fun (name, value) => (name, .string value.render)))

/-- The greatest number of bytes of an encoded state. -/
def stateLimit : Nat :=
  4064

/-- What happens to the cookie at the end of a request. -/
def effect (s : Session) : CookieEffect :=
  if s.brought then
    match s.status with
    | .unchanged => .unchanged
    | .changed => .set
    | .purged => .removed
  else if s.entries.isEmpty then .unchanged
  else .set

/-- Whether the state, where it has to be saved, can be. -/
def canSave (s : Session) : Bool :=
  s.effect ≠ .set || (Text.Utf8.encode s.state).length ≤ stateLimit

/-- What the cookie holds after a request. -/
def cookieAfter (s : Session) (before : Option (List (String × Json))) :
    Option (List (String × Json)) :=
  match s.effect with
  | .unchanged => before
  | .set => some s.entries
  | .removed => none

end Session

end Rulebook
