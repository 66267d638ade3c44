import Rulebook.Digest.Text
import Rulebook.Json.Reading
import Rulebook.Text.Blank
import Rulebook.Text.Quoted

/-!
# What a login is made of

A login starts with a challenge, a random text tied to the browser that asked for it. The platform
sends the browser back with an access code, and code and challenge together are exchanged for a
bearer token. The application identifies itself by an id and a secret. Each of these has a
description for logs that does not give it away.
-/

namespace Rulebook

/-- A challenge tied to one login. -/
structure ChallengeId where
  text : String
deriving DecidableEq, Repr

namespace ChallengeId

/-- The challenge made of random bytes; 32 of them are drawn for a login. -/
def ofBytes (bytes : List UInt8) : ChallengeId :=
  ⟨Digest.base64UrlPadded bytes⟩

/-- A challenge found in a session; an empty text is none. -/
def ofStored (s : String) : Option ChallengeId :=
  if s = "" then none else some ⟨s⟩

/-- The description for logs. -/
def describe (_ : ChallengeId) : String :=
  "ChallengeId(..)"

/-- A challenge as a value. -/
def toJson (c : ChallengeId) : Json :=
  .string c.text

/-- A challenge read from a tree. -/
def read (tree : Json.Raw) : Json.Decode ChallengeId :=
  (Json.Raw.text tree).map ChallengeId.mk

end ChallengeId

/-- An access code, which says something. -/
structure AccessCode where
  text : String
  notBlank : Text.saysNothing text = false
deriving DecidableEq

namespace AccessCode

/-- The access code of a query value; a blank one is none. -/
def parse (raw : Option String) : Option AccessCode :=
  raw.bind fun s => if h : Text.saysNothing s = false then some ⟨s, h⟩ else none

/-- The description for logs. -/
def describe (_ : AccessCode) : String :=
  "AccessCode(..)"

end AccessCode

/-- A token that opens a user's account on the platform. -/
structure BearerToken where
  text : String
deriving DecidableEq

/-- The description for logs. -/
def BearerToken.describe (_ : BearerToken) : String :=
  "BearerToken(..)"

/-- What the platform grants for an access code. -/
structure TokenGrant where
  token : BearerToken
  refreshToken : Option BearerToken
deriving DecidableEq

/-- The id and secret the application is registered under. -/
structure AppCredentials where
  appId : String
  appSecret : String
  appId_ne : appId ≠ ""
  appSecret_notBlank : Text.saysNothing appSecret = false
deriving DecidableEq

namespace AppCredentials

/-- The credentials of two parts, both of which have to say something. The id loses the blanks
around it, the secret keeps them. -/
def ofParts (appId appSecret : Option String) : Option AppCredentials :=
  match appId, appSecret with
  | some appId, some appSecret =>
    if hi : Text.trim appId ≠ "" then
      if hs : Text.saysNothing appSecret = false then
        some ⟨Text.trim appId, appSecret, hi, hs⟩
      else none
    else none
  | _, _ => none

/-- The description for logs, which names the id only. -/
def describe (c : AppCredentials) : String :=
  "AppCredentials \x7b app_id: " ++ Text.Quoted.encode c.appId ++ ", .. \x7d"

end AppCredentials

/-- What a browser needs to ask its user for approval. -/
structure AuthorizationRequest where
  challenge : ChallengeId
  url : String
  appId : String
deriving DecidableEq

/-- An authorization request as a value. -/
def AuthorizationRequest.toJson (r : AuthorizationRequest) : Json :=
  .object [("appId", .string r.appId), ("authUrl", .string r.url),
    ("challengeId", r.challenge.toJson)]

end Rulebook
