import Rulebook.Digest.Sha256
import Rulebook.Digest.Text
import Rulebook.Setup.Environment
import Rulebook.Text.Utf8

/-!
# The settings of sessions

Session cookies are signed and encrypted with one key. It is derived from secret bytes, never fewer
than 32 of them, or drawn at random for as long as the service runs. Which derived key is in use can
be told by a short digest that does not give it away.

Four variables say how sessions are kept: whether cookies are for secure connections only, whether
a key may be drawn at random, the secret itself, and the file it is in. A secret that is set wins
over the file, even if it is too short. A debug build makes do with less: it reads a switch that
is absent or unclear as its default and draws a key when no file can be read. A release build
takes neither.
-/

namespace Rulebook

/-- A key for session cookies. -/
inductive SessionKey where
  | derived (secret : List UInt8) (enough : 32 ≤ secret.length)
  | drawn
deriving DecidableEq

namespace SessionKey

/-- The fewest bytes a key is derived from. -/
def leastSecret : Nat :=
  32

/-- What the derivation mixes into the secret. -/
def label : List UInt8 :=
  Text.Utf8.encode "COOKIE;SIGNED:HMAC-SHA256;PRIVATE:AEAD-AES-256-GCM"

/-- The half of a derived key that signs. -/
def signing? : SessionKey → Option (List UInt8)
  | .derived secret _ => some ((Digest.expand secret label 64).take 32)
  | .drawn => none

/-- The half of a derived key that encrypts. -/
def encryption? : SessionKey → Option (List UInt8)
  | .derived secret _ => some ((Digest.expand secret label 64).drop 32)
  | .drawn => none

/-- The first eight bytes of the digest of the signing half, in hexadecimal. -/
def fingerprint? (key : SessionKey) : Option String :=
  key.signing?.map fun signing => Digest.hex ((Digest.Sha256.digest signing).take 8)

end SessionKey

/-- How a service was built. -/
inductive BuildMode where
  | debug
  | release
deriving DecidableEq, Repr

/-- The fewest bytes of a secret in a kind of build. -/
def BuildMode.leastSecret : BuildMode → Nat
  | .debug => SessionKey.leastSecret
  | .release => 64

theorem BuildMode.leastSecret_ge (mode : BuildMode) : 32 ≤ mode.leastSecret := by
  cases mode <;> decide

/-- Where a secret was found. -/
inductive SecretOrigin where
  | variable
  | file (path : String)
deriving DecidableEq, Repr

/-- What keeps a service from setting up its sessions. -/
inductive SessionSetupError where
  | missing (name : String)
  | invalid (name value : String)
  | unreadable (path reason : String)
  | tooShort (origin : SecretOrigin) (least length : Nat)
  | drawnKeyRefused
deriving DecidableEq, Repr

/-- How sessions are kept. -/
structure SessionSettings where
  key : SessionKey
  cookieSecure : Bool
deriving DecidableEq

namespace SessionSettings

/-- The variable that says whether cookies are for secure connections only. -/
def secureName : String :=
  "SESSION_COOKIE_SECURE"

/-- The variable that says whether a key may be drawn at random. -/
def drawnName : String :=
  "SESSION_ALLOW_EPHEMERAL"

/-- The variable that holds the secret. -/
def secretName : String :=
  "SESSION_SECRET_KEY"

/-- The variable that names the file of the secret. -/
def fileName : String :=
  "SESSION_KEY_FILE"

/-- The file of the secret where none is named. -/
def usualFile : String :=
  "/var/run/secrets/session_key"

/-- The position of a switch, in either case and with blanks around it. -/
def readSwitch? (value : String) : Option Bool :=
  let word := (Text.trim value).toLower
  if word ∈ ["1", "true", "yes", "y"] then some true
  else if word ∈ ["0", "false", "no", "n"] then some false
  else none

/-- The position of a switch; a debug build falls back on the usual one. -/
def switch (env : Environment) (mode : BuildMode) (name : String) (usual : Bool) :
    Except SessionSetupError Bool :=
  let fallBack (e : SessionSetupError) : Except SessionSetupError Bool :=
    if mode = .debug then .ok usual else .error e
  match env name with
  | none => fallBack (.missing name)
  | some value =>
    match readSwitch? value with
    | some position => .ok position
    | none => fallBack (.invalid name value)

/-- The key a secret makes, if it is long enough for the build. -/
def keyFrom (secret : List UInt8) (origin : SecretOrigin) (mode : BuildMode) :
    Except SessionSetupError SessionKey :=
  if h : mode.leastSecret ≤ secret.length then
    .ok (.derived secret (Nat.le_trans mode.leastSecret_ge h))
  else .error (.tooShort origin mode.leastSecret secret.length)

/-- The key of a service: from the variable, else from the file, else drawn where that is allowed.
-/
def chooseKey (env : Environment) (mode : BuildMode) (drawnAllowed : Bool)
    (readFile : String → Except String (List UInt8)) : Except SessionSetupError SessionKey :=
  match (env secretName).filter (· ≠ "") with
  | some secret => keyFrom (Text.Utf8.encode secret) .variable mode
  | none =>
    let path := (env fileName).getD usualFile
    match readFile path with
    | .ok secret => keyFrom secret (.file path) mode
    | .error reason =>
      if mode = .debug ∨ drawnAllowed then .ok .drawn else .error (.unreadable path reason)

/-- How sessions are kept in an environment, given what reading a file comes to. -/
def load (env : Environment) (mode : BuildMode)
    (readFile : String → Except String (List UInt8)) :
    Except SessionSetupError SessionSettings := do
  let cookieSecure ← switch env mode secureName true
  let drawnAllowed ← switch env mode drawnName false
  if drawnAllowed ∧ mode = .release then throw .drawnKeyRefused
  let key ← chooseKey env mode drawnAllowed readFile
  return { key, cookieSecure }

end SessionSettings

/-- The place a secret was found at. -/
def SecretOrigin.name : SecretOrigin → String
  | .variable => SessionSettings.secretName
  | .file path => path

namespace SessionSetupError

/-- The name of the kind of a failure. -/
def kind : SessionSetupError → String
  | .missing _ => "missing_env"
  | .invalid _ _ => "invalid_env"
  | .unreadable _ _ => "key_read"
  | .tooShort _ _ _ => "key_too_short"
  | .drawnKeyRefused => "ephemeral_not_allowed"

/-- The text of a failure. -/
def message : SessionSetupError → String
  | .missing name => "missing required environment variable: " ++ name
  | .invalid name value =>
    "invalid value for " ++ name ++ "='" ++ value ++ "'; expected 1|0|true|false|yes|no|y|n"
  | .unreadable path reason => "failed to read session key at " ++ path ++ ": " ++ reason
  | .tooShort origin least length =>
    "session key from " ++ origin.name ++ " too short: need >= " ++ toString least ++
      " bytes, got " ++ toString length
  | .drawnKeyRefused => "SESSION_ALLOW_EPHEMERAL must be 0 in release builds"

end SessionSetupError

end Rulebook
