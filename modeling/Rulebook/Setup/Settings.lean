import Rulebook.Login.Credentials
import Rulebook.Setup.Address
import Rulebook.Setup.Environment

/-!
# Settings of the service

Two groups of variables: how the platform is reached, and where the service listens and keeps its
documents. Absent variables have their usual values. One that says something of the wrong kind
spoils its group.
-/

namespace Rulebook

/-- A setting: what a variable says, read as its kind, or the usual value where it is absent. -/
def Environment.setting {α : Type} (env : Environment) (name : String) (usual : α)
    (read : SettingValue → Option α) : Option α :=
  match env name with
  | none => some usual
  | some s => read (SettingValue.read s)

/-- How the platform is reached. -/
structure PlatformSettings where
  appId : Option String
  appSecret : Option String
  address : String
  timeoutSeconds : Nat
deriving DecidableEq, Repr

namespace PlatformSettings

/-- The server of the platform that is open to everybody. -/
def publicServer : String :=
  "https://app.speckle.systems"

/-- The settings in an environment. -/
def load (env : Environment) : Option PlatformSettings := do
  let text v := (SettingValue.text? v).map some
  let appId ← env.setting "SPECKLE_APP_ID" none text
  let appSecret ← env.setting "SPECKLE_APP_SECRET" none text
  let address ← env.setting "SPECKLE_SERVER_URL" publicServer SettingValue.text?
  let timeoutSeconds ← env.setting "SPECKLE_REQUEST_TIMEOUT_SECS" 30 (SettingValue.nat? 64)
  return { appId, appSecret, address, timeoutSeconds }

/-- The address of the server, the public one if none is given. -/
def serverUrl (s : PlatformSettings) : String :=
  if Text.saysNothing s.address then publicServer else Text.trim s.address

/-- The credentials, if both of their parts are set. -/
def credentials (s : PlatformSettings) : Option AppCredentials :=
  AppCredentials.ofParts s.appId s.appSecret

end PlatformSettings

/-- Where the service listens and keeps its documents. -/
structure ServiceSettings where
  host : IpAddress
  socket : Nat
  database : Option String
  poolMaxSize : Nat
deriving DecidableEq, Repr

namespace ServiceSettings

/-- The settings in an environment. -/
def load (env : Environment) : Option ServiceSettings := do
  let address v := (SettingValue.text? v).bind IpAddress.read?
  let host ← env.setting "MODEL_CHECKER_BIND_HOST" IpAddress.anyInterface address
  let socket ← env.setting "MODEL_CHECKER_PORT" 8000 (SettingValue.nat? 16)
  let text v := (SettingValue.text? v).map some
  let database ← env.setting "MODEL_CHECKER_DATABASE_URL" none text
  let poolMaxSize ← env.setting "MODEL_CHECKER_POOL_MAX_SIZE" 10 (SettingValue.nat? 32)
  return { host, socket, database, poolMaxSize }

/-- Where the service listens. -/
def listensAt (s : ServiceSettings) : String :=
  s.host.renderWithSocket s.socket

/-- The database, if one is named; without it documents are kept in memory. -/
def databaseUrl (s : ServiceSettings) : Option String :=
  (s.database.map Text.trim).filter (· ≠ "")

end ServiceSettings

end Rulebook
