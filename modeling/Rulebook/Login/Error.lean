import Rulebook.Store.Error

/-!
# What can go wrong with a login

The exchange of the code and the query for the profile each fail in two ways: the platform does
not answer with success, or its answer cannot be read. A login also fails when the application is
not registered, when the browser comes back without code or challenge, and when the token cannot
be kept.
-/

namespace Rulebook

/-- A failure of one of the two questions a login asks the platform. -/
inductive IdentityError where
  | tokenExchange (status : Option Nat) (message : String)
  | tokenDecode (message : String)
  | profileFetch (status : Option Nat) (message : String)
  | profileDecode (message : String)
deriving DecidableEq, Repr

namespace IdentityError

/-- The name of the kind of a failure. -/
def kind : IdentityError → String
  | .tokenExchange _ _ => "token_exchange"
  | .tokenDecode _ => "token_decode"
  | .profileFetch _ _ => "profile_fetch"
  | .profileDecode _ => "profile_decode"

/-- The text of a failure. -/
def message : IdentityError → String
  | .tokenExchange _ message => "token exchange failed: " ++ message
  | .tokenDecode message => "token response could not be decoded: " ++ message
  | .profileFetch _ message => "profile fetch failed: " ++ message
  | .profileDecode message => "profile response could not be decoded: " ++ message

/-- The status the platform answered with, where it refused. -/
def platformStatus : IdentityError → Option Nat
  | .tokenExchange status _ | .profileFetch status _ => status
  | .tokenDecode _ | .profileDecode _ => none

end IdentityError

/-- A failure of a login. -/
inductive LoginError where
  | notConfigured
  | missingCallbackParameters
  | identity (cause : IdentityError)
  | tokenStore (cause : StoreError)
deriving DecidableEq, Repr

namespace LoginError

/-- The name of the kind of a failure. -/
def kind : LoginError → String
  | .notConfigured => "not_configured"
  | .missingCallbackParameters => "missing_callback_parameters"
  | .identity cause => cause.kind
  | .tokenStore _ => "token_store"

/-- What users are told. -/
def message : LoginError → String
  | .notConfigured => "Speckle App ID or Secret not configured"
  | .missingCallbackParameters => "Missing access code or challenge ID"
  | .identity (.tokenExchange _ _) => "Failed to exchange token"
  | .identity (.tokenDecode _) => "Failed to decode token response"
  | .identity (.profileFetch _ _) => "Failed to get user profile"
  | .identity (.profileDecode _) => "Failed to decode profile response"
  | .tokenStore _ => "Failed to store user token"

/-- The text of the failure underneath, if there is one. -/
def source : LoginError → Option String
  | .identity cause => some cause.message
  | .tokenStore cause => some cause.message
  | .notConfigured | .missingCallbackParameters => none

/-- The status the platform answered with, where it refused. -/
def platformStatus : LoginError → Option Nat
  | .identity cause => cause.platformStatus
  | _ => none

end LoginError

end Rulebook
