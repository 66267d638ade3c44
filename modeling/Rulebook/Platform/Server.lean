import Rulebook.Login.Credentials
import Rulebook.Url.Absolute

/-!
# The server of the platform

A server is named by the address its pages are under, without blanks around it and slashes at its
end. Two addresses below it take requests, and a third one is where users approve a login.
-/

namespace Rulebook.Platform

/-- The address below which tokens are granted. -/
def tokenPath : String :=
  "/auth/token"

/-- The address below which queries are answered. -/
def queryPath : String :=
  "/graphql"

/-- The address below `base` where a user approves a login. -/
def approvalUrlBelow (base appId : String) (challenge : ChallengeId) : String :=
  base ++ "/authn/verify/" ++ appId ++ "/" ++ challenge.text

/-- A server whose two addresses are absolute. -/
structure Server where
  base : String
  tokenUrl_absolute : Url.isAbsolute (base ++ tokenPath) = true
  queryUrl_absolute : Url.isAbsolute (base ++ queryPath) = true
deriving DecidableEq

namespace Server

/-- An address without blanks around it and slashes at its end. -/
def baseOf (url : String) : String :=
  String.ofList ((Text.trim url).toList.reverse.dropWhile (· = '/')).reverse

/-- The server at an address, if it makes absolute addresses. -/
def of? (url : String) : Option Server :=
  if h : Url.isAbsolute (baseOf url ++ tokenPath) = true then
    if h' : Url.isAbsolute (baseOf url ++ queryPath) = true then some ⟨baseOf url, h, h'⟩ else none
  else none

/-- What is said about an address that names no server. -/
def invalidMessage : String :=
  "invalid Speckle server URL"

/-- Where a user approves a login. -/
def approvalUrl (s : Server) (appId : String) (challenge : ChallengeId) : String :=
  approvalUrlBelow s.base appId challenge

end Server

end Rulebook.Platform
