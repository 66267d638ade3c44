import Rulebook.Json.Parser
import Rulebook.Platform

/-!
# What the server answers

A query is answered by an object with the wanted data and a list of errors. Data counts only where
there are no errors: a partial answer is a failure. The wanted value lies a few members deep, and
any of them may be null, which says that there is no such value.
-/

namespace Rulebook.Platform

open Json (Decode Raw Record)

/-- The tree of a body that is JSON. Strings nobody asks for may be of any bytes. -/
def treeOf? (body : List UInt8) : Option Raw :=
  Raw.parseBytes? body

/-- An answer to a query. -/
structure Envelope (α : Type) where
  data : Option α
  errors : List String

namespace Envelope

/-- The text of an error. -/
def readError : Raw → Decode String :=
  Record.read ["message"] fun r => r.orElse "message" "" Raw.text

/-- An answer read from a tree. -/
def read {α : Type} (readData : Raw → Decode α) : Raw → Decode (Envelope α) :=
  Record.read ["data", "errors"] fun r =>
    Envelope.mk <$> r.nullable "data" (Raw.optional readData)
      <*> r.orElse "errors" [] (Raw.list readError)

/-- The data of an answer without errors. -/
def payload {α : Type} (e : Envelope α) : Except String α :=
  if e.errors.isEmpty then
    match e.data with
    | some x => .ok x
    | none => .error "response carried no data object"
  else .error ("graphql errors: " ++ "; ".intercalate e.errors)

/-- The data of a body. -/
def ofBody {α : Type} (readData : Raw → Decode α) (body : List UInt8) : Except String α :=
  match (treeOf? body).map (read readData) with
  | some (.ok e) => e.payload
  | _ => .error "invalid GraphQL JSON payload"

end Envelope

/-- The value of a single member, which may be null. -/
def readMember {α : Type} (name : String) (read : Raw → Decode α) : Raw → Decode (Option α) :=
  Record.read [name] fun r => r.nullable name (Raw.optional read)

/-- The projects of a user, of whatever shape. -/
def readProjects {α : Type} (read : Raw → Decode α) : Raw → Decode α :=
  Record.read ["projects"] fun r => r.required "projects" read

/-- A list of projects wrapped in an object. -/
def readItems : Raw → Decode (List Project) :=
  Record.read ["items"] fun r => r.orElse "items" [] (Raw.list Project.read)

/-- A profile as the server tells it. -/
structure Profile where
  id : String
  name : Option String
  email : Option String
  avatar : Option String
deriving DecidableEq, Repr

namespace Profile

/-- A profile read from a tree. -/
def read : Raw → Decode Profile :=
  Record.read ["id", "name", "email", "avatar"] fun r =>
    Profile.mk <$> r.required "id" Raw.text
      <*> r.orElse "name" none (Raw.optional Raw.text)
      <*> r.orElse "email" none (Raw.optional Raw.text)
      <*> r.orElse "avatar" none (Raw.optional Raw.text)

/-- The user of a profile; what it leaves open is empty. -/
def user (p : Profile) : Except String User :=
  match UserId.of p.id with
  | .ok id => .ok ((User.mk id (p.name.getD "") (p.email.getD "") none).withAvatar p.avatar)
  | .error e => .error ("invalid user id: " ++ e.message)

end Profile

/-- A grant read from a tree; an empty refresh token counts as none. -/
def readGrant : Raw → Decode TokenGrant :=
  Record.read ["token", "refreshToken"] fun r =>
    (fun token refresh => ⟨⟨token⟩, (refresh.filter (· ≠ "")).map BearerToken.mk⟩)
      <$> r.required "token" Raw.text
      <*> r.orElse "refreshToken" none (Raw.optional Raw.text)

/-- The grant in a body. -/
def grantOf (body : List UInt8) : Except String TokenGrant :=
  match (treeOf? body).map readGrant with
  | some (.ok grant) => .ok grant
  | _ => .error ""

/-- A value that has to be there. -/
def present {α : Type} (missing : String) (x : Option α) : Except String α :=
  match x with
  | some x => .ok x
  | none => .error missing

/-- The user in a body. -/
def userOf (body : List UInt8) : Except String User := do
  let profile ← Envelope.ofBody (readMember "activeUser" Profile.read) body
  (← present "activeUser was null" profile).user

/-- The page of projects in a body. -/
def pageOf (body : List UInt8) : Except String ProjectPage := do
  let page ← Envelope.ofBody (readMember "activeUser" (readProjects ProjectPage.read)) body
  present "activeUser was null" page

/-- The projects in a body. -/
def foundOf (body : List UInt8) : Except String (List Project) := do
  let found ← Envelope.ofBody (readMember "activeUser" (readProjects readItems)) body
  present "activeUser was null" found

/-- The project in a body. -/
def projectOf (projectId : String) (body : List UInt8) : Except String Project := do
  let project ← Envelope.ofBody (readMember "project" Project.read) body
  present ("project " ++ projectId ++ " was null") project

end Rulebook.Platform
