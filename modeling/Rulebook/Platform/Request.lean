import Rulebook.Http.Message
import Rulebook.Platform
import Rulebook.Platform.Server
import Rulebook.Text.UrlEncoded

/-!
# What is sent to the server

Every question to the platform is one `POST`. The exchange of a code is a form; the other questions
are queries with variables, under a token. `Query` holds the texts of the four queries, in the
server's query language. A token that no header can hold makes no request at all.
-/

namespace Rulebook.Platform.Query

/-- The query for the profile of a token's owner. -/
def activeUser : String :=
  "query \x7b activeUser \x7b id name email avatar \x7d \x7d"

/-- The fields of a model and its versions, from a line with the given indent on. -/
def modelFields (indent : String) : List String :=
  (["id", "name", "description", "previewUrl", "versions(limit: $versionsLimit) \x7b",
    "  items \x7b", "    sourceApplication", "  \x7d", "\x7d"]).map (indent ++ ·)

/-- The query for a page of projects. -/
def listProjects : String :=
  "\n".intercalate ([
    "",
    "query($projectsLimit: Int!, $modelsLimit: Int!, $versionsLimit: Int!, " ++
      "$modelsCursor: String, $projectsCursor: String) \x7b",
    "  activeUser \x7b",
    "    projects(limit: $projectsLimit, cursor: $projectsCursor) \x7b",
    "      totalCount",
    "      cursor",
    "      items \x7b",
    "        id",
    "        name",
    "        description",
    "        models(limit: $modelsLimit, cursor: $modelsCursor) \x7b",
    "          totalCount",
    "          cursor",
    "          items \x7b"] ++
    modelFields "            " ++ [
    "          \x7d",
    "        \x7d",
    "      \x7d",
    "    \x7d",
    "  \x7d",
    "\x7d"])

/-- The query for the projects that match a search. -/
def searchProjects : String :=
  "\n".intercalate ([
    "",
    "query($filter: UserProjectsFilter, $modelsLimit: Int!, $versionsLimit: Int!) \x7b",
    "  activeUser \x7b",
    "    projects(filter: $filter) \x7b",
    "      items \x7b",
    "        id",
    "        name",
    "        description",
    "        models(limit: $modelsLimit) \x7b",
    "          totalCount",
    "          items \x7b"] ++
    modelFields "            " ++ [
    "          \x7d",
    "        \x7d",
    "      \x7d",
    "    \x7d",
    "  \x7d",
    "\x7d"])

/-- The query for a project and its models. -/
def projectDetails : String :=
  "\n".intercalate ([
    "",
    "query($projectId: String!, $modelsLimit: Int!, $versionsLimit: Int!) \x7b",
    "  project(id: $projectId) \x7b",
    "    id",
    "    name",
    "    description",
    "    models(limit: $modelsLimit) \x7b",
    "      totalCount",
    "      items \x7b"] ++
    modelFields "        " ++ [
    "      \x7d",
    "    \x7d",
    "  \x7d",
    "\x7d"])

end Rulebook.Platform.Query

namespace Rulebook.Platform

/-- A request to the server. -/
structure Request where
  path : String
  authorization : Option String
  contentType : String
  body : String
deriving DecidableEq, Repr

namespace Request

/-- The number of models of a project that lists and details ask for. -/
def modelsPerProject : Nat :=
  20

/-- The number of versions of a model that lists and details ask for. -/
def versionsPerModel : Nat :=
  1

/-- A query with its variables, if it has any, under a token. -/
def query? (token : BearerToken) (text : String) (arguments : Option Json) : Option Request :=
  let authorization := "Bearer " ++ token.text
  if Http.isHeaderValue authorization then
    let members := match arguments with
      | none => [("query", .string text)]
      | some v => [("query", .string text), ("variables", v)]
    some ⟨queryPath, some authorization, "application/json", Json.render (.object members)⟩
  else none

/-- The exchange of a code for a token. -/
def exchange (credentials : AppCredentials) (code : AccessCode) (challenge : ChallengeId) :
    Request :=
  ⟨tokenPath, none, "application/x-www-form-urlencoded",
    Text.UrlEncoded.encode [("accessCode", code.text), ("appId", credentials.appId),
      ("appSecret", credentials.appSecret), ("challenge", challenge.text)]⟩

/-- The request that puts a question, if one can be made. -/
def of? : PlatformCall → Option Request
  | .exchangeCode credentials code challenge => some (exchange credentials code challenge)
  | .activeUser token => query? token Query.activeUser none
  | .listProjects token limit cursor =>
    query? token Query.listProjects (some (.object [("modelsCursor", .null),
      ("modelsLimit", .ofNat modelsPerProject), ("projectsCursor", .ofText? cursor),
      ("projectsLimit", .ofNat limit), ("versionsLimit", .ofNat versionsPerModel)]))
  | .searchProjects token query modelsLimit versionsLimit =>
    query? token Query.searchProjects (some (.object [
      ("filter", .object [("search", .string query)]), ("modelsLimit", .ofNat modelsLimit),
      ("versionsLimit", .ofNat versionsLimit)]))
  | .projectDetails token projectId =>
    query? token Query.projectDetails (some (.object [("modelsLimit", .ofNat modelsPerProject),
      ("projectId", .string projectId), ("versionsLimit", .ofNat versionsPerModel)]))

end Request

end Rulebook.Platform
