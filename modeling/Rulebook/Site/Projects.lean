import Rulebook.Page.Projects
import Rulebook.Ruleset.Kept
import Rulebook.Site.Entrance

/-!
# Browsing projects

The pages of projects need a signed-in user whose token is kept; all others are sent to the start
page. What the platform answers is shown and not kept.
-/

namespace Rulebook.Site

/-- The number of models and of versions that a search asks for. -/
def searchLimit : Nat :=
  5

/-- A page for a user whose token is kept. -/
def forMember (v : Visit) (page : User → BearerToken → Handling) : Handling :=
  v.forUser fun user => do
    match ← storedToken user with
    | none => return .redirect "/"
    | some token => page user token

/-- A page of the list of projects. -/
def projectList (v : Visit) : Handling := do
  let cursor ← v.field "cursor"
  forMember v fun user token => do
    let page ← (Attempt.listProjects token pageSize (cursor.filter (· ≠ ""))).orRefuse
      (.internal "Failed to fetch projects")
    return (Page.projects user page (nextCursor page) none).respond

/-- The results of a search; a blank search shows the list instead. -/
def projectSearch (v : Visit) : Handling := do
  let q ← v.field "q"
  forMember v fun user token => do
    let term := Text.trim (q.getD "")
    if term = "" then return .redirect "/projects"
    else
      let items ← (Attempt.searchProjects token term searchLimit searchLimit).orRefuse
        (.internal "Failed to search projects")
      return (Page.projects user ⟨items.length, none, items⟩ none (some term)).respond

/-- The page of a project. -/
def projectDetail (projectId : String) (v : Visit) : Handling :=
  forMember v fun user token => do
    let project ← (Attempt.projectDetails token projectId).orRefuse
      (.internal "Failed to fetch project details")
    let rulesets ← (Rulesets.listOfProject projectId).orRefuse
      (.internal "Failed to fetch project rulesets")
    return (Page.projectDetail user project rulesets.items).respond

end Rulebook.Site
