import Rulebook.Page.Layout
import Rulebook.Project
import Rulebook.Ruleset.Export

/-!
# Pages of projects

The list of projects, which also shows the results of a search, and the page of one project with its
models and rulesets.
-/

namespace Rulebook.Page

/-- A version of a model on the list: the first one names its application. -/
def versionLine (place : Nat) (v : ModelVersion) : Page :=
  lines [
    "",
    "            "] ++
  when (place = 0) (ifText v.sourceApplication fun s =>
    [.fixed "<span class=\"muted\">(", .text s, .fixed ")</span>"]) ++
  lines [
    "",
    "          "]

/-- A model on the list. -/
def modelLine (_ : Nat) (m : ProjectModel) : Page :=
  lines [
    "",
    "        <li>",
    "          "] ++
  [.text m.name] ++
  lines [
    "",
    "          "] ++
  forEach m.versions versionLine [] ++
  lines [
    "",
    "        </li>",
    "      "]

/-- The description of a project, if it has one. -/
def description (s : Option String) : Page :=
  ifText s fun s => [.fixed "<p>", .text s, .fixed "</p>"]

/-- A project on the list. -/
def projectSection (_ : Nat) (p : Project) : Page :=
  lines [
    "",
    "  <section>",
    "    <h2><a href=\"/projects/"] ++
  [.text p.id, .fixed "\">", .text p.name] ++
  lines [
    "</a></h2>",
    "    "] ++
  description p.description ++
  lines [
    "",
    "    <ul>",
    "      "] ++
  forEach p.models.items modelLine [] ++
  lines [
    "",
    "    </ul>",
    "  </section>",
    ""]

/-- The title of the list of projects. -/
def projectsTitle (search : Option String) : String :=
  if search.isSome then "Search Results" else "Projects"

/-- Whether results of a search are shown: an empty search is none. -/
def isSearch (search : Option String) : Bool :=
  search.any (· ≠ "")

/-- The list of projects, or of what a search found. -/
def projects (user : User) (page : ProjectPage) (nextCursor search : Option String) : Page :=
  layout (projectsTitle search) (some user)
    (lines [
      "",
      "<h1>"] ++
    (if isSearch search then
      [.fixed "Results for \"", .text (search.getD ""), .fixed "\""]
    else [.fixed "Projects"]) ++
    lines [
      "</h1>",
      "<form action=\"/projects/search\" method=\"get\">",
      "  <input type=\"search\" name=\"q\" value=\""] ++
    ifText search (fun s => [.text s]) ++
    lines [
      "\" placeholder=\"Search projects\">",
      "  <button type=\"submit\">Search</button>",
      "</form>",
      ""] ++
    when (!isSearch search)
      [.fixed "<p class=\"muted\">", number page.totalCount, .fixed " projects</p>"] ++
    lines [
      "",
      ""] ++
    forEach page.items projectSection
      (lines [
        "",
        "  <p>No projects found.</p>",
        ""]) ++
    lines [
      "",
      ""] ++
    ifText nextCursor (fun c =>
      lines [
        "",
        "  <p><a href=\"/projects?cursor="] ++
      [.query c] ++
      lines [
        "\">Next page</a></p>",
        ""]) ++
    lines [
      "",
      ""])
    []

/-- The application the newest version of a model came from, in a table cell. -/
def sourceCell (place : Nat) (v : ModelVersion) : Page :=
  when (place = 0) (ifText v.sourceApplication fun s => [.text s])

/-- A model in the table of a project. -/
def modelRow (_ : Nat) (m : ProjectModel) : Page :=
  lines [
    "",
    "    <tr>",
    "      <td>"] ++
  [.text m.name] ++
  lines [
    "</td>",
    "      <td>"] ++
  forEach m.versions sourceCell [] ++
  lines [
    "</td>",
    "      <td>"] ++
  ifText m.previewUrl (fun url =>
    [.fixed "<img src=\"", .text url, .fixed "\" alt=\"", .text m.name,
      .fixed "\" width=\"120\">"]) ++
  lines [
    "</td>",
    "    </tr>",
    "  "]

/-- A ruleset on the page of its project. -/
def rulesetItem (_ : Nat) (r : Ruleset) : Page :=
  lines [
    "",
    "    <li>",
    "      <a href=\"/rulesets/"] ++
  [.text r.id, .fixed "/edit\">", .text r.name] ++
  lines [
    "</a>",
    "      <a href=\""] ++
  [.address (Export.url r)] ++
  lines [
    "\">TSV</a>",
    "    </li>",
    "  "]

/-- The page of a project. -/
def projectDetail (user : User) (project : Project) (rulesets : List Ruleset) : Page :=
  layout project.name (some user)
    (lines [
      "",
      "<h1>"] ++
    [.text project.name] ++
    lines [
      "</h1>",
      ""] ++
    description project.description ++
    lines [
      "",
      "<h2>Models</h2>",
      "<table>",
      "  <tr><th>Name</th><th>Source</th><th>Preview</th></tr>",
      "  "] ++
    forEach project.models.items modelRow [] ++
    lines [
      "",
      "</table>",
      "<h2>Rulesets</h2>",
      "<p><a href=\"/rulesets/new?project_id="] ++
    [.query project.id] ++
    lines [
      "\">New ruleset</a></p>",
      "<ul>",
      "  "] ++
    forEach rulesets rulesetItem
      (lines [
        "",
        "    <li class=\"muted\">No rulesets yet.</li>",
        "  "]) ++
    lines [
      "",
      "</ul>",
      ""])
    []

end Rulebook.Page
