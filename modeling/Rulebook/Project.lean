import Rulebook.Json.Reading

/-!
# Projects on the platform

What the platform tells about projects, their models and the versions of a model. Every field may be
missing. Nothing of it is kept; it is fetched for a page and shown.
-/

namespace Rulebook

open Json (Decode Raw Record)

/-- One version of a model. -/
structure ModelVersion where
  sourceApplication : Option String
deriving DecidableEq

/-- A model within a project. -/
structure ProjectModel where
  id : String
  name : String
  description : Option String
  previewUrl : Option String
  versions : List ModelVersion
  totalCount : Nat
  cursor : Option String
deriving DecidableEq

/-- A page of the models of a project. -/
structure ModelPage where
  totalCount : Nat
  cursor : Option String
  items : List ProjectModel
deriving DecidableEq

/-- A project with a page of its models. -/
structure Project where
  id : String
  name : String
  description : Option String
  models : ModelPage
deriving DecidableEq

/-- A page of the projects of a user. -/
structure ProjectPage where
  totalCount : Nat
  cursor : Option String
  items : List Project
deriving DecidableEq

namespace ModelVersion

/-- A version as a value. -/
def toJson (v : ModelVersion) : Json :=
  .object [("sourceApplication", .ofText? v.sourceApplication)]

/-- A version read from a tree. -/
def read : Raw → Decode ModelVersion :=
  Record.read ["sourceApplication"] fun r =>
    ModelVersion.mk <$> r.orElse "sourceApplication" none (Raw.optional Raw.text)

/-- A list of versions read from its wrapping record. -/
def readList : Raw → Decode (List ModelVersion) :=
  Record.read ["items"] fun r => r.orElse "items" [] (Raw.list read)

end ModelVersion

namespace ProjectModel

/-- The application the newest version came from, where it is known. -/
def latestSource (m : ProjectModel) : Option String :=
  m.versions.head?.bind (·.sourceApplication)

/-- A model as a value. -/
def toJson (m : ProjectModel) : Json :=
  .object [("cursor", .ofText? m.cursor), ("description", .ofText? m.description),
    ("id", .string m.id), ("name", .string m.name), ("previewUrl", .ofText? m.previewUrl),
    ("totalCount", .ofNat m.totalCount),
    ("versions", .object [("items", .array (m.versions.map ModelVersion.toJson))])]

/-- A model read from a tree. -/
def read : Raw → Decode ProjectModel :=
  Record.read ["id", "name", "description", "previewUrl", "versions", "totalCount", "cursor"]
    fun r =>
      ProjectModel.mk <$> r.orElse "id" "" Raw.text <*> r.orElse "name" "" Raw.text
        <*> r.orElse "description" none (Raw.optional Raw.text)
        <*> r.orElse "previewUrl" none (Raw.optional Raw.text)
        <*> r.orElse "versions" [] ModelVersion.readList
        <*> r.orElse "totalCount" 0 Raw.nat64
        <*> r.orElse "cursor" none (Raw.optional Raw.text)

end ProjectModel

namespace ModelPage

/-- A page of models as a value. -/
def toJson (p : ModelPage) : Json :=
  .object [("cursor", .ofText? p.cursor), ("items", .array (p.items.map ProjectModel.toJson)),
    ("totalCount", .ofNat p.totalCount)]

/-- A page of models read from a tree. -/
def read : Raw → Decode ModelPage :=
  Record.read ["totalCount", "cursor", "items"] fun r =>
    ModelPage.mk <$> r.orElse "totalCount" 0 Raw.nat64
      <*> r.orElse "cursor" none (Raw.optional Raw.text)
      <*> r.orElse "items" [] (Raw.list ProjectModel.read)

/-- The page that holds nothing. -/
def empty : ModelPage :=
  ⟨0, none, []⟩

end ModelPage

namespace Project

/-- A project as a value. -/
def toJson (p : Project) : Json :=
  .object [("description", .ofText? p.description), ("id", .string p.id),
    ("models", p.models.toJson), ("name", .string p.name)]

/-- A project read from a tree. -/
def read : Raw → Decode Project :=
  Record.read ["id", "name", "description", "models"] fun r =>
    Project.mk <$> r.orElse "id" "" Raw.text <*> r.orElse "name" "" Raw.text
      <*> r.orElse "description" none (Raw.optional Raw.text)
      <*> r.orElse "models" ModelPage.empty ModelPage.read

end Project

namespace ProjectPage

/-- A page of projects as a value. -/
def toJson (p : ProjectPage) : Json :=
  .object [("cursor", .ofText? p.cursor), ("items", .array (p.items.map Project.toJson)),
    ("totalCount", .ofNat p.totalCount)]

/-- A page of projects read from a tree. -/
def read : Raw → Decode ProjectPage :=
  Record.read ["totalCount", "cursor", "items"] fun r =>
    ProjectPage.mk <$> r.orElse "totalCount" 0 Raw.nat64
      <*> r.orElse "cursor" none (Raw.optional Raw.text)
      <*> r.orElse "items" [] (Raw.list Project.read)

/-- The page that holds nothing. -/
def empty : ProjectPage :=
  ⟨0, none, []⟩

end ProjectPage

end Rulebook
