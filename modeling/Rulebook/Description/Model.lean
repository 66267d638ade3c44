import Rulebook.Json.Basic

/-!
# Descriptions of interfaces

What a description of an interface over HTTP is made of, and the document in the OpenAPI format
that it makes: bodies with their fields, operations with their parameters and answers, and what
they share.
-/

namespace Rulebook.Description

/-! ## Bodies -/

/-- What stands at a place of a body. -/
inductive Shape where
  | plain (type : String)
  | formatted (type format : String)
  | orNull (type : String)
  | body (name : String)
  | listOf (item : Shape)

/-- A field of a body. -/
structure Field where
  name : String
  shape : Shape
  required : Bool := true
  description : Option String := none
  sample : Option String := none
  usual : Option String := none

/-- A body: a record of fields, or one of a few words. -/
inductive Body where
  | record (description : String) (fields : List Field)
  | words (description : String) (allowed : List String)

/-- A member that is there if it has a value. -/
def member? (name : String) (value : Option Json) : List (String × Json) :=
  (value.map (name, ·)).toList

/-- A list of texts. -/
def texts (ss : List String) : Json :=
  .array (ss.map Json.string)

/-- Where the body of a name is described. -/
def reference (name : String) : List (String × Json) :=
  [("$ref", .string ("#/components/schemas/" ++ name))]

/-- The members of a shape. -/
def Shape.members : Shape → List (String × Json)
  | .plain type => [("type", .string type)]
  | .formatted type format => [("type", .string type), ("format", .string format)]
  | .orNull type => [("type", texts [type, "null"])]
  | .body name => reference name
  | .listOf item => [("type", .string "array"), ("items", Json.ofMembers item.members)]

/-- A field as a value. -/
def Field.toJson (f : Field) : Json :=
  Json.ofMembers (f.shape.members ++ member? "description" (f.description.map Json.string) ++
    member? "example" (f.sample.map Json.string) ++ member? "default" (f.usual.map Json.string))

/-- A body as a value. -/
def Body.toJson : Body → Json
  | .record description fields =>
    let required := (fields.filter Field.required).map Field.name
    Json.ofMembers ([("type", .string "object"), ("description", .string description),
      ("properties", Json.ofMembers (fields.map fun f => (f.name, f.toJson)))] ++
      member? "required" (if required.isEmpty then none else some (texts required)))
  | .words description allowed =>
    Json.ofMembers [("type", .string "string"), ("description", .string description),
      ("enum", texts allowed)]

/-! ## Operations -/

/-- A parameter, in the path or in the query; each is required. -/
structure Parameter where
  name : String
  inPath : Bool := true
  description : String

/-- An answer: its status, what it means and the body it has. -/
structure Answer where
  status : Nat
  description : String
  body : Option String := none

/-- An operation at a path. -/
structure Operation where
  path : String
  method : String
  name : String
  group : String
  summary : Option String := none
  parameters : List Parameter := []
  answers : List Answer

/-- A parameter as a value. -/
def Parameter.toJson (p : Parameter) : Json :=
  Json.ofMembers [("name", .string p.name), ("in", .string (if p.inPath then "path" else "query")),
    ("description", .string p.description), ("required", .bool true),
    ("schema", Json.ofMembers (Shape.plain "string").members)]

/-- An answer as a value. -/
def Answer.toJson (a : Answer) : Json :=
  Json.ofMembers (("description", .string a.description) ::
    member? "content" (a.body.map fun name =>
      .object [("application/json", .object [("schema", .object (reference name))])]))

/-- An operation as a value. -/
def Operation.toJson (o : Operation) : Json :=
  let parameters :=
    if o.parameters.isEmpty then none else some (.array (o.parameters.map Parameter.toJson))
  Json.ofMembers ([("tags", texts [o.group]), ("operationId", .string o.name),
    ("responses", Json.ofMembers (o.answers.map fun a => (toString a.status, a.toJson)))] ++
    member? "summary" (o.summary.map Json.string) ++ member? "parameters" parameters)

/-! ## Interfaces -/

/-- A cookie that lets its bearer in. -/
structure CookieKey where
  name : String
  cookie : String
  description : String

/-- A description of an interface. -/
structure Interface where
  title : String
  description : String
  version : String
  server : String
  serverDescription : String
  key : CookieKey
  groups : List (String × String)
  operations : List Operation
  bodies : List (String × Body)

/-- The operations at a path, by their methods. -/
def Interface.atPath (i : Interface) (path : String) : Json :=
  Json.ofMembers ((i.operations.filter (·.path = path)).map fun o => (o.method, o.toJson))

/-- An interface as a document. -/
def Interface.toJson (i : Interface) : Json :=
  let key := Json.ofMembers [("type", .string "apiKey"), ("in", .string "cookie"),
    ("name", .string i.key.cookie), ("description", .string i.key.description)]
  Json.ofMembers [
    ("openapi", .string "3.1.0"),
    ("info", Json.ofMembers [("title", .string i.title), ("description", .string i.description),
      ("license", .object [("name", .string "")]), ("version", .string i.version)]),
    ("servers", .array [Json.ofMembers [("url", .string i.server),
      ("description", .string i.serverDescription)]]),
    ("paths", Json.ofMembers (i.operations.map fun o => (o.path, i.atPath o.path))),
    ("components", Json.ofMembers [
      ("schemas", Json.ofMembers (i.bodies.map fun (name, body) => (name, body.toJson))),
      ("securitySchemes", .object [(i.key.name, key)])]),
    ("security", .array [.object [(i.key.name, .array [])]]),
    ("tags", .array (i.groups.map fun (name, description) =>
      Json.ofMembers [("name", .string name), ("description", .string description)]))]

end Rulebook.Description
