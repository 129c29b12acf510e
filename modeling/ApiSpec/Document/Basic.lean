import ApiSpec.Schema.Basic
import ApiSpec.Config
import ApiSpec.Http

/-!
# The OpenAPI document

A document of version 3.0.3: its `info`, servers, tags, paths (sorted), and the components
(the schemas, sorted by name, and the bearer security scheme when security is on).

Each operation answers `200` (with the response schema, when there is one), `400`, `401` and
`500`; a request body is always required and always JSON. A path item holds at most one
operation per method, written in the order get, post, put, patch, delete, options, head.
Empty lists of tags, parameters and guards are not written, nor are absent descriptions.
-/

namespace ApiSpec

/-- A server of the document. -/
structure Server where
  url : String
  description : Option String
  deriving Repr, Inhabited

/-- A tag of the document. -/
structure Tag where
  name : String
  description : Option String
  deriving Repr, Inhabited

/-- A parameter of an operation. -/
structure Parameter where
  name : String
  location : ParamLocation
  required : Bool
  schema : Schema
  deriving Repr, Inhabited

/-- An operation on a path. -/
structure Operation where
  tags : List String
  summary : String
  operationId : String
  parameters : List Parameter
  requestBody : Option Schema
  response : Option Schema
  /-- Whether the operation asks for the bearer scheme. -/
  secured : Bool
  guards : List String
  deriving Repr, Inhabited

/-- The operations on one path, by method. -/
structure PathItem where
  operations : List (HttpMethod × Operation)
  deriving Repr, Inhabited

namespace PathItem

/-- No operations. -/
def empty : PathItem := ⟨[]⟩

/-- The operation of a method. -/
def operation? (p : PathItem) (m : HttpMethod) : Option Operation :=
  (p.operations.find? (·.1 == m)).map (·.2)

/-- Sets the operation of a method, replacing one there. -/
def set (p : PathItem) (m : HttpMethod) (op : Operation) : PathItem :=
  ⟨(m, op) :: p.operations.filter (·.1 != m)⟩

end PathItem

/-- An OpenAPI document. -/
structure Document where
  info : InfoConfig
  servers : List Server
  tags : List Tag
  /-- The path items, sorted by path. -/
  paths : List (String × PathItem)
  /-- The component schemas, sorted by name. -/
  schemas : List (String × Schema)
  /-- Whether the bearer security scheme is declared. -/
  security : Bool
  deriving Inhabited

/-- The operation of a path and method, if the document has one. -/
def Document.operation? (d : Document) (path : String) (m : HttpMethod) : Option Operation :=
  ((d.paths.find? (·.1 == path)).map (·.2)).bind (·.operation? m)

/-! ### As JSON -/

/-- A field when the value is present. -/
def optField (k : String) : Option Json → List (String × Json)
  | some j => [(k, j)]
  | none => []

/-- A JSON body with a schema. -/
def jsonContent (s : Schema) : Json := .object [("application/json", .object [("schema", s.toJson)])]

/-- A server as JSON. -/
def Server.toJson (s : Server) : Json :=
  .object ([("url", .string s.url)] ++ optField "description" (s.description.map .string))

/-- A tag as JSON. -/
def Tag.toJson (t : Tag) : Json :=
  .object ([("name", .string t.name)] ++ optField "description" (t.description.map .string))

/-- A parameter as JSON. -/
def Parameter.toJson (p : Parameter) : Json :=
  .object [("name", .string p.name), ("in", .string p.location.name), ("required", .bool p.required),
    ("schema", p.schema.toJson)]

/-- The answers of an operation. -/
def responsesJson (response : Option Schema) : Json :=
  .object [
    ("200", .object ([("description", .string "Successful response")] ++
      optField "content" (response.map jsonContent))),
    ("400", .object [("description", .string "Bad request")]),
    ("401", .object [("description", .string "Unauthorized")]),
    ("500", .object [("description", .string "Internal server error")])]

/-- The name of the security scheme. -/
def bearerScheme : String := "bearerAuth"

/-- An operation as JSON. -/
def Operation.toJson (op : Operation) : Json :=
  .object (
    (if op.tags.isEmpty then [] else [("tags", Json.strings op.tags)]) ++
    [("summary", .string op.summary), ("operationId", .string op.operationId)] ++
    (if op.parameters.isEmpty then [] else [("parameters", .array (op.parameters.map Parameter.toJson))]) ++
    optField "requestBody" (op.requestBody.map fun s =>
      .object [("required", .bool true), ("content", jsonContent s)]) ++
    [("responses", responsesJson op.response)] ++
    (if op.secured then [("security", .array [.object [(bearerScheme, .array [])]])] else []) ++
    (if op.guards.isEmpty then [] else [("x-guards", Json.strings op.guards)]))

/-- A path item as JSON. -/
def PathItem.toJson (p : PathItem) : Json :=
  .object (HttpMethod.all.filterMap fun m => (p.operation? m).map fun op => (m.name, op.toJson))

/-- The document as JSON. -/
def Document.toJson (d : Document) : Json :=
  let components :=
    (if d.schemas.isEmpty then [] else [("schemas", .object (Schema.fieldsToJson d.schemas))]) ++
    (if d.security then
      [("securitySchemes", .object [(bearerScheme, .object [("type", .string "http"),
        ("scheme", .string "bearer"), ("bearerFormat", .string "JWT")])])]
    else [])
  .object ([("openapi", .string "3.0.3"),
    ("info", .object ([("title", .string d.info.title), ("version", .string d.info.version)] ++
      optField "description" (d.info.description.map .string))),
    ("servers", .array (d.servers.map Server.toJson)),
    ("tags", .array (d.tags.map Tag.toJson)),
    ("paths", .object (d.paths.map fun (k, p) => (k, p.toJson)))] ++
    (if components.isEmpty then [] else [("components", .object components)]))

end ApiSpec
