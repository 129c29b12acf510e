import ApiSpec.Resolve.Descriptor
import ApiSpec.Source.Json

/-!
# Descriptors, arenas and shapes as JSON

The descriptor of a primitive is `{"primitive": kind, "format": f}`, an array `{"array": d}`,
an enumeration `{"enum": {"name", "values"}}`, an object `{"object": {"name", "properties"}}`
and a reference `{"ref": identity}`. A field carries its constraints with the two flags
`required` and `optional` added. An arena is the list of its `[identity, descriptor]` pairs in
the order recorded. A shape writes the type expressions and properties inside it in full.
-/

namespace ApiSpec

/-- The constraints with both flags written. -/
def Constraints.toFlaggedJson (c : Constraints) : Json :=
  match c.toJson with
  | .object kvs => .object (kvs ++ [("required", .bool c.required), ("optional", .bool c.optional)])
  | j => j

namespace Descriptor

mutual

/-- The JSON of a descriptor. -/
def toJson : Descriptor → Json
  | .primitive k f => .object [("primitive", .string k.name), ("format", Json.optString f)]
  | .array elem => .object [("array", toJson elem)]
  | .enumeration name values =>
    .object [("enum", .object [("name", Json.optString name), ("values", Json.strings values)])]
  | .object name fields =>
    .object [("object", .object [("name", Json.optString name), ("properties", .array (fieldsToJson fields))])]
  | .reference identity => .object [("ref", .string identity)]

/-- The JSON of each field. -/
def fieldsToJson : List Field → List Json
  | [] => []
  | f :: rest =>
    .object [("name", .string f.name), ("type", toJson f.type), ("required", .bool f.required),
      ("docs", Json.optString f.docs), ("constraints", f.constraints.toFlaggedJson),
      ("example", f.sample.getD .null)] :: fieldsToJson rest

end

end Descriptor

/-- The JSON of an optional descriptor: `null` for none. -/
def Descriptor.optJson : Option Descriptor → Json := Json.opt Descriptor.toJson

/-- The arena as `[identity, descriptor]` pairs. -/
def Arena.toJson (a : Arena) : Json :=
  .array (a.entries.map fun (k, d) => .array [.string k, d.toJson])

/-- The JSON of a shape. -/
def Shape.toJson : Shape → Json
  | .void => .string "void"
  | .null => .string "null"
  | .primitive name => .object [("primitive", .string name)]
  | .array elem => .object [("array", elem.toJson)]
  | .enumeration name values =>
    .object [("enum", .object [("name", Json.optString name), ("values", Json.strings values)])]
  | .union name members =>
    .object [("union", .object [("name", Json.optString name), ("members", .array (members.map TypeExpr.toJson))])]
  | .generic name args =>
    .object [("generic", .object [("name", .string name), ("args", .array (args.map TypeExpr.toJson))])]
  | .object name bindings props =>
    .object [("object", .object [("name", Json.optString name),
      ("bindings", .array (bindings.map fun (p, t) => .array [.string p, t.toJson])),
      ("properties", .array (props.map PropertyDecl.toJson))])]
  | .unknown text => .object [("unknown", .string text)]

end ApiSpec
