import ApiSpec.Extract.Controller
import ApiSpec.Resolve.Json

/-!
# Controllers as JSON

Every field is written, with `null` for what is absent; descriptors as in `Resolve.Json`.
-/

namespace ApiSpec

/-- A route parameter as JSON. -/
def ParameterDescriptor.toJson (p : ParameterDescriptor) : Json :=
  .object [("name", .string p.name), ("location", .string p.location.name), ("type", p.type.toJson),
    ("required", .bool p.required)]

/-- A route as JSON. -/
def RouteDescriptor.toJson (r : RouteDescriptor) : Json :=
  .object [("name", .string r.name), ("method", .string r.method.name), ("path", .string r.path),
    ("docs", Json.optString r.docs), ("parameters", .array (r.parameters.map ParameterDescriptor.toJson)),
    ("request_body", Descriptor.optJson r.requestBody), ("response", Descriptor.optJson r.response),
    ("guards", Json.strings r.guards), ("is_public", .bool r.isPublic)]

/-- A controller as JSON. -/
def ControllerDescriptor.toJson (c : ControllerDescriptor) : Json :=
  .object [("name", .string c.name), ("base_path", .string c.basePath),
    ("source_path", .string c.sourcePath), ("category", .string c.category),
    ("version", Json.optString c.version), ("docs", Json.optString c.docs),
    ("guards", Json.strings c.guards), ("routes", .array (c.routes.map RouteDescriptor.toJson))]

end ApiSpec
