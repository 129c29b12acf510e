import ApiSpec.Http
import ApiSpec.Text.Case

/-!
# Roles of annotations

The extractors never look at an annotation's name itself: a `Classifier` says which `Role`
the name plays. Names compare in normal form, lower-cased without `_` or `-`, so
`UseGuards`, `use_guards` and `use-guards` are one name. The default vocabulary knows the
usual names of controllers, modules, the HTTP verbs, parameter sources, bodies, guards and
public routes; configured overrides replace or add entries.
-/

namespace ApiSpec

/-- What an annotation means. -/
inductive Role where
  | controller
  | module
  | get
  | post
  | put
  | patch
  | delete
  | options
  | head
  | pathParam
  | queryParam
  | headerParam
  | body
  | guard
  | publicAccess
  deriving DecidableEq, Repr, Inhabited

namespace Role

/-- All roles with their names, in declaration order. -/
def named : List (String × Role) :=
  [("controller", .controller), ("module", .module), ("get", .get), ("post", .post),
    ("put", .put), ("patch", .patch), ("delete", .delete), ("options", .options),
    ("head", .head), ("path_param", .pathParam), ("query_param", .queryParam),
    ("header_param", .headerParam), ("body", .body), ("guard", .guard), ("public", .publicAccess)]

/-- The snake-case name of a role. -/
def name (r : Role) : String := ((named.find? (·.2 == r)).map (·.1)).getD ""

/-- The HTTP method a verb role binds. -/
def httpMethod? : Role → Option HttpMethod
  | .get => some .get
  | .post => some .post
  | .put => some .put
  | .patch => some .patch
  | .delete => some .delete
  | .options => some .options
  | .head => some .head
  | _ => none

/-- The location a parameter role reads from. -/
def location? : Role → Option ParamLocation
  | .pathParam => some .path
  | .queryParam => some .query
  | .headerParam => some .header
  | _ => none

end Role

/-- The normal form of an annotation name: no `_` or `-`, each character lower-cased. -/
def normalizeName (name : String) : String :=
  String.ofList ((name.toList.filter fun c => c != '_' && c != '-').flatMap Text.lowerChar)

/-- Names in normal form with their roles; a later entry of a name replaces an earlier one. -/
structure Classifier where
  entries : List (String × Role)
  deriving Inhabited

namespace Classifier

/-- Adds or replaces the role of a name. -/
def withRole (c : Classifier) (name : String) (r : Role) : Classifier :=
  let key := normalizeName name
  if c.entries.any (·.1 == key) then ⟨c.entries.map fun (k, v) => if k == key then (k, r) else (k, v)⟩
  else ⟨c.entries ++ [(key, r)]⟩

/-- The default vocabulary. -/
def standard : Classifier :=
  [("controller", Role.controller), ("module", .module), ("get", .get), ("post", .post),
    ("put", .put), ("patch", .patch), ("delete", .delete), ("options", .options),
    ("head", .head), ("param", .pathParam), ("path", .pathParam), ("query", .queryParam),
    ("header", .headerParam), ("headers", .headerParam), ("body", .body),
    ("use_guards", .guard), ("guard", .guard), ("roles", .guard), ("public", .publicAccess),
    ("skip_auth", .publicAccess), ("allow_anonymous", .publicAccess)].foldl
    (fun c (n, r) => c.withRole n r) ⟨[]⟩

/-- The default vocabulary with overrides applied in order. -/
def withOverrides (c : Classifier) (overrides : List (String × Role)) : Classifier :=
  overrides.foldl (fun c (n, r) => c.withRole n r) c

/-- The role of a name, if known. -/
def classify (c : Classifier) (name : String) : Option Role :=
  let key := normalizeName name
  (c.entries.find? (·.1 == key)).map (·.2)

/-- Whether the name plays the role. -/
def plays (c : Classifier) (name : String) (r : Role) : Bool := c.classify name == some r

end Classifier

end ApiSpec
