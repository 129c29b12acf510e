import ApiSpec.Document.Basic
import ApiSpec.Schema.Generator
import ApiSpec.Extract.Controller
import ApiSpec.Route.Path
import ApiSpec.Text.Case

/-!
# Building the document

The path of a route joins, with versioning on, the version prefix, the controller's version,
its base path and the route path; a controller without a version takes the fallback prefix
instead (when it is not blank). Otherwise the global prefix stands first. `:name` segments
become `{name}`.

Operations are added controller by controller, route by route; a second operation on the same
path and method replaces the first, with a warning. The summary is the route's first doc line,
else `METHOD path`; the operation id is `Controller_route`; the tag is the controller's
category. A body is sent only with `POST`, `PUT` and `PATCH`. Security is asked for unless it
is off or the route is public.

Tags are the sorted categories, each described by the first line of the first documented
controller in it, else `<category> related endpoints`. Servers are the configured ones; else,
with versioning on, one per version (or one for the fallback prefix); else one for a global
prefix that is not only slashes; and when there is still none, the base URL or `/`.
-/

namespace ApiSpec

/-- The OpenAPI path of a route of a controller. -/
def routePath (cfg : Config) (c : ControllerDescriptor) (r : RouteDescriptor) : String :=
  let v := cfg.versioning
  let fallback := v.fallback.filter fun f => Text.trim f ≠ ""
  let plain := combinePaths [cfg.globalPrefix, c.basePath, r.path]
  let combined :=
    if v.enabled then
      match c.version, fallback with
      | some ver, _ => combinePaths [v.prefix_, ver, c.basePath, r.path]
      | none, some fb => combinePaths [fb, c.basePath, r.path]
      | none, none => plain
    else plain
  convertPathFormat combined

/-- Sets the item of a path in a list sorted by path. -/
def setPathItem (path : String) (item : PathItem) : List (String × PathItem) → List (String × PathItem)
  | [] => [(path, item)]
  | (k, v) :: rest =>
    if path < k then (path, item) :: (k, v) :: rest
    else if path == k then (path, item) :: rest
    else (k, v) :: setPathItem path item rest

/-- Records a warning of the builder. -/
def warnDuplicate (m : HttpMethod) (path : String) : SchemaM Unit :=
  SchemaGen.warn (.duplicateOperation m path)

/-- Adds the operation of a route to the paths. -/
def addRoute (arena : Arena) (cfg : Config) (c : ControllerDescriptor) (r : RouteDescriptor)
    (paths : List (String × PathItem)) : SchemaM (List (String × PathItem)) := do
  let path := routePath cfg c r
  let parameters ← r.parameters.mapM fun p => do
    return ({ name := p.name, location := p.location, required := p.required,
              schema := ← SchemaGen.generate arena p.type } : Parameter)
  let requestBody ← match r.requestBody with
    | some b => if r.method.isMutating then some <$> SchemaGen.generate arena b else pure none
    | none => pure none
  let response ← match r.response with
    | some t => some <$> SchemaGen.generate arena t
    | none => pure none
  let op : Operation :=
    { tags := if c.category.isEmpty then [] else [c.category]
      summary := r.docs.getD (r.method.upperName ++ " " ++ path)
      operationId := c.name ++ "_" ++ r.name
      parameters, requestBody, response
      secured := cfg.includeSecurity && !r.isPublic
      guards := c.guards ++ r.guards }
  let item := ((paths.find? (·.1 == path)).map (·.2)).getD PathItem.empty
  if (item.operation? r.method).isSome then warnDuplicate r.method path
  return setPathItem path (item.set r.method op) paths

/-- The first line of a doc comment, when it has one. -/
def docHead (docs : String) : Option String :=
  if docs.isEmpty then none else some (String.ofList (docs.toList.takeWhile (· != '\n')))

/-- The tags of the controllers' categories. -/
def documentTags (cs : List ControllerDescriptor) : List Tag :=
  (sortedCategories (cs.map (·.category))).map fun cat =>
    let head := (cs.filter (·.category == cat)).findSome? fun c => c.docs.bind docHead
    let described := (head.map Text.trim).filter (· ≠ "")
    ⟨cat, some (described.getD (cat ++ " related endpoints"))⟩

/-- The servers of the document. -/
def documentServers (cs : List ControllerDescriptor) (cfg : Config) : List Server :=
  if !cfg.servers.isEmpty then cfg.servers.map fun s => ⟨s.url, s.description⟩
  else
    let v := cfg.versioning
    let found : List Server :=
      if v.enabled then
        let versions := (cs.filterMap (·.version)).foldl (fun acc x => insertSorted x acc) []
        if !versions.isEmpty then
          versions.map fun ver => ⟨combinePaths [v.prefix_, ver], some ("API " ++ Text.upper ver)⟩
        else
          match v.fallback.filter fun f => Text.trim f ≠ "" with
          | some fb => [⟨combinePaths [fb], some "API (unversioned)"⟩]
          | none => []
      else if Text.trimBy (· == '/') cfg.globalPrefix ≠ "" then
        [⟨combinePaths [cfg.globalPrefix], some "API"⟩]
      else []
    if !found.isEmpty then found
    else
      match cfg.baseUrl with
      | some u => [⟨u, some "Configured base URL"⟩]
      | none => [⟨"/", some "Relative to the host"⟩]

/-- The document of the controllers, their named types in `arena`. -/
def buildDocument (arena : Arena) (cfg : Config) (cs : List ControllerDescriptor) : SchemaM Document := do
  let paths ← cs.foldlM (fun acc c => c.routes.foldlM (fun acc r => addRoute arena cfg c r acc) acc) []
  return { info := cfg.info, servers := documentServers cs cfg, tags := documentTags cs, paths,
           schemas := (← get).schemas, security := cfg.includeSecurity }

end ApiSpec
