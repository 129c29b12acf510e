import ApiSpec.Resolve.Resolver
import ApiSpec.Role
import ApiSpec.Text.Basic

/-!
# Routes of a controller

A method of a controller is a route when one of its annotations plays an HTTP verb; the first
such annotation gives the verb and the path (its first argument, which must be a string
literal; no argument is the empty path). A parameter is a route parameter when one of its
annotations plays a parameter location; its name is the annotation's first argument when that
is a non-empty string literal, else the parameter's own name, and it is required when it is in
the path or not optional. The request body is the first parameter playing `body`, and the
response the return type, each resolved as a body. The guards are the arguments of every
annotation playing `guard`, or its name when it has none. A route is public when one of its
annotations plays `public`, or the controller's does.

A path argument that is not a string literal stops the controller: `ExtractM` carries that
error over the resolver, and whatever the resolver recorded before it stays recorded.
-/

namespace ApiSpec

/-- A parameter of a route. -/
structure ParameterDescriptor where
  name : String
  location : ParamLocation
  type : Descriptor
  required : Bool
  deriving Repr, Inhabited

/-- A route of a controller. -/
structure RouteDescriptor where
  name : String
  method : HttpMethod
  path : String
  docs : Option String
  parameters : List ParameterDescriptor
  requestBody : Option Descriptor
  response : Option Descriptor
  guards : List String
  isPublic : Bool
  deriving Repr, Inhabited

/-- Why a class could not be described as a controller. -/
structure ExtractionError where
  className : String
  message : String
  deriving Repr, Inhabited

/-- The error as it is reported. -/
def ExtractionError.text (e : ExtractionError) : String :=
  "cannot extract controller " ++ e.className ++ ": " ++ e.message

/-- Extraction over the resolver: an error keeps what the resolver recorded before it. -/
abbrev ExtractM := ExceptT ExtractionError ResolveM

/-- The path of a controller or route annotation: its first argument, a string literal; the
text of any other expression is the error. -/
def literalPath (a : Annotation) : Except String String :=
  match a.args with
  | [] => .ok ""
  | .literal p :: _ => .ok p
  | .expr e :: _ => .error e

/-- The guards named by annotations playing `guard`. -/
def guardArguments (cls : Classifier) (anns : List Annotation) : List String :=
  (anns.filter fun a => cls.plays a.name .guard).flatMap fun a =>
    if a.args.isEmpty then [a.name] else a.args.map AnnotationArg.text

/-- The first non-blank line of a doc comment, trimmed. -/
def firstLine (docs : String) : Option String :=
  ((Text.splitOn "\n" docs).map Text.trim).find? (· ≠ "")

/-- Whether one of the annotations plays the role. -/
def Classifier.anyPlays (cls : Classifier) (anns : List Annotation) (r : Role) : Bool :=
  anns.any fun a => cls.plays a.name r

/-- The verb of a method, with the first annotation that plays one. -/
def routeVerb? (cls : Classifier) (m : MethodDecl) : Option (HttpMethod × Annotation) :=
  m.annotations.findSome? fun a => ((cls.classify a.name).bind Role.httpMethod?).map (·, a)

/-- The route parameter a method parameter stands for, if any. -/
def parameterOf (cls : Classifier) (model : Manifest) (p : ParamDecl) : Option ParameterDescriptor :=
  (p.annotations.findSome? fun a => ((cls.classify a.name).bind Role.location?).map (a, ·)).map
    fun (a, loc) =>
      let name := match a.args with
        | .literal n :: _ => if n.isEmpty then p.name else n
        | _ => p.name
      { name, location := loc, type := Resolver.parameterDescriptor model p.type,
        required := loc == .path || !p.optional }

/-- The route of a method with its verb and path. -/
def routeOf (env : ResolverEnv) (cls : Classifier) (m : MethodDecl) (verb : HttpMethod)
    (path : String) : ResolveM RouteDescriptor := do
  let parameters := m.params.filterMap (parameterOf cls env.model)
  let requestBody ← match m.params.find? fun p => cls.anyPlays p.annotations .body with
    | some p => Resolver.resolveBody env p.type
    | none => pure none
  let response ← match m.returns with
    | some t => Resolver.resolveBody env t
    | none => pure none
  return { name := m.name, method := verb, path, docs := m.docs.bind firstLine, parameters,
           requestBody, response, guards := guardArguments cls m.annotations,
           isPublic := cls.anyPlays m.annotations .publicAccess }

/-- The routes of the given methods of a class, in order. -/
def routesFrom (env : ResolverEnv) (cls : Classifier) (c : ClassDecl) (classPublic : Bool) :
    List MethodDecl → ExtractM (List RouteDescriptor)
  | [] => pure []
  | m :: rest =>
    match routeVerb? cls m with
    | none => routesFrom env cls c classPublic rest
    | some (verb, a) =>
      match literalPath a with
      | .error e =>
        throw ⟨c.name, "route " ++ m.name ++ " has a non-literal path argument: " ++ e⟩
      | .ok path => do
        let r ← routeOf env cls m verb path
        let tail ← routesFrom env cls c classPublic rest
        return { r with isPublic := r.isPublic || classPublic } :: tail

/-- The routes of a controller class. -/
def routesOf (env : ResolverEnv) (cls : Classifier) (c : ClassDecl) : ExtractM (List RouteDescriptor) :=
  routesFrom env cls c (cls.anyPlays c.annotations .publicAccess) c.methods

end ApiSpec
