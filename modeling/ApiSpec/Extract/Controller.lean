import ApiSpec.Extract.Route
import ApiSpec.Category
import ApiSpec.Route.Path

/-!
# Controllers of a model

A class is a controller when one of its annotations plays `controller`; the first such
annotation gives the base path, a string literal. Its category is that of the module that
lists it (the module's name without `Module`, in title case), else the one the path heuristic
infers from its file; its version is the first `/vN/` directory of its file.

The classes are visited file by file, in declaration order. A controller whose base path or
route path is not a literal is skipped with a warning; the category heuristic's fault stops the
whole extraction.
-/

namespace ApiSpec

/-- A controller with its routes. -/
structure ControllerDescriptor where
  name : String
  basePath : String
  sourcePath : String
  category : String
  version : Option String
  docs : Option String
  routes : List RouteDescriptor
  guards : List String
  deriving Repr, Inhabited

/-- The first annotation of a class that plays `controller`. -/
def controllerMark? (cls : Classifier) (c : ClassDecl) : Option Annotation :=
  c.annotations.find? fun a => cls.plays a.name .controller

/-- The category of a controller: its module's, else the path heuristic's. -/
def categoryOf (model : Manifest) (h : PathHeuristic) (u : SourceFile) (c : ClassDecl) :
    Except StripFault String :=
  match model.owningModule? c.name with
  | some m => .ok (moduleCategory m.name)
  | none => h.infer u.path

/-- Extraction over the resolver, stopped by a fault of the category heuristic. -/
abbrev ScanM := ExceptT StripFault ResolveM

/-- Records that a controller was skipped. -/
def skipController (e : ExtractionError) : ResolveM Unit :=
  Resolver.warn (.skippedController e.className e.text)

/-- The controllers among the given classes, each with the file declaring it. -/
def controllersFrom (env : ResolverEnv) (cls : Classifier) (h : PathHeuristic) :
    List (SourceFile × ClassDecl) → ScanM (List ControllerDescriptor)
  | [] => pure []
  | (u, c) :: rest =>
    match controllerMark? cls c with
    | none => controllersFrom env cls h rest
    | some a =>
      match literalPath a with
      | .error e => do
        skipController ⟨c.name, "non-literal base path argument: " ++ e⟩
        controllersFrom env cls h rest
      | .ok basePath =>
        match categoryOf env.model h u c with
        | .error f => throw f
        | .ok category => do
          match ← (routesOf env cls c).run with
          | .error e =>
            skipController e
            controllersFrom env cls h rest
          | .ok routes =>
            let d : ControllerDescriptor :=
              { name := c.name, basePath, sourcePath := u.path, category,
                version := inferVersion u.path, docs := c.docs, routes,
                guards := guardArguments cls c.annotations }
            let tail ← controllersFrom env cls h rest
            return d :: tail

/-- The controllers of the model, in file and declaration order. -/
def extractControllers (env : ResolverEnv) (cls : Classifier) (h : PathHeuristic) :
    ScanM (List ControllerDescriptor) :=
  controllersFrom env cls h (env.model.units.flatMap fun u => u.classes.map (u, ·))

/-- Renames the categories of controllers by a mapping. -/
def applyCategoryMapping (mapping : CategoryMapping) (cs : List ControllerDescriptor) :
    List ControllerDescriptor :=
  cs.map fun c => { c with category := mapping.apply c.category }

end ApiSpec
