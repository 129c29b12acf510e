import ApiSpec.Role
import ApiSpec.Category
import ApiSpec.Decode.Basic

/-!
# Generator configuration

Every field has a default, so an empty document is a valid configuration: the title
`Generated API`, version `1.0.0`, a description, no source root or prefix, versioning off,
no servers, security on, the usual wrapper types (`Promise`, `Json`, `Result`, `Box` and the
like), the usual artifact directories, and examples on. A configuration is valid when its
title is not blank and no server's url is blank.
-/

namespace ApiSpec

/-- The document's `info`. -/
structure InfoConfig where
  title : String
  version : String
  description : Option String
  deriving Repr, Inhabited

/-- How versions enter paths. -/
structure VersioningConfig where
  enabled : Bool
  prefix_ : String
  fallback : Option String
  deriving Repr, Inhabited

/-- An explicit server. -/
structure ServerConfig where
  url : String
  description : Option String
  deriving Repr, Inhabited

/-- Everything the generator can be told. -/
structure Config where
  info : InfoConfig
  sourceRoot : Option String
  globalPrefix : String
  versioning : VersioningConfig
  servers : List ServerConfig
  baseUrl : Option String
  categoryMapping : CategoryMapping
  includeSecurity : Bool
  annotations : List (String × Role)
  wrapperTypes : List String
  artifactDirs : List String
  examples : Bool
  deriving Repr, Inhabited

/-- Generic types that stand for their first argument. -/
def defaultWrappers : List String :=
  ["Promise", "Future", "BoxFuture", "Observable", "Json", "Result", "Box", "Arc", "Rc", "Cow"]

/-- The default `info`. -/
def InfoConfig.standard : InfoConfig :=
  ⟨"Generated API", "1.0.0", some "API documentation generated from source"⟩

/-- Versioning off. -/
def VersioningConfig.standard : VersioningConfig := ⟨false, "", none⟩

/-- The default configuration. -/
def Config.standard : Config where
  info := InfoConfig.standard
  sourceRoot := none
  globalPrefix := ""
  versioning := VersioningConfig.standard
  servers := []
  baseUrl := none
  categoryMapping := []
  includeSecurity := true
  annotations := []
  wrapperTypes := defaultWrappers
  artifactDirs := defaultArtifactDirs
  examples := true

/-- Why a configuration is not valid. -/
inductive ConfigProblem where
  | emptyTitle
  /-- A server with a blank url, by its description (empty when it has none). -/
  | emptyServerUrl (description : String)
  deriving Repr

/-- The wording of a problem. -/
def ConfigProblem.message : ConfigProblem → String
  | .emptyTitle => "invalid configuration: info.title must not be empty"
  | .emptyServerUrl d => "invalid configuration: server " ++ Text.debugQuote d ++ " has an empty url"

namespace Config

/-- Checks the title, then the servers in order. -/
def validate (c : Config) : Except ConfigProblem Unit :=
  if Text.trim c.info.title = "" then .error .emptyTitle
  else match c.servers.find? (fun s => Text.trim s.url = "") with
    | some s => .error (.emptyServerUrl (s.description.getD ""))
    | none => .ok ()

/-- The default vocabulary with the configured overrides. -/
def classifier (c : Config) : Classifier := Classifier.standard.withOverrides c.annotations

/-- The heuristic for categories. -/
def pathHeuristic (c : Config) : PathHeuristic := PathHeuristic.make c.sourceRoot c.artifactDirs

end Config

/-! ### Reading -/

open Decode

/-- A role by its snake-case name. -/
def Role.decode : Decoder Role := unitEnum "AnnotationRole" Role.named

/-- `info`. -/
def InfoConfig.decode : Decoder InfoConfig :=
  record "InfoConfig" InfoConfig.standard [
    optionalField "title" string fun v r => { r with title := v },
    optionalField "version" string fun v r => { r with version := v },
    optionalField "description" (option string) fun v r => { r with description := v }]

/-- `versioning`. -/
def VersioningConfig.decode : Decoder VersioningConfig :=
  record "VersioningConfig" ⟨false, "", none⟩ [
    optionalField "enabled" bool fun v r => { r with enabled := v },
    optionalField "prefix" string fun v r => { r with prefix_ := v },
    optionalField "fallback" (option string) fun v r => { r with fallback := v }]

/-- A server. -/
def ServerConfig.decode : Decoder ServerConfig :=
  record "ServerConfig" ⟨"", none⟩ [
    requiredField "url" string fun v r => { r with url := v },
    optionalField "description" (option string) fun v r => { r with description := v }]

/-- A configuration; missing fields take their defaults. -/
def Config.decode : Decoder Config :=
  record "GeneratorConfig" Config.standard [
    optionalField "info" InfoConfig.decode fun v r => { r with info := v },
    optionalField "source_root" (option string) fun v r => { r with sourceRoot := v },
    optionalField "global_prefix" string fun v r => { r with globalPrefix := v },
    optionalField "versioning" VersioningConfig.decode fun v r => { r with versioning := v },
    optionalField "servers" (list ServerConfig.decode) fun v r => { r with servers := v },
    optionalField "base_url" (option string) fun v r => { r with baseUrl := v },
    optionalField "category_mapping" (stringMap string) fun v r => { r with categoryMapping := v },
    optionalField "include_security" bool fun v r => { r with includeSecurity := v },
    optionalField "annotations" (stringMap Role.decode) fun v r => { r with annotations := v },
    optionalField "wrapper_types" (list string) fun v r => { r with wrapperTypes := v },
    optionalField "artifact_dirs" (list string) fun v r => { r with artifactDirs := v },
    optionalField "examples" bool fun v r => { r with examples := v }]

/-! ### Writing -/

/-- A configuration as JSON, every field written. -/
def Config.toJson (c : Config) : Json :=
  .object [
    ("info", .object [("title", .string c.info.title), ("version", .string c.info.version),
      ("description", Json.optString c.info.description)]),
    ("source_root", Json.optString c.sourceRoot),
    ("global_prefix", .string c.globalPrefix),
    ("versioning", .object [("enabled", .bool c.versioning.enabled),
      ("prefix", .string c.versioning.prefix_), ("fallback", Json.optString c.versioning.fallback)]),
    ("servers", .array (c.servers.map fun s =>
      .object ([("url", .string s.url)] ++ (match s.description with
        | some d => [("description", .string d)]
        | none => [])))),
    ("base_url", Json.optString c.baseUrl),
    ("category_mapping", .object (c.categoryMapping.map fun (k, v) => (k, .string v))),
    ("include_security", .bool c.includeSecurity),
    ("annotations", .object (c.annotations.map fun (k, r) => (k, .string r.name))),
    ("wrapper_types", Json.strings c.wrapperTypes),
    ("artifact_dirs", Json.strings c.artifactDirs),
    ("examples", .bool c.examples)]

end ApiSpec
