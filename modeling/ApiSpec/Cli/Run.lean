import ApiSpec.Cli.Parse
import ApiSpec.Cli.Host
import ApiSpec.Decode.Text
import ApiSpec.Source.Decode
import ApiSpec.Pipeline
import ApiSpec.Rust.Load
import ApiSpec.Yaml.Emit
import ApiSpec.Json.Text

/-!
# The command

A run of the command, over a file system:

1. the project path must name a directory;
2. the configuration is read from `--config` (JSON for a `.json` file, YAML otherwise, and
   the default for a YAML file of blanks), checked, given the overrides of `--title`,
   `--api-version` and `--prefix`, and checked again;
3. the model is read from `--manifest` the same way, or else from the project's Rust files:
   a walk in name order that skips hidden directories and `target`, `node_modules`, `dist`
   and `build`, keeping the files named `*.rs`; a file that does not parse is reported and
   left out, and each unit's path is made relative to the project;
4. a model without units is an error;
5. the document is generated and written as YAML or JSON, to `--output` (with the
   directories above it) or to standard output.

A failure is a chain of contexts, the outermost first and the cause last. The warnings of a
run are kept in the order they were raised.
-/

namespace ApiSpec

namespace Cli

/-- Why a run failed: the contexts from the outermost to the cause. -/
structure Failure where
  chain : List String
  deriving Repr, Inhabited

namespace Failure

/-- The contexts joined by `: `. -/
def text (f : Failure) : String := ": ".intercalate f.chain

/-- The report of a failed program: the outermost context, then the causes, numbered when
there are several. -/
def report (f : Failure) : List String :=
  match f.chain with
  | [] => ["Error: "]
  | [m] => ["Error: " ++ m]
  | m :: [c] => ["Error: " ++ m, "", "Caused by:", "    " ++ c]
  | m :: causes =>
    ["Error: " ++ m, "", "Caused by:"] ++
      ((List.range causes.length).zip causes).map fun (i, c) => "    " ++ toString i ++ ": " ++ c

end Failure

/-- What a run leaves besides its files: the warnings and the text printed. -/
structure Report where
  notices : List Notice
  printed : String
  deriving Inhabited

/-- A run of the command, in a monad `m` of effects. -/
abbrev CommandM (m : Type → Type) := ExceptT Failure (StateT Report m)

variable {m : Type → Type} [Monad m]

/-- Stops the run. -/
def fail {α : Type} (chain : List String) : CommandM m α := throw ⟨chain⟩

/-- Raises a warning. -/
def warn (n : Notice) : CommandM m Unit :=
  modify fun r => { r with notices := r.notices ++ [n] }

/-- Raises warnings. -/
def warnAll (ns : List Notice) : CommandM m Unit :=
  modify fun r => { r with notices := r.notices ++ ns }

/-- Prints a line. -/
def printLine (s : String) : CommandM m Unit :=
  modify fun r => { r with printed := r.printed ++ s ++ "\n" }

/-- Runs an effect of the file system. -/
def effect {α : Type} (x : m α) : CommandM m α := liftM (liftM x : StateT Report m α)

/-- Whether a path is read as JSON: its extension is exactly `json`. -/
def isJsonPath (p : String) : Bool := PathText.extension? p == some "json"

/-- Checks the project path: it must exist and be a directory. -/
def checkProject (fs : FileSystem m) (args : CliArgs) : m (Option Failure) := do
  match ← fs.kindOf args.projectPath with
  | .error _ => return some ⟨["Project path does not exist: " ++ args.projectPath]⟩
  | .ok .directory => return none
  | .ok _ => return some ⟨["Project path is not a directory: " ++ args.projectPath]⟩

/-- Reads a configuration file and checks it. -/
def loadConfig (fs : FileSystem m) (path : String) : CommandM m Config := do
  let text ← match ← effect (fs.readText path) with
    | .error e => fail ["Failed to read config file: " ++ path, e.message]
    | .ok t => pure t
  let decoded :=
    if isJsonPath path then (Decode.fromJsonText Config.decode text).mapError ("Invalid JSON config: " ++ path, ·)
    else if Text.trim text == "" then .ok Config.standard
    else (Decode.fromYaml Config.decode text).mapError ("Invalid YAML config: " ++ path, ·)
  let config ← match decoded with
    | .error (ctx, msg) => fail [ctx, msg]
    | .ok c => pure c
  match config.validate with
  | .error p => fail ["Invalid configuration in " ++ path, p.message]
  | .ok () => pure config

/-- The configuration of a run: the file's or the default, with the overrides. -/
def resolveConfig (fs : FileSystem m) (args : CliArgs) : CommandM m Config := do
  let config ← match args.configPath with
    | some p => loadConfig fs p
    | none => pure Config.standard
  let config := match args.title with
    | some t => { config with info := { config.info with title := t } }
    | none => config
  let config := match args.apiVersion with
    | some v => { config with info := { config.info with version := v } }
    | none => config
  let config := match args.globalPrefix with
    | some p => { config with globalPrefix := p }
    | none => config
  match config.validate with
  | .error p => fail [p.message]
  | .ok () => pure config

/-- Reads a manifest file. -/
def loadManifest (fs : FileSystem m) (path : String) : CommandM m Manifest := do
  let text ← match ← effect (fs.readText path) with
    | .error e => fail ["Failed to read source manifest: " ++ path, e.message]
    | .ok t => pure t
  let decoded :=
    if isJsonPath path then (Decode.fromJsonText Manifest.decode text).mapError ("Invalid JSON manifest: " ++ path, ·)
    else (Decode.fromYaml Manifest.decode text).mapError ("Invalid YAML manifest: " ++ path, ·)
  match decoded with
  | .error (ctx, msg) => fail [ctx, msg]
  | .ok t => pure t

/-- Directories a scan never enters. -/
def excludedDirs : List String := ["target", "node_modules", "dist", "build"]

/-- Whether a scan enters a directory of this name: not hidden, not excluded. -/
def entersDir (name : String) : Bool := !name.startsWith "." && !excludedDirs.contains name

/-- How deep a scan goes. -/
def scanDepth : Nat := 4096

/-- The paths of the Rust files of a project, in the order of the walk. -/
def scanFiles (fs : FileSystem m) (root : String) : CommandM m (List String) := do
  if let .error e := ← effect (fs.entries root) then
    fail ["Cannot read project root: " ++ root, e.message]
  let visits ← effect (fs.walk entersDir scanDepth root)
  let mut found := []
  for v in visits do
    match v with
    | .failed p e =>
      warn (.walk ("Failed to access path: IO error for operation on " ++ p ++ ": " ++ e.message))
    | .entry p =>
      if PathText.extension? p == some "rs" then
        if ← effect (fs.isFile p) then found := found ++ [p]
  return found

/-- Reads and parses the files, reporting those that fail. -/
def parseFiles (fs : FileSystem m) (paths : List String) : CommandM m (List (String × Rust.File)) := do
  let mut parsed := []
  for p in paths do
    match ← effect (fs.readText p) with
    | .error e => warn (.unparsedFile p ("Failed to read file: " ++ p ++ ": " ++ e.message))
    | .ok text =>
      match Rust.parseFile text with
      | .error msg =>
        warn (.unparsedFile p ("Failed to parse Rust syntax in file: " ++ p ++ ": parse error in " ++
          p ++ ": " ++ msg))
      | .ok f => parsed := parsed ++ [(p, f)]
  return parsed

/-- The model of a project's Rust files. -/
def loadProject (fs : FileSystem m) (root : String) (c : Classifier) : CommandM m Manifest := do
  let paths ← scanFiles fs root
  let parsed ← parseFiles fs paths
  let skipped := paths.length - parsed.length
  if skipped > 0 then warn (.skippedFiles skipped)
  let relative := parsed.map fun (p, f) => ((PathText.stripPrefix? p root).getD p, f)
  let (model, notices) := Rust.loadFiles c relative
  warnAll notices
  return model

/-- Writes a text to a file, making the directories above it. -/
def writeToFile (fs : FileSystem m) (content path : String) : CommandM m Unit := do
  if let some dir := PathText.parent? path then
    if !dir.isEmpty then
      if let .error e := ← effect (fs.createDirAll ((PathText.components dir).length + 2) dir) then
        fail ["Failed to create directory: " ++ dir, e.message]
  if let .error e := ← effect (fs.writeText path content) then
    fail ["Failed to write to file: " ++ path, e.message]

/-- The text of a document in a format. -/
def serialize (d : Document) : OutputFormat → String
  | .yaml => Yaml.emit d.toJson
  | .json => Json.pretty d.toJson

/-- The steps after the project check: configuration, model, document, output. A fault of
the category heuristic, or a type resolution that never ends, stops the run with no result. -/
def workflow (fs : FileSystem m) (args : CliArgs) : CommandM m (Option Unit) := do
  let config ← resolveConfig fs args
  let model ← match args.manifestPath with
    | some p => loadManifest fs p
    | none => loadProject fs args.projectPath config.classifier
  if model.units.isEmpty then fail ["No source units found in " ++ args.projectPath]
  match generateDocument model config with
  | none => return none
  | some (.error _) => return none
  | some (.ok g) =>
    warnAll g.notices
    let content := serialize g.document args.outputFormat
    match args.outputPath with
    | some p => writeToFile fs content p
    | none => printLine content
    return some ()

/-- How a run ended. -/
inductive Ending where
  | done
  | failed (f : Failure)
  /-- A fault that stops the program without a result: a panic, or a type resolution that
  never ends (the program then runs out of stack). -/
  | aborted
  deriving Inhabited

/-- What a run did besides its effects on files. -/
structure Outcome where
  report : Report
  ending : Ending
  deriving Inhabited

/-- Runs the command after the project check. -/
def execute (fs : FileSystem m) (args : CliArgs) : m Outcome := do
  let (r, report) ← (workflow fs args).run.run ⟨[], ""⟩
  return match r with
    | .ok (some ()) => ⟨report, .done⟩
    | .ok none => ⟨report, .aborted⟩
    | .error f => ⟨report, .failed f⟩

/-- What a program leaves: its exit status, its standard output, and its lines of standard
error. -/
structure ProgramResult where
  code : UInt32
  stdout : String
  stderr : List String
  deriving Repr, Inhabited

/-- The lines of a text that ends with a line break. -/
def textLines (s : String) : List String :=
  let parts := s.splitOn "\n"
  if s.endsWith "\n" then parts.dropLast else parts

/-- Runs the program on its command-line words: the usage errors and answers of the command
line, then the project check and the command. -/
def runProgram (fs : FileSystem m) (words : List String) : m ProgramResult := do
  match parseCommandLine words with
  | .error e => return if e.isAnswer then ⟨0, e.message, []⟩ else ⟨2, "", textLines e.message⟩
  | .ok args =>
    match ← checkProject fs args with
    | some f => return ⟨1, "", f.report⟩
    | none =>
      let o ← execute fs args
      let warnings := o.report.notices.map Notice.line
      return match o.ending with
        | .done => ⟨0, o.report.printed, warnings⟩
        | .failed f => ⟨1, o.report.printed, warnings ++ f.report⟩
        | .aborted => ⟨101, o.report.printed, warnings⟩

end Cli

end ApiSpec
