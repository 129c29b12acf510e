import ApiSpec.Cli.PathText

/-!
# The command line

The command takes one positional argument, the project directory, and these options:
`--config <FILE>` (`-c`), `--manifest <FILE>` (`-m`), `--format <OUTPUT_FORMAT>` (`-f`, one of
`yaml` and `json`), `--output <FILE>` (`-o`), `--title <TITLE>`, `--api-version <API_VERSION>`,
`--prefix <PREFIX>`, the flag `--verbose` (`-v`), and `--help` (`-h`) and `--version` (`-V`).

This module holds what each argument is and how it is shown: in usage lines, in messages and
in the two forms of help. The short help (`-h`) puts each argument's help on its line,
aligned two columns past the longest argument of its section; the long help (`--help`) puts
it on the next line, indented, and lists what each possible value of `--format` means.
-/

namespace ApiSpec

namespace Cli

/-- The formats a document is written in. -/
inductive OutputFormat where
  | yaml
  | json
  deriving DecidableEq, Repr, Inhabited

/-- The name of a format, as the command line spells it. -/
def OutputFormat.name : OutputFormat → String
  | .yaml => "yaml"
  | .json => "json"

/-- What the command line asked for. -/
structure CliArgs where
  projectPath : String
  configPath : Option String
  manifestPath : Option String
  format : Option OutputFormat
  outputPath : Option String
  title : Option String
  apiVersion : Option String
  globalPrefix : Option String
  verbose : Bool
  deriving Repr, Inhabited

/-- The format to write: the one asked for, else JSON for an output file named `*.json`,
else YAML. -/
def CliArgs.outputFormat (a : CliArgs) : OutputFormat :=
  match a.format with
  | some f => f
  | none =>
    match a.outputPath with
    | some p => if PathText.extension? p == some "json" then .json else .yaml
    | none => .yaml

/-- The arguments the command knows. -/
inductive ArgId where
  | projectPath
  | config
  | manifest
  | format
  | output
  | title
  | apiVersion
  | globalPrefix
  | verbose
  | help
  | version
  deriving DecidableEq, Repr, Inhabited

/-- How an argument is written and what it says about itself. -/
structure ArgSpec where
  id : ArgId
  short : Option Char
  long : Option String
  /-- The name of its value, for an argument that takes one. -/
  valueName : Option String
  help : String
  /-- The help of the long form, when it differs. -/
  longHelp : Option String
  /-- The values it accepts, each with what it means, when they are fixed. -/
  possible : List (String × String)
  deriving Inhabited

/-- The name of the program. -/
def programName : String := "openapi-synth"

/-- The version line. -/
def versionText : String := programName ++ " 0.1.0\n"

/-- What the program does, at the top of its help. -/
def aboutText : String :=
  "Synthesizes an OpenAPI document from annotated controller and DTO declarations by static analysis"

/-- The arguments, in the order help shows them. -/
def argSpecs : List ArgSpec :=
  [ ⟨.projectPath, none, none, some "PROJECT_PATH", "Path to the project directory", none, []⟩,
    ⟨.config, some 'c', some "config", some "FILE", "Generator configuration file (YAML or JSON)",
      none, []⟩,
    ⟨.manifest, some 'm', some "manifest", some "FILE",
      "Source manifest to read instead of scanning Rust files", none, []⟩,
    ⟨.format, some 'f', some "format", some "OUTPUT_FORMAT",
      "Output format; defaults to the output file\x27s extension, else yaml", none,
      [("yaml", "YAML format"), ("json", "JSON format")]⟩,
    ⟨.output, some 'o', some "output", some "FILE",
      "Output file path (if not specified, outputs to stdout)", none, []⟩,
    ⟨.title, none, some "title", some "TITLE", "Overrides info.title", none, []⟩,
    ⟨.apiVersion, none, some "api-version", some "API_VERSION", "Overrides info.version", none, []⟩,
    ⟨.globalPrefix, none, some "prefix", some "PREFIX", "Overrides global_prefix", none, []⟩,
    ⟨.verbose, some 'v', some "verbose", none, "Enable verbose output", none, []⟩,
    ⟨.help, some 'h', some "help", none, "Print help (see more with \x27--help\x27)",
      some "Print help (see a summary with \x27-h\x27)", []⟩,
    ⟨.version, some 'V', some "version", none, "Print version", none, []⟩ ]

/-- The description of an argument. -/
def ArgId.spec (id : ArgId) : ArgSpec := (argSpecs.find? (·.id == id)).getD default

namespace ArgSpec

/-- Whether the argument is the positional one. -/
def isPositional (s : ArgSpec) : Bool := s.short.isNone && s.long.isNone

/-- Whether the argument takes a value. -/
def takesValue (s : ArgSpec) : Bool := s.valueName.isSome

/-- The placeholder of its value: `<NAME>`. -/
def placeholder (s : ArgSpec) : String :=
  match s.valueName with
  | some n => "<" ++ n ++ ">"
  | none => ""

/-- The argument as messages and usage lines show it: `--long <VALUE>`, `--flag`, or the
placeholder of a positional argument. -/
def display (s : ArgSpec) : String :=
  if s.isPositional then s.placeholder
  else
    let name := match s.long, s.short with
      | some l, _ => "--" ++ l
      | none, some c => "-" ++ c.toString
      | none, none => ""
    if s.takesValue then name ++ " " ++ s.placeholder else name

/-- The width it takes in a help line, counting the place of a short name. -/
def helpWidth (s : ArgSpec) : Nat :=
  if s.isPositional then s.display.length else s.display.length + 4

/-- The names at the start of its help line: `-c, --config <FILE>`, or four blanks before a
long name without a short one. -/
def helpNames (s : ArgSpec) : String :=
  let short := match s.short with
    | some c => "-" ++ c.toString
    | none => if s.long.isSome then "    " else ""
  let long := match s.long with
    | some l => (if s.short.isSome then ", " else "") ++ "--" ++ l
    | none => ""
  let value := if s.takesValue then (if s.isPositional then "" else " ") ++ s.placeholder else ""
  short ++ long ++ value

/-- The possible values, as the short help and messages list them. -/
def possibleList (s : ArgSpec) : String :=
  "[possible values: " ++ ", ".intercalate (s.possible.map (·.1)) ++ "]"

end ArgSpec

/-- Blanks. -/
def blanks (n : Nat) : String := String.ofList (List.replicate n ' ')

/-- The usage line listing every argument the way help does. -/
def fullUsage : String := programName ++ " [OPTIONS] <PROJECT_PATH>"

/-- The usage line for arguments that were given: their options in the order given, then the
project directory, which is always required. -/
def usageFor (used : List ArgId) : String :=
  if used.isEmpty then fullUsage
  else
    let opts := (used.filter (· != .projectPath)).eraseDups
    programName ++ String.join (opts.map fun id => " " ++ id.spec.display) ++ " <PROJECT_PATH>"

/-- Whether an argument belongs to the group of the command's own arguments: all but help and
version do. -/
def ArgId.inGroup : ArgId → Bool
  | .help | .version => false
  | _ => true

/-- The group of the command's own arguments as a usage line shows it: its members joined by
`|` in angle brackets, the project directory by its bare name. -/
def groupDisplay : String :=
  "<" ++ "|".intercalate ((argSpecs.filter (·.id.inGroup)).map fun s =>
    if s.isPositional then s.valueName.getD "" else s.display) ++ ">"

/-- The usage line for arguments given once the group has been met: the arguments outside the
group, then the group, which stands for its members and the project directory among them. -/
def groupUsageFor (used : List ArgId) : String :=
  let opts := (used.filter fun id => !id.inGroup).eraseDups
  programName ++ String.join (opts.map fun id => " " ++ id.spec.display) ++ " " ++ groupDisplay

/-- The help lines of a section, short form: each help two columns past the longest. -/
def shortSection (specs : List ArgSpec) : String :=
  let longest := specs.foldl (fun acc s => max acc s.helpWidth) 2
  "\n".intercalate (specs.map fun s =>
    let extra := if s.possible.isEmpty then "" else " " ++ s.possibleList
    "  " ++ s.helpNames ++ blanks (longest + 2 - s.helpWidth) ++ s.help ++ extra)

/-- The indentation of help on its own line. -/
def nextLineIndent : String := blanks 10

/-- One argument's entry in the long help. -/
def longEntry (s : ArgSpec) : String :=
  let help := s.longHelp.getD s.help
  let values := if s.possible.isEmpty then ""
    else
      let width := s.possible.foldl (fun acc p => max acc p.1.length) 0
      "\n\n" ++ nextLineIndent ++ "Possible values:" ++ String.join (s.possible.map fun (v, h) =>
        "\n" ++ nextLineIndent ++ "- " ++ v ++ ": " ++ blanks (width - v.length) ++ h)
  "  " ++ s.helpNames ++ "\n" ++ nextLineIndent ++ help ++ values

/-- The help lines of a section, long form: entries apart by a blank line. -/
def longSection (specs : List ArgSpec) : String := "\n\n".intercalate (specs.map longEntry)

/-- The help text: short for `-h`, long for `--help`. -/
def helpText (long : Bool) : String :=
  let positional := argSpecs.filter ArgSpec.isPositional
  let options := argSpecs.filter fun s => !s.isPositional
  let lines := fun (specs : List ArgSpec) => if long then longSection specs else shortSection specs
  aboutText ++ "\n\nUsage: " ++ fullUsage ++ "\n\nArguments:\n" ++ lines positional ++
    "\n\nOptions:\n" ++ lines options ++ "\n"

end Cli

end ApiSpec
