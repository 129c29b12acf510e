import ApiSpec.Http

/-!
# Warnings

What the generator warns about as it goes, in the order it happens. Each warning is written
as one line: its level, the part of the program it comes from, and the message.
-/

namespace ApiSpec

/-- A warning. -/
inductive Notice where
  /-- A type was met again while it was being described. -/
  | circularReference (identity : String)
  /-- A controller class could not be read; the reason is told in full. -/
  | skippedController (className reason : String)
  /-- Two routes gave one operation. -/
  | duplicateOperation (method : HttpMethod) (path : String)
  /-- A component name was taken by another type. -/
  | componentNameTaken (base chosen identity : String)
  /-- A reference names no recorded type. -/
  | danglingReference (identity : String)
  /-- A source file did not parse. -/
  | unparsedFile (path reason : String)
  /-- How many source files did not parse. -/
  | skippedFiles (count : Nat)
  /-- A field-renaming rule is not known. -/
  | unknownRenameRule (rule : String)
  /-- A message of the directory walk. -/
  | walk (message : String)
  deriving Repr, Inhabited

namespace Notice

/-- The part of the program that warns. -/
def source : Notice → String
  | .circularReference _ => "openapi_synth::type_resolver"
  | .skippedController .. => "openapi_synth::extractor::controller"
  | .duplicateOperation .. => "openapi_synth::openapi_builder"
  | .componentNameTaken .. => "openapi_synth::schema_generator"
  | .danglingReference _ => "openapi_synth::schema_generator"
  | .unparsedFile .. => "openapi_synth::parser"
  | .skippedFiles _ => "openapi_synth::pipeline"
  | .unknownRenameRule _ => "openapi_synth::source::rust"
  | .walk _ => "openapi_synth::scanner"

/-- The message. -/
def message : Notice → String
  | .circularReference id => "Circular reference detected for type: " ++ id
  | .skippedController c r => "Skipping " ++ c ++ ": " ++ r
  | .duplicateOperation m p => "Duplicate operation " ++ m.upperName ++ " " ++ p ++ "; keeping the last one"
  | .componentNameTaken b c id => "Component name " ++ b ++ " is taken; using " ++ c ++ " for " ++ id
  | .danglingReference id => "Reference to " ++ id ++ " has no named type; emitting a free-form object"
  | .unparsedFile p r => "Failed to parse " ++ p ++ ": " ++ r
  | .skippedFiles n => "Skipped " ++ toString n ++ " files that could not be parsed"
  | .unknownRenameRule r => "Unknown serde rename_all rule: " ++ r
  | .walk m => m

/-- The warning as one line. -/
def line (n : Notice) : String := "WARN " ++ n.source ++ ": " ++ n.message

end Notice

end ApiSpec
