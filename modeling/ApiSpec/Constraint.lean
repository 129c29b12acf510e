import ApiSpec.Source.Basic
import ApiSpec.Role
import ApiSpec.Number.Reading
import ApiSpec.Json.Value
import ApiSpec.Text.Basic

/-!
# Validation constraints

The constraint annotations of a property (`IsEmail`, `MinLength(3)`, `is_in(["a", "b"])`, …)
read into a `Constraints` record. Names compare in normal form, so the decorator and attribute
spellings are one; unknown annotations are ignored. Each annotation writes the fields it names,
and an argument that does not read leaves its field as it was; so of two annotations on one
field the later wins.

Arguments read as unsigned 64-bit numbers or binary64 values after trimming. A membership list
is either one argument `["a", "b"]` (brackets, parentheses or braces stripped from the ends,
split at commas, each piece trimmed and unquoted, empty pieces dropped) or several arguments,
each unquoted.
-/

namespace ApiSpec

/-- What the annotations of a property require of its values. -/
structure Constraints where
  typeOverride : Option String := none
  format : Option String := none
  minLength : Option Nat := none
  maxLength : Option Nat := none
  pattern : Option String := none
  minimum : Option Binary64 := none
  maximum : Option Binary64 := none
  minItems : Option Nat := none
  maxItems : Option Nat := none
  enumValues : Option (List String) := none
  notIn : Option (List String) := none
  /-- A presence or non-emptiness constraint. -/
  required : Bool := false
  /-- An explicit optionality constraint. -/
  optional : Bool := false
  deriving Repr, Inhabited

namespace Constraints

/-- Whether nothing is constrained. -/
def isEmpty (c : Constraints) : Bool :=
  c.typeOverride.isNone && c.format.isNone && c.minLength.isNone && c.maxLength.isNone &&
  c.pattern.isNone && c.minimum.isNone && c.maximum.isNone && c.minItems.isNone &&
  c.maxItems.isNone && c.enumValues.isNone && c.notIn.isNone && !c.required && !c.optional

/-- `new` when it is present, else `old`. -/
def orKeep {α : Type} (new old : Option α) : Option α :=
  match new with
  | some v => some v
  | none => old

/-- Text without surrounding white space and quotes. -/
def unquote (s : String) : String := Text.trimBy (fun c => c == '"' || c == '\x27') (Text.trim s)

/-- The pieces of a one-argument membership list. -/
def splitList (text : String) : List String :=
  let t := Text.trim text
  let t := Text.trimStartBy (fun c => c == '[' || c == '(' || c == '\x7b') t
  let t := Text.trimEndBy (fun c => c == ']' || c == ')' || c == '\x7d') t
  ((Text.splitBy (· == ',') t).map unquote).filter (· ≠ "")

/-- A membership list from the arguments; none when it would be empty. -/
def argList : List AnnotationArg → Option (List String)
  | [] => none
  | [single] => let vs := splitList single.text; if vs.isEmpty then none else some vs
  | many => some (many.map fun a => unquote a.text)

/-- The argument at `i` as an unsigned 64-bit number. -/
def argUnsigned (args : List AnnotationArg) (i : Nat) : Option Nat :=
  (args[i]?).bind fun a => readUnsigned64? (Text.trim a.text)

/-- The argument at `i` as a binary64 value. -/
def argBinary (args : List AnnotationArg) (i : Nat) : Option Binary64 :=
  (args[i]?).bind fun a => Binary64.readDecimal? (Text.trim a.text)

/-- One annotation's effect. -/
def apply (c : Constraints) (a : Annotation) : Constraints :=
  let args := a.args
  let n := normalizeName a.name
  if n = "isstring" then { c with typeOverride := some "string" }
  else if n = "isint" then { c with typeOverride := some "integer" }
  else if n = "isnumber" then { c with typeOverride := some "number" }
  else if n = "isboolean" then { c with typeOverride := some "boolean" }
  else if n = "isemail" then { c with format := some "email" }
  else if n = "isurl" then { c with format := some "uri" }
  else if n = "isuuid" then { c with format := some "uuid" }
  else if n = "isdate" ∨ n = "isdatestring" ∨ n = "isiso8601" then { c with format := some "date-time" }
  else if n = "isnotempty" then { c with required := true, minLength := some 1 }
  else if n = "isdefined" then { c with required := true }
  else if n = "isoptional" then { c with optional := true }
  else if n = "minlength" then { c with minLength := orKeep (argUnsigned args 0) c.minLength }
  else if n = "maxlength" then { c with maxLength := orKeep (argUnsigned args 0) c.maxLength }
  else if n = "length" then
    { c with minLength := orKeep (argUnsigned args 0) c.minLength,
             maxLength := orKeep (argUnsigned args 1) c.maxLength }
  else if n = "matches" then { c with pattern := orKeep (args.head?.map AnnotationArg.text) c.pattern }
  else if n = "min" then { c with minimum := orKeep (argBinary args 0) c.minimum }
  else if n = "max" then { c with maximum := orKeep (argBinary args 0) c.maximum }
  else if n = "ispositive" then { c with minimum := some (Binary64.ofDecimal false 1 0) }
  else if n = "arrayminsize" then { c with minItems := orKeep (argUnsigned args 0) c.minItems }
  else if n = "arraymaxsize" then { c with maxItems := orKeep (argUnsigned args 0) c.maxItems }
  else if n = "arraynotempty" then { c with minItems := some 1 }
  else if n = "isin" ∨ n = "isenum" then { c with enumValues := orKeep (argList args) c.enumValues }
  else if n = "isnotin" then { c with notIn := orKeep (argList args) c.notIn }
  else c

end Constraints

/-- The constraints of a list of annotations, applied in order. -/
def extractConstraints (annotations : List Annotation) : Constraints :=
  annotations.foldl Constraints.apply {}

/-- Whether a property is required: explicit optionality wins; else a presence constraint,
or a declaration that is neither optional nor defaulted. -/
def isRequired (optional hasDefault : Bool) (c : Constraints) : Bool :=
  if c.optional then false else c.required || (!optional && !hasDefault)

/-- The constraints as JSON, absent fields left out. -/
def Constraints.toJson (c : Constraints) : Json :=
  let opt := fun (k : String) (v : Option Json) => match v with
    | some j => [(k, j)]
    | none => []
  .object (opt "typeOverride" (c.typeOverride.map .string) ++ opt "format" (c.format.map .string) ++
    opt "minLength" (c.minLength.map Json.nat) ++ opt "maxLength" (c.maxLength.map Json.nat) ++
    opt "pattern" (c.pattern.map .string) ++ opt "minimum" (c.minimum.map Json.binary) ++
    opt "maximum" (c.maximum.map Json.binary) ++ opt "minItems" (c.minItems.map Json.nat) ++
    opt "maxItems" (c.maxItems.map Json.nat) ++ opt "enumValues" (c.enumValues.map Json.strings) ++
    opt "notIn" (c.notIn.map Json.strings))

end ApiSpec
