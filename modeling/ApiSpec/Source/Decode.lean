import ApiSpec.Source.Basic
import ApiSpec.Decode.Basic

/-!
# Reading the source model from a document

The manifest format: every record lists its fields by their names (`type` for the type of a
property or parameter, `return_type`, `type_params`, `has_default`), and all but the names,
the file path and the property and parameter types may be left out. A type expression is an
enumeration with the variants `named` (fields `name` and `args`), `array`, `tuple`, `union`,
`inline` and `unknown`. An annotation argument is a string (a literal) or a record with one
field `expr` (any other expression).
-/

namespace ApiSpec

open Decode

/-- An annotation argument: a string, else a record `{expr}`. -/
def AnnotationArg.decode : Decoder AnnotationArg := fun _ n =>
  let noMatch := Except.error (.unplaced "data did not match any variant of untagged enum AnnotationArg" none)
  let asText := fun (v : Node) => match v with
    | .scalar (.string s) _ _ => some s
    | .scalar (.text s plain) _ _ =>
      if plain && (s.isEmpty || isNullWord s || (boolWord? s).isSome || (yamlInteger? s).isSome ||
        (yamlFloat? s).isSome) then none
      else some s
    | _ => none
  match n.firstFault, n with
  | some f, _ => .error (.fault f)
  | none, .map es _ _ =>
    match es.filter fun (k, _) => k.keyText? == some "expr" with
    | [(_, v)] =>
      match asText v with
      | some s => .ok (.expr s)
      | none => noMatch
    | _ => noMatch
  | none, .seq [v] _ _ =>
    match asText v with
    | some s => .ok (.expr s)
    | none => noMatch
  | none, _ =>
    match asText n with
    | some s => .ok (.literal s)
    | none => noMatch

/-- An annotation. -/
def Annotation.decode : Decoder Annotation :=
  record "Annotation" ⟨"", []⟩ [requiredField "name" string fun v r => { r with name := v },
    optionalField "args" (list AnnotationArg.decode) fun v r => { r with args := v }]

/-- A file path: any string. -/
def pathString : Decoder String := fun site n =>
  match string site n with
  | .ok s => .ok s
  | .error (.fault f) => .error (.fault f)
  | .error _ => .error (invalidType site n "path string")

/-- The variants of a type expression. -/
def typeExprVariants : List String := ["named", "array", "tuple", "union", "inline", "unknown"]

/-- A property with nothing known yet. -/
def PropertyDecl.blank : PropertyDecl :=
  { name := "", type := .simple "", optional := false, hasDefault := false, docs := none,
    annotations := [] }

mutual

/-- A type expression, following at most `fuel` levels. -/
def typeExprWith : Nat → Decoder TypeExpr
  | 0 => fun site n => .error (failAt site n "recursion limit exceeded")
  | fuel + 1 => fun site n => do
    let (v, content) ← variant "TypeExpr" typeExprVariants site n
    if v = "named" then
      structVariant site n content fun s node =>
        let fields := record "variant TypeExpr::Named" ("", ([] : List TypeExpr))
          [requiredField "name" string (fun v r => (v, r.2)),
            optionalField "args" (list (typeExprWith fuel)) (fun v r => (r.1, v))] s node
        fields.map fun (name, args) => .named name args
    else if v = "array" then
      newtype site n content fun s node => do return .array (← typeExprWith fuel s node)
    else if v = "tuple" then
      newtype site n content fun s node => do return .tuple (← list (typeExprWith fuel) s node)
    else if v = "union" then
      newtype site n content fun s node => do return .union (← list (typeExprWith fuel) s node)
    else if v = "inline" then
      newtype site n content fun s node => do return .inline (← list (propertyWith fuel) s node)
    else
      newtype site n content fun s node => do return .unknown (← string s node)

/-- A property, following at most `fuel` levels. -/
def propertyWith : Nat → Decoder PropertyDecl
  | 0 => fun site n => .error (failAt site n "recursion limit exceeded")
  | fuel + 1 =>
    record "PropertyDecl" PropertyDecl.blank [
      requiredField "name" string fun v r => { r with name := v },
      requiredField "type" (typeExprWith fuel) fun v r => { r with type := v },
      optionalField "optional" bool fun v r => { r with optional := v },
      optionalField "has_default" bool fun v r => { r with hasDefault := v },
      optionalField "docs" (option string) fun v r => { r with docs := v },
      optionalField "annotations" (list Annotation.decode) fun v r => { r with annotations := v }]

end

/-- A type expression. -/
def TypeExpr.decode : Decoder TypeExpr := fun site n => typeExprWith (n.depth + 1) site n

/-- A property. -/
def PropertyDecl.decode : Decoder PropertyDecl := fun site n => propertyWith (n.depth + 1) site n

/-- A method parameter. -/
def ParamDecl.decode : Decoder ParamDecl :=
  record "ParamDecl" ⟨"", .simple "", false, []⟩ [
    requiredField "name" string fun v r => { r with name := v },
    requiredField "type" TypeExpr.decode fun v r => { r with type := v },
    optionalField "optional" bool fun v r => { r with optional := v },
    optionalField "annotations" (list Annotation.decode) fun v r => { r with annotations := v }]

/-- A method. -/
def MethodDecl.decode : Decoder MethodDecl :=
  record "MethodDecl" ⟨"", none, [], [], none⟩ [
    requiredField "name" string fun v r => { r with name := v },
    optionalField "docs" (option string) fun v r => { r with docs := v },
    optionalField "annotations" (list Annotation.decode) fun v r => { r with annotations := v },
    optionalField "params" (list ParamDecl.decode) fun v r => { r with params := v },
    optionalField "return_type" (option TypeExpr.decode) fun v r => { r with returns := v }]

/-- A class. -/
def ClassDecl.decode : Decoder ClassDecl :=
  record "ClassDecl" ⟨"", none, [], [], [], []⟩ [
    requiredField "name" string fun v r => { r with name := v },
    optionalField "docs" (option string) fun v r => { r with docs := v },
    optionalField "annotations" (list Annotation.decode) fun v r => { r with annotations := v },
    optionalField "type_params" (list string) fun v r => { r with typeParams := v },
    optionalField "properties" (list PropertyDecl.decode) fun v r => { r with properties := v },
    optionalField "methods" (list MethodDecl.decode) fun v r => { r with methods := v }]

/-- An enumeration. -/
def EnumDecl.decode : Decoder EnumDecl :=
  record "EnumDecl" ⟨"", [], []⟩ [
    requiredField "name" string fun v r => { r with name := v },
    optionalField "values" (list string) fun v r => { r with values := v },
    optionalField "members" (list TypeExpr.decode) fun v r => { r with members := v }]

/-- A module. -/
def ModuleDecl.decode : Decoder ModuleDecl :=
  record "ModuleDecl" ⟨"", []⟩ [
    requiredField "name" string fun v r => { r with name := v },
    optionalField "controllers" (list string) fun v r => { r with controllers := v }]

/-- A source file. -/
def SourceFile.decode : Decoder SourceFile :=
  record "SourceUnit" ⟨"", [], [], []⟩ [
    requiredField "path" pathString fun v r => { r with path := v },
    optionalField "classes" (list ClassDecl.decode) fun v r => { r with classes := v },
    optionalField "enums" (list EnumDecl.decode) fun v r => { r with enums := v },
    optionalField "modules" (list ModuleDecl.decode) fun v r => { r with modules := v }]

/-- A manifest. -/
def Manifest.decode : Decoder Manifest :=
  record "SourceTree" ⟨[]⟩ [optionalField "units" (list SourceFile.decode) fun v _ => ⟨v⟩]

end ApiSpec
