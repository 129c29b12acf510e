import ApiSpec.Source.Basic
import ApiSpec.Json.Value

/-!
# Writing the source model as JSON

The manifest format of `ApiSpec.Source.Decode`, with every field written, defaults included.
-/

namespace ApiSpec

/-- An annotation argument: a literal as a string, an expression as `{expr}`. -/
def AnnotationArg.toJson : AnnotationArg → Json
  | .literal v => .string v
  | .expr c => .object [("expr", .string c)]

/-- An annotation. -/
def Annotation.toJson (a : Annotation) : Json :=
  .object [("name", .string a.name), ("args", .array (a.args.map AnnotationArg.toJson))]

mutual

/-- A type expression as a one-key object. -/
def TypeExpr.toJson : TypeExpr → Json
  | .named name args => .object [("named", .object [("name", .string name), ("args", .array (TypeExpr.listToJson args))])]
  | .array elem => .object [("array", elem.toJson)]
  | .tuple items => .object [("tuple", .array (TypeExpr.listToJson items))]
  | .union members => .object [("union", .array (TypeExpr.listToJson members))]
  | .inline props => .object [("inline", .array (TypeExpr.propsToJson props))]
  | .unknown text => .object [("unknown", .string text)]

/-- Type expressions. -/
def TypeExpr.listToJson : List TypeExpr → List Json
  | [] => []
  | t :: rest => t.toJson :: TypeExpr.listToJson rest

/-- Properties. -/
def TypeExpr.propsToJson : List PropertyDecl → List Json
  | [] => []
  | p :: rest =>
    .object [("name", .string p.name), ("type", p.type.toJson), ("optional", .bool p.optional),
      ("has_default", .bool p.hasDefault), ("docs", Json.optString p.docs),
      ("annotations", .array (p.annotations.map Annotation.toJson))] :: TypeExpr.propsToJson rest

end

/-- A property. -/
def PropertyDecl.toJson (p : PropertyDecl) : Json :=
  match TypeExpr.propsToJson [p] with
  | [j] => j
  | _ => .null

/-- A parameter. -/
def ParamDecl.toJson (p : ParamDecl) : Json :=
  .object [("name", .string p.name), ("type", p.type.toJson), ("optional", .bool p.optional),
    ("annotations", .array (p.annotations.map Annotation.toJson))]

/-- A method. -/
def MethodDecl.toJson (m : MethodDecl) : Json :=
  .object [("name", .string m.name), ("docs", Json.optString m.docs),
    ("annotations", .array (m.annotations.map Annotation.toJson)),
    ("params", .array (m.params.map ParamDecl.toJson)),
    ("return_type", Json.opt TypeExpr.toJson m.returns)]

/-- A class. -/
def ClassDecl.toJson (c : ClassDecl) : Json :=
  .object [("name", .string c.name), ("docs", Json.optString c.docs),
    ("annotations", .array (c.annotations.map Annotation.toJson)),
    ("type_params", Json.strings c.typeParams),
    ("properties", .array (c.properties.map PropertyDecl.toJson)),
    ("methods", .array (c.methods.map MethodDecl.toJson))]

/-- An enumeration. -/
def EnumDecl.toJson (e : EnumDecl) : Json :=
  .object [("name", .string e.name), ("values", Json.strings e.values),
    ("members", .array (e.members.map TypeExpr.toJson))]

/-- A module. -/
def ModuleDecl.toJson (m : ModuleDecl) : Json :=
  .object [("name", .string m.name), ("controllers", Json.strings m.controllers)]

/-- A source file. -/
def SourceFile.toJson (u : SourceFile) : Json :=
  .object [("path", .string u.path), ("classes", .array (u.classes.map ClassDecl.toJson)),
    ("enums", .array (u.enums.map EnumDecl.toJson)), ("modules", .array (u.modules.map ModuleDecl.toJson))]

/-- A manifest. -/
def Manifest.toJson (m : Manifest) : Json := .object [("units", .array (m.units.map SourceFile.toJson))]

end ApiSpec
