/-!
# The source model

The declarations the generator reads, however they were found: files (`SourceFile`) holding
classes (controllers, modules, data objects), enumerations and modules. A class has
annotations, type parameters, properties and methods; a type is referred to by a `TypeExpr`
as written at the declaration.

`TypeExpr.display` writes a type expression back as text: `Name<A, B>`, `T[]`, `(A, B)`,
`A | B`, `{n members}` for an inline object, and unknown text as it is. A generic object is
known in the model by this text of its instance.
-/

namespace ApiSpec

/-- One argument of an annotation: a string literal's value, or the text of any other
expression. -/
inductive AnnotationArg where
  | literal (value : String)
  | expr (code : String)
  deriving DecidableEq, Repr, Inhabited

/-- The text of an argument. -/
def AnnotationArg.text : AnnotationArg → String
  | .literal v => v
  | .expr c => c

/-- An annotation (a decorator or attribute) on a declaration. -/
structure Annotation where
  name : String
  args : List AnnotationArg
  deriving DecidableEq, Repr, Inhabited

/-- A property of an object, over the type of its type expressions. -/
structure PropertyOf (τ : Type) where
  name : String
  type : τ
  optional : Bool
  hasDefault : Bool
  docs : Option String
  annotations : List Annotation
  deriving Repr, Inhabited

/-- A type reference as written at a declaration. -/
inductive TypeExpr where
  | named (name : String) (args : List TypeExpr)
  | array (elem : TypeExpr)
  | tuple (items : List TypeExpr)
  | union (members : List TypeExpr)
  /-- An anonymous object with its members. -/
  | inline (props : List (PropertyOf TypeExpr))
  | unknown (text : String)
  deriving Repr, Inhabited

/-- A property of an object. -/
abbrev PropertyDecl := PropertyOf TypeExpr

/-- A parameter of a method. -/
structure ParamDecl where
  name : String
  type : TypeExpr
  optional : Bool
  annotations : List Annotation
  deriving Repr, Inhabited

/-- A method; `returns` is `none` when it returns nothing. -/
structure MethodDecl where
  name : String
  docs : Option String
  annotations : List Annotation
  params : List ParamDecl
  returns : Option TypeExpr
  deriving Repr, Inhabited

/-- A class-like declaration: controller, module or data object. -/
structure ClassDecl where
  name : String
  docs : Option String
  annotations : List Annotation
  typeParams : List String
  properties : List PropertyDecl
  methods : List MethodDecl
  deriving Repr, Inhabited

/-- An enumeration: literal values, or a payload type per variant (`members`). -/
structure EnumDecl where
  name : String
  values : List String
  members : List TypeExpr
  deriving Repr, Inhabited

/-- A module naming the controllers it owns. -/
structure ModuleDecl where
  name : String
  controllers : List String
  deriving Repr, Inhabited

/-- The declarations of one file. -/
structure SourceFile where
  path : String
  classes : List ClassDecl
  enums : List EnumDecl
  modules : List ModuleDecl
  deriving Repr, Inhabited

/-- All declarations the generator reads. -/
structure Manifest where
  units : List SourceFile
  deriving Repr, Inhabited

namespace TypeExpr

/-- A name without arguments. -/
def simple (name : String) : TypeExpr := .named name []

mutual

/-- The text of a type expression. -/
def display : TypeExpr → String
  | .named name [] => name
  | .named name args => name ++ "<" ++ displayList ", " args ++ ">"
  | .array elem => display elem ++ "[]"
  | .tuple items => "(" ++ displayList ", " items ++ ")"
  | .union members => displayList " | " members
  | .inline props => "\x7b" ++ toString props.length ++ " members\x7d"
  | .unknown text => text

/-- The texts of type expressions joined by a separator. -/
def displayList (sep : String) : List TypeExpr → String
  | [] => ""
  | [t] => display t
  | t :: rest => display t ++ sep ++ displayList sep rest

end

end TypeExpr

namespace Manifest

/-- All classes, file by file. -/
def classes (m : Manifest) : List ClassDecl := m.units.flatMap (·.classes)

/-- All enumerations, file by file. -/
def enums (m : Manifest) : List EnumDecl := m.units.flatMap (·.enums)

/-- The first class of that name. -/
def findClass? (m : Manifest) (name : String) : Option ClassDecl :=
  m.classes.find? (·.name == name)

/-- The first enumeration of that name. -/
def findEnum? (m : Manifest) (name : String) : Option EnumDecl :=
  m.enums.find? (·.name == name)

/-- The first module that lists the class among its controllers. -/
def owningModule? (m : Manifest) (className : String) : Option ModuleDecl :=
  (m.units.flatMap (·.modules)).find? (·.controllers.contains className)

end Manifest

end ApiSpec
