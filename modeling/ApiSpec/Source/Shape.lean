import ApiSpec.Source.Basic

/-!
# Shapes of type references

`Manifest.shapeOf` says what a type expression stands for. Names every host language agrees
on come first: the void and null names, the primitives, `Option<T>` (a union of `T` and
`null`), the collection heads (an array of their first argument) and the map and free-value
heads (a free object). Then a class of the model (an object whose type parameters are bound to
the arguments, pairwise), then an enumeration (a union when it carries payloads, else its
values), then any other name with arguments (a generic of unknown head), and last an unknown
name. An array is an array of its element, the empty tuple is void, other tuples are unknown,
a union is an unnamed union and an inline object an unnamed object.
-/

namespace ApiSpec

/-- The four kinds of primitive value. -/
inductive PrimitiveKind where
  | string
  | integer
  | number
  | boolean
  deriving DecidableEq, Repr, Inhabited

/-- The name of a primitive kind. -/
def PrimitiveKind.name : PrimitiveKind → String
  | .string => "string"
  | .integer => "integer"
  | .number => "number"
  | .boolean => "boolean"

/-- The primitive a type name stands for, with its format. -/
def primitiveOf? (name : String) : Option (PrimitiveKind × Option String) :=
  if name ∈ ["String", "string", "str", "char"] then some (.string, none)
  else if name ∈ ["i8", "i16", "i32", "u8", "u16", "u32"] then some (.integer, some "int32")
  else if name ∈ ["i64", "i128", "u64", "u128", "isize", "usize"] then some (.integer, some "int64")
  else if name = "integer" then some (.integer, none)
  else if name = "f32" then some (.number, some "float")
  else if name = "f64" then some (.number, some "double")
  else if name = "number" then some (.number, none)
  else if name ∈ ["bool", "boolean"] then some (.boolean, none)
  else if name ∈ ["Date", "DateTime", "NaiveDateTime", "SystemTime", "OffsetDateTime"] then
    some (.string, some "date-time")
  else if name = "NaiveDate" then some (.string, some "date")
  else if name = "Uuid" then some (.string, some "uuid")
  else none

/-- What a type reference stands for. -/
inductive Shape where
  | void
  | null
  /-- A primitive, by the name it was written with. -/
  | primitive (name : String)
  | array (elem : TypeExpr)
  | enumeration (name : Option String) (values : List String)
  /-- Alternatives; an enumeration with payloads carries its name. -/
  | union (name : Option String) (members : List TypeExpr)
  /-- A generic whose head the model does not declare. -/
  | generic (name : String) (args : List TypeExpr)
  /-- A declared or inline object, with type parameters bound to arguments. -/
  | object (name : Option String) (bindings : List (String × TypeExpr)) (props : List PropertyDecl)
  | unknown (text : String)
  deriving Repr, Inhabited

/-- Heads whose first argument is the element of an array. -/
def collectionHeads : List String :=
  ["Vec", "VecDeque", "HashSet", "BTreeSet", "IndexSet", "Array", "ReadonlyArray", "Set"]

/-- Heads that stand for a free object. -/
def freeObjectHeads : List String :=
  ["HashMap", "BTreeMap", "IndexMap", "Record", "Map", "Value", "object", "any", "unknown"]

/-- The shape of a name every host language agrees on. -/
def builtinShape? (name : String) (args : List TypeExpr) : Option Shape :=
  if name ∈ ["void", "undefined", "never", "()"] then some .void
  else if name = "null" then some .null
  else if (primitiveOf? name).isSome then some (.primitive name)
  else
    match args with
    | inner :: _ =>
      if name = "Option" then some (.union none [inner, .simple "null"])
      else if name ∈ collectionHeads then some (.array inner)
      else if name ∈ freeObjectHeads then some (.object none [] [])
      else none
    | [] => if name ∈ freeObjectHeads then some (.object none [] []) else none

namespace Manifest

/-- The shape of a named type with its arguments. -/
def namedShape (m : Manifest) (name : String) (args : List TypeExpr) : Shape :=
  match builtinShape? name args with
  | some s => s
  | none =>
    match m.findClass? name with
    | some c => .object (some c.name) (c.typeParams.zip args) c.properties
    | none =>
      match m.findEnum? name with
      | some e =>
        if e.members.isEmpty then .enumeration (some e.name) e.values
        else .union (some e.name) e.members
      | none => if args.isEmpty then .unknown name else .generic name args

/-- The shape of a type expression. -/
def shapeOf (m : Manifest) : TypeExpr → Shape
  | .named name args => m.namedShape name args
  | .array elem => .array elem
  | .tuple [] => .void
  | t@(.tuple _) => .unknown t.display
  | .union members => .union none members
  | .inline props => .object none [] props
  | .unknown text => .unknown text

end Manifest

end ApiSpec
