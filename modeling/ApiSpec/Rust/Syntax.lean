import ApiSpec.Rust.Token

/-!
# The Rust syntax the loader reads

A parsed file keeps what a source model is built from, not every detail of the language.

* A type keeps its shape: a path (the identifiers and generic arguments of each segment), a
  reference, a slice or array, a tuple, parentheses, `impl`/`dyn` bounds. Every other type
  (function pointers, raw pointers, `!`, `_`, macros) keeps only its printed text.
* A pattern keeps the bindings a parameter name is read from.
* An attribute keeps its path and its meta: nothing more, the tokens of a list, or the value
  of `name = value`, read as a string literal or printed.
* An item keeps the declarations of structs, enums and inherent or trait `impl` blocks, and
  the items declared inside it (in a module, a function body, a trait, an array length, an
  attribute's value, ...) in the order they appear.

Printed text is the text of the tokens as the parser normalised them: an operator read as one
token (`::`, `->`) is glued, every other mark stands alone.
-/

namespace ApiSpec

namespace Rust

mutual

/-- A Rust type. -/
inductive Ty where
  /-- A path, with `qself` when it starts `<T as Trait>::` or `<T>::`. -/
  | path (qself : Bool) (p : Path)
  | reference (elem : Ty)
  | slice (elem : Ty)
  | array (elem : Ty)
  | tuple (elems : List Ty)
  | paren (elem : Ty)
  /-- A trait object, with or without `dyn`, its bounds, whether a `+` ends them, and its text. -/
  | traitObject (dyn : Bool) (bounds : List Bound) (trailingPlus : Bool) (text : String)
  /-- An `impl Trait` type, its bounds and its text. -/
  | implTrait (bounds : List Bound) (text : String)
  /-- Any other type, kept as text. -/
  | other (text : String)

/-- A path: a leading `::` and segments. -/
inductive Path where
  | mk (leadingColon : Bool) (segments : List Segment)

/-- A path segment: an identifier and its arguments. -/
inductive Segment where
  | mk (ident : String) (args : PathArgs)

/-- The arguments of a path segment. -/
inductive PathArgs where
  | none
  | angle (args : List GenericArg)
  /-- Parenthesized arguments, as in `Fn(u8) -> u8`. -/
  | paren

/-- A generic argument. -/
inductive GenericArg where
  | type (t : Ty)
  /-- `Name = Type`. -/
  | assocType (t : Ty)
  /-- A lifetime, a constant or a constraint. -/
  | other

/-- A bound of a type parameter or trait object. -/
inductive Bound where
  | trait (p : Path)
  | lifetime
  | other

end

instance : Inhabited Ty := ⟨.other ""⟩
instance : Inhabited Path := ⟨.mk false []⟩

namespace Path

/-- The segments of a path. -/
def segments : Path → List Segment
  | .mk _ s => s

/-- Whether a path has a leading `::`. -/
def leadingColon : Path → Bool
  | .mk c _ => c

/-- A path of one identifier. -/
def single (s : String) : Path := .mk false [.mk s .none]

end Path

/-- The identifier of a segment. -/
def Segment.ident : Segment → String
  | .mk i _ => i

/-- The arguments of a segment. -/
def Segment.args : Segment → PathArgs
  | .mk _ a => a

/-- Whether a path has no arguments on any segment (as a macro or module path has). -/
def Path.isModStyle (p : Path) : Bool :=
  p.segments.all fun s => match s.args with
    | .none => true
    | _ => false

/-- A pattern, as far as a binding name is read from it. -/
inductive Pat where
  | ident (name : String)
  | tupleStruct (elems : List Pat)
  | struct (fields : List Pat)
  | reference (p : Pat)
  | typed (p : Pat)
  /-- A range; whether it has a start and an end. -/
  | range (start finish : Bool)
  /-- `..` in a tuple or slice. -/
  | rest
  | other
  deriving Inhabited

/-- The value of `name = value` in an attribute. -/
inductive MetaValue where
  /-- A string literal's value. -/
  | str (value : String)
  /-- Any other expression, printed. -/
  | text (value : String)
  deriving Repr, Inhabited, BEq

/-- What follows an attribute's path. -/
inductive Meta where
  | path
  /-- A delimited list, kept as tokens. -/
  | list (tokens : List TokenTree)
  | nameValue (value : MetaValue)
  deriving Inhabited

/-- An attribute. -/
structure Attribute where
  leadingColon : Bool
  path : List String
  content : Meta
  deriving Inhabited

/-- Whether an attribute's path is exactly the one identifier `name`. -/
def Attribute.isNamed (a : Attribute) (name : String) : Bool :=
  !a.leadingColon && a.path == [name]

/-- A field of a struct or variant. -/
structure Field where
  attrs : List Attribute
  name : Option String
  ty : Ty
  deriving Inhabited

/-- The fields of a struct or variant. -/
inductive Fields where
  | named (fields : List Field)
  | unnamed (fields : List Field)
  | unit
  deriving Inhabited

/-- An enum variant. -/
structure Variant where
  attrs : List Attribute
  name : String
  fields : Fields
  deriving Inhabited

/-- An input of a function: `self` in some form, or a typed pattern. -/
inductive FnInput where
  | receiver
  | typed (attrs : List Attribute) (pat : Pat) (ty : Ty)
  deriving Inhabited

/-- A function with a body in an `impl` block. -/
structure ImplFn where
  attrs : List Attribute
  name : String
  inputs : List FnInput
  output : Option Ty
  deriving Inhabited

/-- An item. A struct, an enum and any other item keep the items declared inside them (in
their attributes, generics, field types, bodies, ...), in the order they are written. -/
inductive Item where
  | struct (attrs : List Attribute) (name : String) (typeParams : List String) (fields : Fields)
    (nested : List Item)
  | enum (attrs : List Attribute) (name : String) (variants : List Variant) (nested : List Item)
  /-- An `impl` block: its attributes, whether it implements a trait, its self type and functions.
  What is declared inside it is not kept. -/
  | impl (attrs : List Attribute) (ofTrait : Bool) (selfTy : Ty) (fns : List ImplFn)
  | other (nested : List Item)
  /-- An item kept as text only (a function without body, a constant without value, ...):
  nothing inside it is kept. -/
  | verbatim
  deriving Inhabited

/-- An item with the items declared inside it; an `impl` block and an item kept as text
keep none. -/
def Item.withNested (i : Item) (nested : List Item) : Item :=
  match i with
  | .struct attrs name params fields ns => .struct attrs name params fields (ns ++ nested)
  | .enum attrs name variants ns => .enum attrs name variants (ns ++ nested)
  | .other ns => .other (ns ++ nested)
  | .impl .. => i
  | .verbatim => .verbatim

/-- A parsed file: its items. -/
structure File where
  items : List Item
  deriving Inhabited

end Rust

end ApiSpec
