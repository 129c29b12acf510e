import ApiSpec.Source.Shape
import ApiSpec.Constraint

/-!
# Type descriptors

What a type reference resolves to: a primitive with an optional format, an array, an
enumeration of values, an object with fields, or a reference to a named type that was met
again while it was being described. A named object is known by its identity, the text of its
type expression after generic substitution (`Page<User>`).

An `Arena` keeps the named types resolved so far, in the order each identity was first
recorded; recording an identity again replaces its descriptor and keeps its place.
-/

namespace ApiSpec

/-- A field of an object descriptor, over the type of descriptors. -/
structure FieldOf (δ : Type) where
  name : String
  type : δ
  required : Bool
  docs : Option String
  constraints : Constraints
  sample : Option Json
  deriving Repr, Inhabited

/-- A resolved type. -/
inductive Descriptor where
  | primitive (kind : PrimitiveKind) (format : Option String)
  | array (elem : Descriptor)
  | enumeration (name : Option String) (values : List String)
  | object (name : Option String) (fields : List (FieldOf Descriptor))
  | reference (identity : String)
  deriving Repr, Inhabited

/-- A field of an object descriptor. -/
abbrev Field := FieldOf Descriptor

namespace Descriptor

/-- An object with no known members. -/
def freeObject : Descriptor := .object none []

/-- Whether the descriptor is a primitive. -/
def isPrimitive : Descriptor → Bool
  | .primitive .. => true
  | _ => false

/-- The descriptor of a primitive type name. -/
def ofPrimitiveName? (name : String) : Option Descriptor :=
  (primitiveOf? name).map fun (k, f) => .primitive k f

/-- The plain string descriptor. -/
def string : Descriptor := .primitive .string none

end Descriptor

/-- Named types in the order first recorded. -/
structure Arena where
  entries : List (String × Descriptor)
  deriving Repr, Inhabited

namespace Arena

/-- No named types. -/
def empty : Arena := ⟨[]⟩

/-- The descriptor recorded for an identity. -/
def get? (a : Arena) (identity : String) : Option Descriptor :=
  (a.entries.find? (·.1 == identity)).map (·.2)

/-- Records a descriptor; an identity recorded before keeps its place. -/
def insert (a : Arena) (identity : String) (d : Descriptor) : Arena :=
  if a.entries.any (·.1 == identity) then
    ⟨a.entries.map fun (k, v) => if k == identity then (k, d) else (k, v)⟩
  else ⟨a.entries ++ [(identity, d)]⟩

/-- How many named types are recorded. -/
def size (a : Arena) : Nat := a.entries.length

end Arena

end ApiSpec
