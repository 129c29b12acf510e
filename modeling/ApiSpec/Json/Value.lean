import ApiSpec.Number.Binary64

/-!
# JSON values

A JSON value whose objects keep their fields in the order written. A number is an unsigned
integer below `2^64`, a negative integer of at least `-2^63`, or a binary64 value: the three
kinds a reader distinguishes, so that a value read and written again keeps its text.
-/

namespace ApiSpec

/-- The three kinds of JSON number. -/
inductive JsonNumber where
  | unsigned (n : Nat)
  | negative (n : Int)
  | binary (x : Binary64)
  deriving DecidableEq, Inhabited, Repr

/-- A JSON value; object fields keep their order. -/
inductive Json where
  | null
  | bool (b : Bool)
  | number (n : JsonNumber)
  | string (s : String)
  | array (items : List Json)
  | object (fields : List (String × Json))
  deriving Inhabited, Repr

namespace Json

/-- A natural number as a JSON number. -/
def nat (n : Nat) : Json := .number (.unsigned n)

/-- A binary64 value as a JSON number. -/
def binary (x : Binary64) : Json := .number (.binary x)

/-- `null` for `none`. -/
def opt {α : Type} (f : α → Json) : Option α → Json
  | some a => f a
  | none => .null

/-- An optional string. -/
def optString : Option String → Json := opt .string

/-- A list of strings. -/
def strings (xs : List String) : Json := .array (xs.map .string)

/-- The value of the first field of that name. -/
def field? (j : Json) (name : String) : Option Json :=
  match j with
  | .object fields => (fields.find? (·.1 == name)).map (·.2)
  | _ => none

end Json

end ApiSpec
