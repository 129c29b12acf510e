import ApiSpec.Constraint
import ApiSpec.Json.Value

/-!
# Schema objects

A schema object of the document, with its keywords in the order they are written: `$ref`,
`type`, `format`, `description`, `properties` (in declaration order), `required`, `items`,
`enum`, the length bounds, `pattern`, the value bounds, the item-count bounds, `not` and
`example`. A keyword without a value is not written.

`Schema.constrain` writes each constraint that is present over the keyword it names; the
excluded values become `not: {enum: …}`.
-/

namespace ApiSpec

/-- A schema object. -/
structure Schema where
  ref : Option String := none
  type : Option String := none
  format : Option String := none
  description : Option String := none
  properties : Option (List (String × Schema)) := none
  required : Option (List String) := none
  items : Option Schema := none
  enumValues : Option (List String) := none
  minLength : Option Nat := none
  maxLength : Option Nat := none
  pattern : Option String := none
  minimum : Option Binary64 := none
  maximum : Option Binary64 := none
  minItems : Option Nat := none
  maxItems : Option Nat := none
  not : Option Schema := none
  sample : Option Json := none
  deriving Inhabited, Repr

namespace Schema

/-- A schema of the given type and nothing else. -/
def ofType (t : String) : Schema := { type := some t }

/-- A reference to a component. -/
def refTo (component : String) : Schema := { ref := some ("#/components/schemas/" ++ component) }

/-- Writes the present constraints over their keywords. -/
def constrain (s : Schema) (c : Constraints) : Schema :=
  { s with
    type := Constraints.orKeep c.typeOverride s.type
    format := Constraints.orKeep c.format s.format
    minLength := Constraints.orKeep c.minLength s.minLength
    maxLength := Constraints.orKeep c.maxLength s.maxLength
    pattern := Constraints.orKeep c.pattern s.pattern
    minimum := Constraints.orKeep c.minimum s.minimum
    maximum := Constraints.orKeep c.maximum s.maximum
    minItems := Constraints.orKeep c.minItems s.minItems
    maxItems := Constraints.orKeep c.maxItems s.maxItems
    enumValues := Constraints.orKeep c.enumValues s.enumValues
    not := match c.notIn with
      | some vs => some { enumValues := some vs }
      | none => s.not }

mutual

/-- The schema as JSON. -/
def toJson : Schema → Json
  | ⟨ref, type, format, description, properties, required, items, enumValues, minLength,
      maxLength, pattern, minimum, maximum, minItems, maxItems, not, sample⟩ =>
    let opt := fun (k : String) (v : Option Json) => match v with
      | some j => [(k, j)]
      | none => []
    .object (opt "$ref" (ref.map .string) ++ opt "type" (type.map .string) ++
      opt "format" (format.map .string) ++ opt "description" (description.map .string) ++
      (match properties with
        | some ps => [("properties", .object (fieldsToJson ps))]
        | none => []) ++
      opt "required" (required.map Json.strings) ++
      (match items with
        | some i => [("items", toJson i)]
        | none => []) ++
      opt "enum" (enumValues.map Json.strings) ++
      opt "minLength" (minLength.map Json.nat) ++ opt "maxLength" (maxLength.map Json.nat) ++
      opt "pattern" (pattern.map .string) ++ opt "minimum" (minimum.map Json.binary) ++
      opt "maximum" (maximum.map Json.binary) ++ opt "minItems" (minItems.map Json.nat) ++
      opt "maxItems" (maxItems.map Json.nat) ++
      (match not with
        | some n => [("not", toJson n)]
        | none => []) ++
      opt "example" sample)

/-- Named schemas as JSON fields. -/
def fieldsToJson : List (String × Schema) → List (String × Json)
  | [] => []
  | (k, s) :: rest => (k, toJson s) :: fieldsToJson rest

end

end Schema

end ApiSpec
