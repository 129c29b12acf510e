import ApiSpec.Resolve.Descriptor
import ApiSpec.Text.Case
import ApiSpec.Text.Basic

/-!
# Example values

When examples are on, a primitive property gets an example guessed from its format and its
name (lower-cased): dates, the uuid, then names that contain `email`, `phone`, `url` or
`website`, the first, last and user names, and names that end in `name`; an integer named
`id`, ending in `_id`, or (as written) in `Id` gets `1`. Nothing else gets an example.
-/

namespace ApiSpec

/-- The example for a string property. -/
def stringExample (name : String) (format : Option String) : Option String :=
  if format = some "date-time" then some "2024-01-01T00:00:00Z"
  else if format = some "date" then some "2024-01-01"
  else if format = some "uuid" then some "3fa85f64-5717-4562-b3fc-2c963f66afa6"
  else if Text.containsText name "email" then some "user@example.com"
  else if Text.containsText name "phone" then some "+1-555-0100"
  else if Text.containsText name "url" ∨ Text.containsText name "website" then some "https://example.com"
  else if name = "firstname" ∨ name = "first_name" then some "John"
  else if name = "lastname" ∨ name = "last_name" then some "Doe"
  else if name = "username" ∨ name = "user_name" then some "johndoe"
  else if Text.endsWith name "name" then some "John Doe"
  else none

/-- The example for a property of the given descriptor, guessed from its name. -/
def exampleFor (property : String) : Descriptor → Option Json
  | .primitive .string format => (stringExample (Text.lower property) format).map .string
  | .primitive .integer _ =>
    let name := Text.lower property
    if name = "id" ∨ Text.endsWith name "_id" ∨ Text.endsWith property "Id" then some (Json.nat 1) else none
  | _ => none

end ApiSpec
