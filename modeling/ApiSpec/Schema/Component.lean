import ApiSpec.Text.Basic

/-!
# Component names

A component of the document is named after the identity of its type. `componentName` keeps
the ASCII letters and digits, `.` and `-` of the identity (with `[]` first spelt `_Array`),
writes one `_` for each run of other characters that follows something kept, and drops the
`_` at the end: `Page<User[]>` becomes `Page_User_Array`.
-/

namespace ApiSpec

/-- Whether a character stays in a component name. -/
def isNameChar (c : Char) : Bool :=
  (c.toNat < 128 && (c.isAlphanum)) || c == '.' || c == '-'

/-- Builds a name from characters; `acc` is the name so far, reversed. -/
def componentChars : List Char → List Char → List Char
  | acc, [] => acc
  | acc, c :: rest =>
    if isNameChar c then componentChars (c :: acc) rest
    else match acc with
      | [] => componentChars acc rest
      | '_' :: _ => componentChars acc rest
      | _ => componentChars ('_' :: acc) rest

/-- The component name of a type identity. -/
def componentName (identity : String) : String :=
  let chars := componentChars [] (Text.replace identity "[]" "_Array").toList
  String.ofList (chars.dropWhile (· == '_')).reverse

end ApiSpec
