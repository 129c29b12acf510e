import ApiSpec.Text.Case
import ApiSpec.Text.Letter
import ApiSpec.Text.Basic

/-!
# Words of an identifier and case styles

`Text.words` cuts a text into words: first at every character that is neither alphabetic nor
numeric, then inside each piece before an upper-case letter that follows a lower-case one
(`userId` → `user`, `Id`), and before the last of a run of upper-case letters that a lower-case
letter follows (`XMLHttp` → `XML`, `Http`). Characters without case stay with the letters
around them.

The case styles write those words: title case (`Xml Http Request`), snake, kebab, and their
upper-case forms, and the two camel cases. A word is capitalised by upper-casing its first
character and lower-casing the rest, a capital sigma at the end becoming `ς`.
-/

namespace ApiSpec

namespace Text

/-- What the letters of the current word were so far. -/
inductive WordMode where
  | boundary
  | lower
  | upper
  deriving DecidableEq

/-- Cuts one run of alphanumeric characters into words; `cur` holds the current word,
reversed. -/
def splitRun (mode : WordMode) (cur : List Char) : List Char → List (List Char)
  | [] => if cur.isEmpty then [] else [cur.reverse]
  | [c] => [(c :: cur).reverse]
  | c :: next :: rest =>
    let nextMode := if isLowercase c then WordMode.lower else if isUppercase c then .upper else mode
    if nextMode = .lower ∧ isUppercase next then
      (c :: cur).reverse :: splitRun .boundary [] (next :: rest)
    else if mode = .upper ∧ isUppercase c ∧ isLowercase next then
      cur.reverse :: splitRun .boundary [c] (next :: rest)
    else splitRun nextMode (c :: cur) (next :: rest)

/-- The words of a text. -/
def words (s : String) : List String :=
  (splitListBy (fun c => !isAlphanumeric c) s.toList).flatMap (fun run => (splitRun .boundary [] run).map String.ofList)

/-- Lower-cases a word character by character, a final capital sigma becoming `ς`. -/
def lowerWordList : List Char → List Char
  | [] => []
  | [c] => if c.toNat == 0x3A3 then [Char.ofNat 0x3C2] else lowerChar c
  | c :: rest => lowerChar c ++ lowerWordList rest

/-- A word lower-cased. -/
def lowerWord (w : String) : String := String.ofList (lowerWordList w.toList)

/-- A word upper-cased. -/
def upperWord (w : String) : String := String.ofList (w.toList.flatMap upperChar)

/-- A word with its first character upper-cased and the rest lower-cased. -/
def capitalize (w : String) : String :=
  match w.toList with
  | [] => ""
  | c :: rest => String.ofList (upperChar c ++ lowerWordList rest)

/-- `Title Case`. -/
def titleCase (s : String) : String := " ".intercalate ((words s).map capitalize)

/-- `snake_case`. -/
def snakeCase (s : String) : String := "_".intercalate ((words s).map lowerWord)

/-- `kebab-case`. -/
def kebabCase (s : String) : String := "-".intercalate ((words s).map lowerWord)

/-- `SCREAMING_SNAKE_CASE`. -/
def shoutySnakeCase (s : String) : String := "_".intercalate ((words s).map upperWord)

/-- `SCREAMING-KEBAB-CASE`. -/
def shoutyKebabCase (s : String) : String := "-".intercalate ((words s).map upperWord)

/-- `PascalCase`. -/
def pascalCase (s : String) : String := String.join ((words s).map capitalize)

/-- `camelCase`. -/
def camelCase (s : String) : String :=
  match words s with
  | [] => ""
  | w :: rest => String.join (lowerWord w :: rest.map capitalize)

end Text

end ApiSpec
