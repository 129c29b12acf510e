import ApiSpec.Json.Value

/-!
# Writing JSON text

`Json.compact` writes a value with no blanks; `Json.pretty` writes one field or item per line,
indented by two spaces a level, with `": "` after a key, and `[]`/`{}` for empty containers.
Strings escape the quote, the backslash and the control characters: `\b \t \n \f \r` by name
and the others as `\u00xx` with lower-case hex digits; every other character stands as it is.
A number keeps its kind: integers in decimal, a binary64 in shortest form, and an infinity or a
NaN as `null`.
-/

namespace ApiSpec

namespace Json

/-- Lower-case hex digit. -/
def hexDigit (n : Nat) : Char :=
  if n < 10 then Char.ofNat ('0'.toNat + n) else Char.ofNat ('a'.toNat + n - 10)

/-- The escaped form of one character inside a string. -/
def escapeChar (c : Char) : List Char :=
  if c = '"' then ['\\', '"']
  else if c = '\\' then ['\\', '\\']
  else if c = '\n' then ['\\', 'n']
  else if c = '\r' then ['\\', 'r']
  else if c = '\t' then ['\\', 't']
  else if c.toNat = 8 then ['\\', 'b']
  else if c.toNat = 12 then ['\\', 'f']
  else if c.toNat < 32 then
    ['\\', 'u', '0', '0', hexDigit (c.toNat / 16), hexDigit (c.toNat % 16)]
  else [c]

/-- A string as a quoted JSON string. -/
def quote (s : String) : String :=
  String.ofList ('"' :: (s.toList.flatMap escapeChar ++ ['"']))

/-- The text of a number. -/
def numberText : JsonNumber → String
  | .unsigned n => toString n
  | .negative n => toString n
  | .binary x => if x.isFinite then x.toJsonText else "null"

mutual

/-- Compact text: no blanks at all. -/
def compact : Json → String
  | .null => "null"
  | .bool b => if b then "true" else "false"
  | .number n => numberText n
  | .string s => quote s
  | .array items => "[" ++ compactItems items ++ "]"
  | .object fields => "\x7b" ++ compactFields fields ++ "\x7d"

/-- Items joined by commas. -/
def compactItems : List Json → String
  | [] => ""
  | [j] => compact j
  | j :: rest => compact j ++ "," ++ compactItems rest

/-- Fields joined by commas. -/
def compactFields : List (String × Json) → String
  | [] => ""
  | [(k, v)] => quote k ++ ":" ++ compact v
  | (k, v) :: rest => quote k ++ ":" ++ compact v ++ "," ++ compactFields rest

end

/-- Two spaces per level. -/
def indentText (level : Nat) : String := String.ofList (List.replicate (2 * level) ' ')

mutual

/-- Pretty text at nesting `level`: one item or field per line. -/
def prettyAt (level : Nat) : Json → String
  | .array [] => "[]"
  | .object [] => "\x7b\x7d"
  | .array items => "[" ++ prettyItems (level + 1) items ++ "\n" ++ indentText level ++ "]"
  | .object fields => "\x7b" ++ prettyFields (level + 1) fields ++ "\n" ++ indentText level ++ "\x7d"
  | j => compact j

/-- Items, each on its own line at `level`. -/
def prettyItems (level : Nat) : List Json → String
  | [] => ""
  | [j] => "\n" ++ indentText level ++ prettyAt level j
  | j :: rest => "\n" ++ indentText level ++ prettyAt level j ++ "," ++ prettyItems level rest

/-- Fields, each on its own line at `level`. -/
def prettyFields (level : Nat) : List (String × Json) → String
  | [] => ""
  | [(k, v)] => "\n" ++ indentText level ++ quote k ++ ": " ++ prettyAt level v
  | (k, v) :: rest =>
    "\n" ++ indentText level ++ quote k ++ ": " ++ prettyAt level v ++ "," ++ prettyFields level rest

end

/-- Pretty text of a whole value. -/
def pretty (j : Json) : String := prettyAt 0 j

end Json

end ApiSpec
