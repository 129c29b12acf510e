import ApiSpec.Text.Printable

/-!
# Quoted text for messages

`Text.debugQuote` puts a string in double quotes the way messages show a string value: a
backslash escapes the quote, the backslash, tab, carriage return, line feed and NUL; any other
character that does not print as itself, or that extends a grapheme, becomes `\u{hex}` with
lower-case hex digits and no leading zeros; all else stands as it is.
-/

namespace ApiSpec

namespace Text

/-- Lower-case hex digits of a number, without leading zeros. -/
def hexText (n : Nat) : String :=
  String.ofList ((Nat.toDigits 16 n).map Char.toLower)

/-- One character inside a quoted string. -/
def debugEscape (c : Char) : String :=
  if c = '\x00' then "\\0"
  else if c = '\t' then "\\t"
  else if c = '\r' then "\\r"
  else if c = '\n' then "\\n"
  else if c = '\\' then "\\\\"
  else if c = '"' then "\\\""
  else if isGraphemeExtend c || !isPrintable c then "\\u\x7b" ++ hexText c.toNat ++ "\x7d"
  else c.toString

/-- A string in double quotes, escaped for a message. -/
def debugQuote (s : String) : String :=
  "\"" ++ String.join (s.toList.map debugEscape) ++ "\""

end Text

end ApiSpec
