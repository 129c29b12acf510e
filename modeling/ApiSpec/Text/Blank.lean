import ApiSpec.Text.Ranges

/-!
# Blank characters

The Unicode `White_Space` property: the characters that trimming removes and that separate
words.
-/

namespace ApiSpec

namespace Text

/-- The `White_Space` code points. -/
def blankTable : Ranges := Ranges.ofText <|
  "9-D,20-20,85-85,A0-A0,1680-1680,2000-200A,2028-2029,202F-202F,205F-205F,3000-3000"

/-- Whether a character is Unicode white space. The table's ASCII part is tab to carriage
return and the space, so ASCII is decided without it. -/
def isBlank (c : Char) : Bool :=
  if c.toNat < 128 then c.toNat == 32 || (9 ≤ c.toNat && c.toNat ≤ 13)
  else blankTable.contains c.toNat

end Text

end ApiSpec
