import ApiSpec.Text.Blank

/-!
# Operations on text

Trimming, splitting, searching and replacing, all on the characters of a string. Trimming
without a predicate removes Unicode white space. Splitting at a separator keeps empty pieces,
so `n` separators give `n + 1` pieces; a search finds the leftmost occurrence, and replacing
works left to right on occurrences that do not overlap.
-/

namespace ApiSpec

namespace Text

/-- Drops leading characters that satisfy `p`. -/
def trimStartBy (p : Char → Bool) (s : String) : String := String.ofList (s.toList.dropWhile p)

/-- Drops trailing characters that satisfy `p`. -/
def trimEndBy (p : Char → Bool) (s : String) : String :=
  String.ofList (s.toList.reverse.dropWhile p).reverse

/-- Drops leading and trailing characters that satisfy `p`. -/
def trimBy (p : Char → Bool) (s : String) : String := trimEndBy p (trimStartBy p s)

/-- Drops leading and trailing white space. -/
def trim (s : String) : String := trimBy isBlank s

/-- Drops leading white space. -/
def trimStart (s : String) : String := trimStartBy isBlank s

/-- Drops trailing white space. -/
def trimEnd (s : String) : String := trimEndBy isBlank s

/-- Pieces of a character list between characters that satisfy `p`. -/
def splitListBy (p : Char → Bool) : List Char → List (List Char)
  | [] => [[]]
  | c :: rest =>
    if p c then [] :: splitListBy p rest
    else
      match splitListBy p rest with
      | [] => [[c]]
      | first :: others => (c :: first) :: others

/-- Pieces of a string between characters that satisfy `p`, empty pieces kept. -/
def splitBy (p : Char → Bool) (s : String) : List String :=
  (splitListBy p s.toList).map String.ofList

/-- Pieces of a character list between occurrences of a separator (which must not be empty),
`fuel` bounding the steps. -/
def splitListOn (sep : List Char) : Nat → List Char → List Char → List (List Char)
  | 0, acc, rest => [acc.reverse ++ rest]
  | fuel + 1, acc, rest =>
    match rest with
    | [] => [acc.reverse]
    | c :: more =>
      if sep ≠ [] ∧ sep.isPrefixOf rest then acc.reverse :: splitListOn sep fuel [] (rest.drop sep.length)
      else splitListOn sep fuel (c :: acc) more

/-- Pieces of a string between occurrences of `sep`, empty pieces kept. -/
def splitOn (sep : String) (s : String) : List String :=
  (splitListOn sep.toList (s.length + 1) [] s.toList).map String.ofList

/-- Whether `pre` starts the string. -/
def startsWith (s pre : String) : Bool := pre.toList.isPrefixOf s.toList

/-- Whether `suf` ends the string. -/
def endsWith (s suf : String) : Bool := suf.toList.reverse.isPrefixOf s.toList.reverse

/-- The string after `pre`, when it starts with it. -/
def stripPrefix? (s pre : String) : Option String :=
  if startsWith s pre then some (String.ofList (s.toList.drop pre.length)) else none

/-- The string before `suf`, when it ends with it. -/
def stripSuffix? (s suf : String) : Option String :=
  if endsWith s suf then some (String.ofList (s.toList.take (s.length - suf.length))) else none

/-- The index (in characters) of the first occurrence of `pat` at or after `i`. -/
def findListFrom (pat : List Char) : List Char → Nat → Option Nat
  | [], i => if pat.isEmpty then some i else none
  | c :: rest, i => if pat.isPrefixOf (c :: rest) then some i else findListFrom pat rest (i + 1)

/-- The index (in characters) of the first occurrence of `pat`. -/
def find? (s pat : String) : Option Nat := findListFrom pat.toList s.toList 0

/-- Whether `pat` occurs in the string. -/
def containsText (s pat : String) : Bool := (find? s pat).isSome

/-- Replaces occurrences of a non-empty pattern, left to right, `fuel` bounding the steps. -/
def replaceList (pat rep : List Char) : Nat → List Char → List Char
  | 0, rest => rest
  | fuel + 1, rest =>
    match rest with
    | [] => []
    | c :: more =>
      if pat ≠ [] ∧ pat.isPrefixOf rest then rep ++ replaceList pat rep fuel (rest.drop pat.length)
      else c :: replaceList pat rep fuel more

/-- Replaces every occurrence of `pat` by `rep`. -/
def replace (s pat rep : String) : String :=
  String.ofList (replaceList pat.toList rep.toList (s.length + 1) s.toList)

end Text

end ApiSpec
