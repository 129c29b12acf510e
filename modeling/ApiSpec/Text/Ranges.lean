/-!
# Sets of code points as sorted ranges

A `Ranges` value is a sorted array of disjoint inclusive ranges of code points; membership is
a binary search. Tables are written compactly as text, `lo-hi` in hex separated by commas, and
read once by `Ranges.ofText`.
-/

namespace ApiSpec

/-- Sorted, disjoint, inclusive ranges of code points. -/
structure Ranges where
  ranges : Array (Nat × Nat)
  deriving Inhabited

namespace Ranges

/-- The value of a hex digit (0 for anything else). -/
def hexDigitValue (c : Char) : Nat :=
  if '0' ≤ c ∧ c ≤ '9' then c.toNat - '0'.toNat
  else if 'A' ≤ c ∧ c ≤ 'F' then c.toNat - 'A'.toNat + 10
  else if 'a' ≤ c ∧ c ≤ 'f' then c.toNat - 'a'.toNat + 10
  else 0

/-- The value of hex text. -/
def hexValue (s : String) : Nat := s.toList.foldl (fun acc c => 16 * acc + hexDigitValue c) 0

/-- Reads `lo-hi,lo-hi,…` in hex; a lone `x` stands for `x-x`. -/
def ofText (s : String) : Ranges :=
  ⟨((s.splitOn ",").filter (· ≠ "")).toArray.map fun part =>
    match part.splitOn "-" with
    | [lo, hi] => (hexValue lo, hexValue hi)
    | _ => (hexValue part, hexValue part)⟩

/-- Binary search between `lo` (inclusive) and `hi` (exclusive), at most `fuel` halvings. -/
def searchIn (t : Array (Nat × Nat)) (c : Nat) : Nat → Nat → Nat → Bool
  | 0, _, _ => false
  | fuel + 1, lo, hi =>
    if lo < hi then
      let mid := (lo + hi) / 2
      match t[mid]? with
      | some (a, b) =>
        if c < a then searchIn t c fuel lo mid
        else if c > b then searchIn t c fuel (mid + 1) hi
        else true
      | none => false
    else false

/-- Whether the code point lies in one of the ranges. -/
def contains (t : Ranges) (c : Nat) : Bool := searchIn t.ranges c 64 0 t.ranges.size

end Ranges

end ApiSpec
