/-!
# Binary64 values and their shortest decimal text

A binary64 value is kept as its 64-bit pattern, so that every operation here is exact
arithmetic on natural numbers.

* `Binary64.ofDecimal` rounds an exact decimal `m · 10^e` to the nearest value, a tie going
  to the even mantissa, and overflows to infinity; `Binary64.mul` and `Binary64.div` round
  an exact product or quotient the same way.
* `Binary64.shortest` finds, for a finite nonzero value, the fewest significant digits that
  read back to it, and of those the nearest (a tie goes to the even digit string).
* `Binary64.shortestText` writes those digits positionally while the decimal exponent of the
  leading digit lies in `-5 … 15` and as `d.ddde<exp>` otherwise; it always shows a point or
  an exponent. JSON text writes a nonnegative exponent with `+`, YAML text without.
  `Binary64.toPlainText` always writes positionally and drops a trailing `.0`.
-/

namespace ApiSpec

/-- An IEEE 754 binary64 value, as its bit pattern. -/
structure Binary64 where
  bits : UInt64
  deriving DecidableEq, Inhabited, Repr

namespace Binary64

/-! ### Fields of the bit pattern -/

/-- The sign bit. -/
def isNegative (x : Binary64) : Bool := x.bits >>> 63 == 1

/-- The biased exponent field, `0 … 2047`. -/
def biasedExponent (x : Binary64) : Nat := ((x.bits >>> 52) &&& 0x7FF).toNat

/-- The 52 fraction bits. -/
def fraction (x : Binary64) : Nat := (x.bits &&& 0xFFFFFFFFFFFFF).toNat

/-- Builds a value from its sign, biased exponent and fraction. -/
def ofFields (negative : Bool) (biased frac : Nat) : Binary64 :=
  ⟨UInt64.ofNat ((if negative then Nat.pow 2 63 else 0) + biased % 2048 * Nat.pow 2 52 + frac % Nat.pow 2 52)⟩

def isNaN (x : Binary64) : Bool := x.biasedExponent == 2047 && x.fraction != 0

def isInfinite (x : Binary64) : Bool := x.biasedExponent == 2047 && x.fraction == 0

def isFinite (x : Binary64) : Bool := x.biasedExponent != 2047

def isZero (x : Binary64) : Bool := x.biasedExponent == 0 && x.fraction == 0

def zero (negative : Bool) : Binary64 := ofFields negative 0 0

def infinity (negative : Bool) : Binary64 := ofFields negative 2047 0

/-- The quiet NaN with an empty payload. -/
def nan (negative : Bool) : Binary64 := ofFields negative 2047 (Nat.pow 2 51)

def negate (x : Binary64) : Binary64 := ⟨x.bits ^^^ 0x8000000000000000⟩

/-- The integer significand of a finite value: its value is `mantissa · 2 ^ exponent2`. -/
def mantissa (x : Binary64) : Nat :=
  if x.biasedExponent = 0 then x.fraction else x.fraction + Nat.pow 2 52

/-- The binary exponent of a finite value, so that its magnitude is `mantissa · 2 ^ exponent2`. -/
def exponent2 (x : Binary64) : Int :=
  if x.biasedExponent = 0 then -1074 else (x.biasedExponent : Int) - 1075

/-- Equality as the arithmetic compares: NaN equals nothing and the two zeros are equal. -/
def arithEq (x y : Binary64) : Bool :=
  if x.isNaN || y.isNaN then false
  else if x.isZero && y.isZero then true
  else x.bits == y.bits

/-! ### Exact comparison of `a · 2^q` with `b · 10^k` -/

/-- Compares `a · 2^q` with `b · 10^k` exactly. -/
def compareScaled (a : Nat) (q : Int) (b : Nat) (k : Int) : Ordering :=
  compare (a * Nat.pow 2 q.toNat * Nat.pow 10 (-k).toNat) (b * Nat.pow 10 k.toNat * Nat.pow 2 (-q).toNat)

/-! ### Reading an exact decimal -/

/-- Number of binary digits of `n` (0 for 0). -/
def bitLength (n : Nat) : Nat := if n = 0 then 0 else n.log2 + 1

/-- Rounds the positive fraction `num / den` to binary64 with the given sign. -/
def ofFraction (negative : Bool) (num den : Nat) : Binary64 :=
  if num = 0 ∨ den = 0 then zero negative
  else
    let b : Int := (bitLength num : Int) - bitLength den
    -- the mantissa at binary exponent `q`: `num / (den · 2^q)`, as a quotient and remainder
    let scaled := fun (q : Int) => (num * Nat.pow 2 (-q).toNat, den * Nat.pow 2 q.toNat)
    let q0 : Int := b - 52
    let q1 : Int :=
      let (n, d) := scaled q0
      if n / d < Nat.pow 2 52 then q0 - 1 else q0
    let q : Int := max q1 (-1074)
    let (n, d) := scaled q
    let m := n / d
    let r := n % d
    let up := 2 * r > d || (2 * r == d && m % 2 == 1)
    let m' := if up then m + 1 else m
    let (m'', q') := if m' = Nat.pow 2 53 then (Nat.pow 2 52, q + 1) else (m', q)
    if m'' < Nat.pow 2 52 then ofFields negative 0 m''
    else
      let biased := q' + 1075
      if biased ≥ 2047 then infinity negative
      else ofFields negative biased.toNat (m'' - Nat.pow 2 52)

/-- Number of decimal digits of `n` (1 for 0). -/
def decimalLength (n : Nat) : Nat := (Nat.toDigits 10 n).length

/-- The value nearest to `m · 10^e`, a tie going to the even mantissa. -/
def ofDecimal (negative : Bool) (m : Nat) (e : Int) : Binary64 :=
  if m = 0 then zero negative
  else
    let lead : Int := e + decimalLength m
    -- far outside the range: no need to build the huge powers
    if lead > 310 then infinity negative
    else if lead < -330 then zero negative
    else ofFraction negative (m * Nat.pow 10 e.toNat) (Nat.pow 10 (-e).toNat)

/-- The value nearest to the natural number `n`. -/
def ofNat (n : Nat) : Binary64 := ofFraction false n 1

/-- The value nearest to `10^i`, as a literal `1e<i>` reads. -/
def powerOfTen (i : Nat) : Binary64 := ofDecimal false 1 i

/-- The exact product of two finite values, rounded to the nearest value. -/
def mul (x y : Binary64) : Binary64 :=
  let e := x.exponent2 + y.exponent2
  ofFraction (x.isNegative != y.isNegative) (x.mantissa * y.mantissa * Nat.pow 2 e.toNat) (Nat.pow 2 (-e).toNat)

/-- The exact quotient of two finite values, the divisor nonzero, rounded to the nearest
value. -/
def div (x y : Binary64) : Binary64 :=
  let e := x.exponent2 - y.exponent2
  ofFraction (x.isNegative != y.isNegative) (x.mantissa * Nat.pow 2 e.toNat) (y.mantissa * Nat.pow 2 (-e).toNat)

/-- The exact value of a finite value in units of `2^-1074`, the smallest step of the format. -/
def units (x : Binary64) : Int :=
  let v : Int := (x.mantissa * Nat.pow 2 (x.exponent2 + 1074).toNat : Nat)
  if x.isNegative then -v else v

/-- The exact sum of two finite values, rounded to the nearest value; an exact zero is
negative only when both terms are. -/
def add (x y : Binary64) : Binary64 :=
  let s := x.units + y.units
  if s = 0 then zero (x.isNegative && y.isNegative)
  else ofFraction (s < 0) s.natAbs (Nat.pow 2 1074)

/-- Whether one finite value is below another. -/
def lt (x y : Binary64) : Bool := decide (x.units < y.units)

/-! ### Shortest digits -/

/-- Whether `c · 10^k` lies in the rounding interval of the finite positive value `x`
(its ends included when the mantissa is even). -/
def inInterval (x : Binary64) (c : Nat) (k : Int) : Bool :=
  let m := x.mantissa
  let q := x.exponent2
  let lowNum := if x.fraction = 0 ∧ x.biasedExponent > 1 then 4 * m - 1 else 4 * m - 2
  let highNum := 4 * m + 2
  let even := m % 2 == 0
  let lo := compareScaled lowNum q (4 * c) k
  let hi := compareScaled highNum q (4 * c) k
  (lo == .lt || (even && lo == .eq)) && (hi == .gt || (even && hi == .eq))

/-- At the grid `10^k`, the nearest point of the interval, if any point of the grid is in it. -/
def gridHit (x : Binary64) (k : Int) : Option Nat :=
  let m := x.mantissa
  let q := x.exponent2
  let num := m * Nat.pow 2 q.toNat * Nat.pow 10 (-k).toNat
  let den := Nat.pow 10 k.toNat * Nat.pow 2 (-q).toNat
  let c0 := num / den
  let c1 := c0 + 1
  let in0 := c0 > 0 && inInterval x c0 k
  let in1 := inInterval x c1 k
  match in0, in1 with
  | true, true =>
    -- the nearer of the two; a tie goes to the even one
    match compare (2 * num) ((c0 + c1) * den) with
    | .lt => some c0
    | .gt => some c1
    | .eq => if c0 % 2 == 0 then some c0 else some c1
  | true, false => some c0
  | false, true => some c1
  | false, false => none

/-- Walks the grids from `10^k` down, at most `fuel` of them. -/
def firstHit (x : Binary64) : Nat → Int → Option (Nat × Int)
  | 0, _ => none
  | fuel + 1, k =>
    match gridHit x k with
    | some c => some (c, k)
    | none => firstHit x fuel (k - 1)

/-- For a finite nonzero value: the fewest significant digits `c` and the exponent `k`
with `c · 10^k` reading back to the value, the nearest such. -/
def shortest (x : Binary64) : Nat × Int :=
  let t : Int := (bitLength x.mantissa : Int) + x.exponent2
  -- a grid coarser than the value itself holds no point of its interval
  let start : Int := t * 30103 / 100000 + 2
  (firstHit x 40 start).getD (x.mantissa, 0)

/-! ### Text -/

/-- `n` zeros. -/
def zeros (n : Nat) : String := String.ofList (List.replicate n '0')

/-- The decimal exponent of the exponent form, a nonnegative one with `+` when
`plus` is set. -/
def exponentText (plus : Bool) (e : Int) : String :=
  "e" ++ (if plus && e ≥ 0 then "+" else "") ++ toString e

/-- The shortest digits written positionally while the leading digit's exponent is within
`-5 … 15`, else in exponent form (a nonnegative exponent with `+` when `plus` is set);
a whole number keeps `.0`. Meant for finite values. -/
def shortestText (plus : Bool) (x : Binary64) : String :=
  let sign := if x.isNegative then "-" else ""
  if x.isZero then sign ++ "0.0"
  else
    let (c, k) := x.shortest
    let ds := Nat.toDigits 10 c
    let n : Int := ds.length
    let kk : Int := n + k
    let body :=
      if 0 ≤ k ∧ kk ≤ 16 then String.ofList ds ++ zeros k.toNat ++ ".0"
      else if 0 < kk ∧ kk ≤ 16 then
        String.ofList (ds.take kk.toNat) ++ "." ++ String.ofList (ds.drop kk.toNat)
      else if -5 < kk ∧ kk ≤ 0 then "0." ++ zeros (-kk).toNat ++ String.ofList ds
      else if ds.length = 1 then String.ofList ds ++ exponentText plus (kk - 1)
      else
        String.ofList (ds.take 1) ++ "." ++ String.ofList (ds.drop 1) ++ exponentText plus (kk - 1)
    sign ++ body

/-- The shortest text as YAML writes it: `1e16`, `1.5e-7`, `1000000000000000.0`. -/
def toNumberText (x : Binary64) : String := shortestText false x

/-- The shortest text as JSON writes it: `1e+16`, `1.5e-7`, `1000000000000000.0`. -/
def toJsonText (x : Binary64) : String := shortestText true x

/-- The shortest digits always written positionally, with no point for a whole number;
infinities are `inf` and NaN is `NaN`. -/
def toPlainText (x : Binary64) : String :=
  let sign := if x.isNegative then "-" else ""
  if x.isNaN then "NaN"
  else if x.isInfinite then sign ++ "inf"
  else if x.isZero then sign ++ "0"
  else
    let (c, k) := x.shortest
    let ds := Nat.toDigits 10 c
    let n : Int := ds.length
    let kk : Int := n + k
    let body :=
      if kk ≤ 0 then "0." ++ zeros (-kk).toNat ++ String.ofList ds
      else if 0 ≤ k then String.ofList ds ++ zeros k.toNat
      else String.ofList (ds.take kk.toNat) ++ "." ++ String.ofList (ds.drop kk.toNat)
    sign ++ body

end Binary64

end ApiSpec
