import ApiSpec.Number.Binary64

/-!
# Reading numbers from text

Two readers of the text of a number, both strict about the whole string.

* `readUnsigned64?` accepts an optional `+` and at least one ASCII digit, of value below
  `2^64`.
* `Binary64.readDecimal?` accepts an optional sign and then `inf`, `infinity` or `nan` in any
  case, or a decimal of digits with at most one point (a digit on at least one side of it)
  and an optional exponent `e`/`E` with an optional sign and at least one digit. The value is
  the nearest binary64, so an exponent out of range gives an infinity or a zero.
-/

namespace ApiSpec

/-- The value of a list of ASCII digits. -/
def digitsValue (ds : List Char) : Nat :=
  ds.foldl (fun acc c => 10 * acc + (c.toNat - '0'.toNat)) 0

/-- An unsigned 64-bit number: an optional `+`, then ASCII digits only, below `2^64`. -/
def readUnsigned64? (s : String) : Option Nat :=
  let cs := s.toList
  let body := match cs with
    | '+' :: rest => rest
    | _ => cs
  if body.isEmpty || !body.all Char.isDigit then none
  else
    let v := digitsValue body
    if v < Nat.pow 2 64 then some v else none

namespace Binary64

/-- Splits off the longest prefix of ASCII digits. -/
def spanDigits (cs : List Char) : List Char × List Char :=
  (cs.takeWhile Char.isDigit, cs.dropWhile Char.isDigit)

/-- The decimal part of a number after its sign: digits, point, digits, exponent. -/
def readUnsignedDecimal? (negative : Bool) (cs : List Char) : Option Binary64 :=
  let (whole, rest) := spanDigits cs
  let (frac, rest) := match rest with
    | '.' :: r => spanDigits r
    | _ => ([], rest)
  if whole.isEmpty && frac.isEmpty then none
  else
    let expo : Option Int := match rest with
      | [] => some 0
      | c :: r =>
        if c == 'e' || c == 'E' then
          let (neg, ds) := match r with
            | '+' :: d => (false, d)
            | '-' :: d => (true, d)
            | d => (false, d)
          if ds.isEmpty || !ds.all Char.isDigit then none
          else
            let v : Int := digitsValue ds
            some (if neg then -v else v)
        else none
    match expo with
    | none => none
    | some e => some (ofDecimal negative (digitsValue (whole ++ frac)) (e - frac.length))

/-- A binary64 from its decimal text: `inf`, `infinity`, `nan` in any case, or a decimal. -/
def readDecimal? (s : String) : Option Binary64 :=
  let cs := s.toList
  let (negative, body) := match cs with
    | '+' :: r => (false, r)
    | '-' :: r => (true, r)
    | _ => (false, cs)
  let word := String.ofList (body.map Char.toLower)
  if word == "inf" || word == "infinity" then some (infinity negative)
  else if word == "nan" then some (nan negative)
  else readUnsignedDecimal? negative body

end Binary64

end ApiSpec
