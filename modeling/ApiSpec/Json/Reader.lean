import ApiSpec.Data.Node
import ApiSpec.Number.Reading

/-!
# Reading JSON text

`Json.read` turns JSON text into a `Node`. Columns count the bytes read so far on the line,
and a fault points just past the character that showed it (or at the end of the text). A
number without point or exponent is an integer kind when it fits (`unsigned` below `2^64`,
`negative` down to `-2^63`; `-0` is the binary64 negative zero). Any other number is read
the quick way: at most 64 bits of significand, rounded to binary64 and scaled by one
binary64 power of ten, so a long or far-out number may land a step off the nearest value;
one too large is a fault. Containers may nest 127 deep.
-/

namespace ApiSpec

/-- What is wrong with a JSON text. -/
inductive JsonFault where
  | eofInList
  | eofInObject
  | eofInString
  | eofInValue
  | expectedColon
  | expectedListCommaOrEnd
  | expectedObjectCommaOrEnd
  | expectedIdent
  | expectedValue
  | invalidEscape
  | invalidNumber
  | numberOutOfRange
  | invalidCodePoint
  | controlCharacter
  | keyMustBeString
  | loneSurrogate
  | trailingComma
  | trailingCharacters
  | unexpectedEndOfHexEscape
  | recursionLimit
  deriving DecidableEq, Repr

namespace JsonFault

/-- The wording of each fault. -/
def message : JsonFault → String
  | .eofInList => "EOF while parsing a list"
  | .eofInObject => "EOF while parsing an object"
  | .eofInString => "EOF while parsing a string"
  | .eofInValue => "EOF while parsing a value"
  | .expectedColon => "expected `:`"
  | .expectedListCommaOrEnd => "expected `,` or `]`"
  | .expectedObjectCommaOrEnd => "expected `,` or `\x7d`"
  | .expectedIdent => "expected ident"
  | .expectedValue => "expected value"
  | .invalidEscape => "invalid escape"
  | .invalidNumber => "invalid number"
  | .numberOutOfRange => "number out of range"
  | .invalidCodePoint => "invalid unicode code point"
  | .controlCharacter => "control character (\\u0000-\\u001F) found while parsing a string"
  | .keyMustBeString => "key must be a string"
  | .loneSurrogate => "lone leading surrogate in hex escape"
  | .trailingComma => "trailing comma"
  | .trailingCharacters => "trailing characters"
  | .unexpectedEndOfHexEscape => "unexpected end of hex escape"
  | .recursionLimit => "recursion limit exceeded"

end JsonFault

namespace Json

/-- The unread rest of a text and the place reached. -/
structure Cursor where
  rest : List Char
  line : Nat
  column : Nat
  deriving Inhabited

namespace Cursor

/-- The place reached: bytes read on the current line. -/
def mark (c : Cursor) : Mark := ⟨c.line, c.column⟩

/-- The place just past the next character. -/
def peekMark (c : Cursor) : Mark :=
  match c.rest with
  | [] => c.mark
  | '\n' :: _ => ⟨c.line + 1, 0⟩
  | _ :: _ => ⟨c.line, c.column + 1⟩

/-- Steps over the next character. -/
def advance (c : Cursor) : Cursor :=
  match c.rest with
  | [] => c
  | ch :: r => if ch = '\n' then ⟨r, c.line + 1, 0⟩ else ⟨r, c.line, c.column + ch.utf8Size⟩

/-- The next character. -/
def peek? (c : Cursor) : Option Char := c.rest.head?

/-- A fault at the place reached. -/
def fault (c : Cursor) (f : JsonFault) : Fault := ⟨f.message, c.mark⟩

/-- A fault just past the next character. -/
def peekFault (c : Cursor) (f : JsonFault) : Fault := ⟨f.message, c.peekMark⟩

end Cursor

/-- Skips blanks: space, tab, carriage return and line feed. -/
def skipBlank : List Char → Nat → Nat → Cursor
  | ch :: r, line, col =>
    if ch = '\n' then skipBlank r (line + 1) 0
    else if ch = ' ' ∨ ch = '\t' ∨ ch = '\r' then skipBlank r line (col + 1)
    else ⟨ch :: r, line, col⟩
  | [], line, col => ⟨[], line, col⟩

/-- Skips blanks at a cursor. -/
def Cursor.blank (c : Cursor) : Cursor := skipBlank c.rest c.line c.column

/-! ### Strings -/

/-- The value of a hex digit. -/
def hexValue? (c : Char) : Option Nat :=
  if '0' ≤ c ∧ c ≤ '9' then some (c.toNat - '0'.toNat)
  else if 'a' ≤ c ∧ c ≤ 'f' then some (c.toNat - 'a'.toNat + 10)
  else if 'A' ≤ c ∧ c ≤ 'F' then some (c.toNat - 'A'.toNat + 10)
  else none

/-- Four hex digits after `\u`. -/
def hexEscape (c : Cursor) : Except Fault (Nat × Cursor) :=
  match c.rest with
  | a :: b :: d :: e :: _ =>
    let c' := c.advance.advance.advance.advance
    match hexValue? a, hexValue? b, hexValue? d, hexValue? e with
    | some w, some x, some y, some z => .ok (((w * 16 + x) * 16 + y) * 16 + z, c')
    | _, _, _, _ => .error (c'.fault .invalidEscape)
  | _ =>
    let rec toEnd (k : Cursor) : List Char → Cursor
      | [] => k
      | _ :: r => toEnd k.advance r
    .error ((toEnd c c.rest).fault .eofInString)

/-- The character of a `\u` escape, reading a second escape for a surrogate pair. -/
def unicodeEscape (c : Cursor) : Except Fault (Char × Cursor) := do
  let (n, c) ← hexEscape c
  if 0xDC00 ≤ n ∧ n ≤ 0xDFFF then .error (c.fault .loneSurrogate)
  else if 0xD800 ≤ n ∧ n ≤ 0xDBFF then
    match c.peek? with
    | none => .error (c.fault .eofInString)
    | some '\\' =>
      let c := c.advance
      match c.peek? with
      | none => .error (c.fault .eofInString)
      | some 'u' =>
        let (n2, c) ← hexEscape c.advance
        if n2 < 0xDC00 ∨ n2 > 0xDFFF then .error (c.fault .loneSurrogate)
        else
          let v := (n - 0xD800) * 1024 + (n2 - 0xDC00) + 0x10000
          .ok (Char.ofNat v, c)
      | some _ => .error (c.advance.fault .unexpectedEndOfHexEscape)
    | some _ => .error (c.advance.fault .unexpectedEndOfHexEscape)
  else .ok (Char.ofNat n, c)

/-- Reads the body of a string after its opening quote, up to and past the closing one. -/
def stringBody (fuel : Nat) (c : Cursor) (acc : List Char) : Except Fault (String × Cursor) :=
  match fuel with
  | 0 => .error (c.fault .eofInString)
  | fuel + 1 =>
    match c.rest with
    | [] => .error (c.fault .eofInString)
    | '"' :: _ => .ok (String.ofList acc.reverse, c.advance)
    | '\\' :: _ =>
      let c := c.advance
      match c.rest with
      | [] => .error (c.fault .eofInString)
      | e :: _ =>
        let c' := c.advance
        let simple : Option Char :=
          if e = '"' then some '"' else if e = '\\' then some '\\' else if e = '/' then some '/'
          else if e = 'b' then some (Char.ofNat 8) else if e = 'f' then some (Char.ofNat 12)
          else if e = 'n' then some '\n' else if e = 'r' then some '\r'
          else if e = 't' then some '\t' else none
        match simple with
        | some ch => stringBody fuel c' (ch :: acc)
        | none =>
          if e = 'u' then
            match unicodeEscape c' with
            | .ok (ch, c'') => stringBody fuel c'' (ch :: acc)
            | .error f => .error f
          else .error (c'.fault .invalidEscape)
    | ch :: _ =>
      if ch.toNat < 32 then .error (c.advance.fault .controlCharacter)
      else stringBody fuel c.advance (ch :: acc)

/-- Reads a string whose opening quote is the next character. -/
def readString (c : Cursor) : Except Fault (String × Cursor) :=
  stringBody (c.rest.length + 1) c.advance []

/-! ### Numbers -/

/-- Reads ASCII digits (one byte each, never a line break). -/
def readDigits (c : Cursor) : List Char × Cursor :=
  let ds := c.rest.takeWhile Char.isDigit
  (ds, ⟨c.rest.dropWhile Char.isDigit, c.line, c.column + ds.length⟩)

/-- The value of a decimal digit. -/
def digitOf (d : Char) : Nat := d.toNat - '0'.toNat

/-- Whether `s · 10 + d` passes the largest unsigned 64-bit value. -/
def passesU64 (s d : Nat) : Bool :=
  s ≥ (Nat.pow 2 64 - 1) / 10 && (s > (Nat.pow 2 64 - 1) / 10 || d > (Nat.pow 2 64 - 1) % 10)

/-- Whether `e · 10 + d` passes the largest signed 32-bit value. -/
def passesI32 (e d : Nat) : Bool :=
  e ≥ (Nat.pow 2 31 - 1) / 10 && (e > (Nat.pow 2 31 - 1) / 10 || d > (Nat.pow 2 31 - 1) % 10)

/-- The digits before the point taken into the significand `s` while it stays within 64 bits;
every digit from the first that does not fit on counts as a factor ten. Answers the
significand and that count. -/
def wholeParts : Nat → List Char → Nat × Nat
  | s, [] => (s, 0)
  | s, d :: ds => if passesU64 s (digitOf d) then (s, ds.length + 1) else wholeParts (s * 10 + digitOf d) ds

/-- The digits after the point taken into the significand `s` while it stays within 64 bits;
from the first that does not fit on they are dropped. Answers the significand and the number
of digits taken. -/
def fractionParts : Nat → List Char → Nat × Nat
  | s, [] => (s, 0)
  | s, d :: ds =>
    if passesU64 s (digitOf d) then (s, 0)
    else
      let (s', n) := fractionParts (s * 10 + digitOf d) ds
      (s', n + 1)

/-- Exponent digits read as a signed 32-bit value: the value, or the number of digits read
up to and with the first that passes the largest one. -/
def exponentDigits : Nat → List Char → Except Nat Nat
  | e, [] => .ok e
  | e, d :: ds =>
    if passesI32 e (digitOf d) then .error 1
    else match exponentDigits (e * 10 + digitOf d) ds with
      | .ok v => .ok v
      | .error k => .error (k + 1)

/-- Clamps to the signed 32-bit range, as a saturating sum stops there. -/
def clampI32 (e : Int) : Int := max (-Int.pow 2 31) (min (Int.pow 2 31 - 1) e)

/-- The magnitude `significand · 10^exponent` as JSON reading computes it: the significand
rounded to binary64, then multiplied or divided by the binary64 power of ten; an exponent
below `-308` first divides by `1e308` (a zero stays zero). `none` when the result is too large. -/
def scaledMagnitude (significand : Nat) (exponent : Int) : Option Binary64 :=
  go 8 (Binary64.ofNat significand) exponent
where
  /-- Each step below `-308` leaves a nonzero significand at most `2^64 · 10^-308`, so the
  second such step reaches zero and a few steps of fuel suffice. -/
  go : Nat → Binary64 → Int → Option Binary64
    | 0, f, _ => some f
    | fuel + 1, f, e =>
      if e.natAbs ≤ 308 then
        if e ≥ 0 then
          let g := f.mul (Binary64.powerOfTen e.natAbs)
          if g.isInfinite then none else some g
        else some (f.div (Binary64.powerOfTen e.natAbs))
      else if f.isZero then some f
      else if e ≥ 0 then none
      else go fuel (f.div (Binary64.powerOfTen 308)) (e + 308)

/-- Reads a number whose first character (a digit or `-`) is next. -/
def readNumber (c : Cursor) : Except Fault (JsonNumber × Cursor) := do
  let (negative, c) := if c.peek? == some '-' then (true, c.advance) else (false, c)
  let (whole, c) ← match c.rest with
    | [] => .error (c.fault .eofInValue)
    | '0' :: r =>
      match r with
      | d :: _ => if d.isDigit then .error (c.advance.peekFault .invalidNumber) else .ok (['0'], c.advance)
      | [] => .ok (['0'], c.advance)
    | d :: _ =>
      if d.isDigit then .ok (readDigits c)
      else .error (c.advance.fault .invalidNumber)
  let (frac, c, hasPoint) ← match c.rest with
    | '.' :: _ =>
      let c := c.advance
      let (ds, c') := readDigits c
      if ds.isEmpty then
        match c'.rest with
        | [] => .error (c'.peekFault .eofInValue)
        | _ => .error (c'.peekFault .invalidNumber)
      else .ok (ds, c', true)
    | _ => .ok ([], c, false)
  let (s0, wholeLeft) := wholeParts 0 whole
  let (significand, fracTaken) := fractionParts s0 frac
  -- `some e` is the exponent written; `none` an exponent too long for 32 bits that gives zero
  let (expo, c, hasExp) ← match c.rest with
    | e :: _ =>
      if e = 'e' ∨ e = 'E' then
        let c := c.advance
        let (neg, c) := match c.rest with
          | '+' :: _ => (false, c.advance)
          | '-' :: _ => (true, c.advance)
          | _ => (false, c)
        match c.rest with
        | [] => .error (c.fault .eofInValue)
        | d :: _ =>
          if d.isDigit then
            let (ds, c') := readDigits c
            match exponentDigits 0 ds with
            | .ok v => .ok (some (if neg then -(v : Int) else v), c', true)
            | .error k =>
              if significand ≠ 0 && !neg then
                .error (Fault.mk JsonFault.numberOutOfRange.message ⟨c.line, c.column + k⟩)
              else .ok (none, c', true)
          else .error (c.advance.fault .invalidNumber)
      else .ok (some 0, c, false)
    | [] => .ok (some 0, c, false)
  if !hasPoint && !hasExp then
    let m := digitsValue whole
    if !negative && m < Nat.pow 2 64 then return (.unsigned m, c)
    if negative && m ≤ Nat.pow 2 63 && m ≠ 0 then return (.negative (-(m : Int)), c)
  match expo with
  | none => .ok (.binary (Binary64.zero negative), c)
  | some ex =>
    match scaledMagnitude significand (clampI32 ((wholeLeft : Int) - fracTaken + ex)) with
    | none => .error (c.fault .numberOutOfRange)
    | some x => .ok (.binary (if negative then x.negate else x), c)

/-! ### Values -/

/-- Reads an expected word such as `true` after its first letter. -/
def readWord (c : Cursor) : List Char → Except Fault Cursor
  | [] => .ok c
  | w :: ws =>
    match c.rest with
    | [] => .error (c.fault .eofInValue)
    | ch :: _ => if ch = w then readWord c.advance ws else .error (c.advance.fault .expectedIdent)

/-- What reading a value gave: the node, and the cursor after it unless reading stopped. -/
abbrev Reading := Node × Option Cursor

mutual

/-- Reads one value after blanks; `depth` is how many containers may still open. -/
def readValue (fuel depth : Nat) (c : Cursor) : Reading :=
  match fuel with
  | 0 => (.broken (c.fault .recursionLimit), none)
  | fuel + 1 =>
    let c := c.blank
    let start := c.mark
    match c.rest with
    | [] => (.broken (c.peekFault .eofInValue), none)
    | ch :: _ =>
      let word := fun (w : List Char) (s : Scalar) =>
        match readWord c.advance w with
        | .ok c' => (Node.scalar s start c'.mark, some c')
        | .error f => (Node.broken f, none)
      if ch = 'n' then word ['u', 'l', 'l'] .null
      else if ch = 't' then word ['r', 'u', 'e'] (.bool true)
      else if ch = 'f' then word ['a', 'l', 's', 'e'] (.bool false)
      else if ch = '-' ∨ ch.isDigit then
        match readNumber c with
        | .ok (n, c') => (.scalar (.number n) start c'.mark, some c')
        | .error f => (.broken f, none)
      else if ch = '"' then
        match readString c with
        | .ok (s, c') => (.scalar (.string s) start c'.mark, some c')
        | .error f => (.broken f, none)
      else if ch = '[' then
        if depth ≤ 1 then (.broken (c.peekFault .recursionLimit), none)
        else readItems fuel (depth - 1) c.advance start [] true
      else if ch = '{' then
        if depth ≤ 1 then (.broken (c.peekFault .recursionLimit), none)
        else readFields fuel (depth - 1) c.advance start [] true
      else (.broken (c.peekFault .expectedValue), none)

/-- Reads the items of a list after its `[`. -/
def readItems (fuel depth : Nat) (c : Cursor) (start : Mark) (acc : List Node) (first : Bool) :
    Reading :=
  match fuel with
  | 0 => (.broken (c.fault .recursionLimit), none)
  | fuel + 1 =>
    let c := c.blank
    let stopWith := fun (f : Fault) => (Node.seq (acc.reverse ++ [.broken f]) start c.mark, none)
    match c.rest with
    | [] => stopWith (c.peekFault .eofInList)
    | ']' :: _ => let c' := c.advance; (.seq acc.reverse start c'.mark, some c')
    | ch :: _ =>
      let next : Option Cursor :=
        if first then some c
        else if ch = ',' then some c.advance.blank
        else none
      match next with
      | none => stopWith (c.peekFault .expectedListCommaOrEnd)
      | some c =>
        match c.rest with
        | [] => stopWith (c.peekFault .eofInValue)
        | ']' :: _ => stopWith (c.peekFault .trailingComma)
        | _ =>
          match readValue fuel depth c with
          | (v, some c') => readItems fuel depth c' start (v :: acc) false
          | (v, none) => (.seq (acc.reverse ++ [v]) start v.stop, none)

/-- Reads the fields of an object after its `{`. -/
def readFields (fuel depth : Nat) (c : Cursor) (start : Mark) (acc : List (Node × Node))
    (first : Bool) : Reading :=
  match fuel with
  | 0 => (.broken (c.fault .recursionLimit), none)
  | fuel + 1 =>
    let c := c.blank
    let stopWith := fun (f : Fault) =>
      (Node.map (acc.reverse ++ [(.broken f, .broken f)]) start c.mark, none)
    match c.rest with
    | [] => stopWith (c.peekFault .eofInObject)
    | '}' :: _ => let c' := c.advance; (.map acc.reverse start c'.mark, some c')
    | ch :: _ =>
      let next : Option Cursor :=
        if first then some c
        else if ch = ',' then some c.advance.blank
        else none
      match next with
      | none => stopWith (c.peekFault .expectedObjectCommaOrEnd)
      | some c =>
        match c.rest with
        | [] => stopWith (c.peekFault .eofInValue)
        | '}' :: _ => stopWith (c.peekFault .trailingComma)
        | '"' :: _ =>
          match readString c with
          | .error f => stopWith f
          | .ok (k, ck) =>
            let key := Node.scalar (.string k) c.mark ck.mark
            let ck := ck.blank
            match ck.rest with
            | [] =>
              let f := ck.peekFault .eofInObject
              (.map (acc.reverse ++ [(key, .broken f)]) start ck.mark, none)
            | ':' :: _ =>
              match readValue fuel depth ck.advance with
              | (v, some c') => readFields fuel depth c' start ((key, v) :: acc) false
              | (v, none) => (.map (acc.reverse ++ [(key, v)]) start v.stop, none)
            | _ :: _ =>
              let f := ck.peekFault .expectedColon
              (.map (acc.reverse ++ [(key, .broken f)]) start ck.mark, none)
        | _ => stopWith (c.peekFault .keyMustBeString)

end

/-- Reads a JSON text as one value, with the fault of what follows it when that is more than
blanks. A value that stopped early holds its own fault. -/
def readDocument (text : String) : Node × Option Fault :=
  let cs := text.toList
  let c : Cursor := ⟨cs, 1, 0⟩
  match readValue (2 * cs.length + 2) 128 c with
  | (n, none) => (n, none)
  | (n, some c') =>
    let c'' := c'.blank
    match c''.rest with
    | [] => (n, none)
    | _ => (n, some (c''.peekFault .trailingCharacters))

/-- Reads a whole JSON text: one value, then only blanks. -/
def read (text : String) : Node :=
  match readDocument text with
  | (n, none) => n
  | (_, some f) => .broken f

end Json

end ApiSpec
