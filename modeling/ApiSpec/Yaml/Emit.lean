import ApiSpec.Json.Value
import ApiSpec.Decode.Basic
import ApiSpec.Yaml.Scan

/-!
# Writing YAML

`Yaml.emit` writes a JSON value as a YAML document in block style, the way a libyaml emitter
does with unlimited line width and Unicode output: a mapping puts each key on its own line with
the nested collections indented by two (a sequence under a key is not indented), a sequence item
starts with `- `, and empty collections are written `[]` and `{}`. A key longer than 128 bytes or
spanning lines is written as a complex key, `? key` then `: value`.

A string is written plain unless it would read back as something else or cannot be written
plain: text that reads as null, a boolean or a number is single-quoted, and so is text with an
indicator where YAML gives it a meaning, leading or trailing blanks, or line breaks. Text with a
newline is a literal block (`|`, with `-` or `+` for its final line breaks). Text with a
character that cannot appear in a single-quoted or block scalar (a control character, a byte
order mark, a character outside the basic plane, a line break after a blank) is double-quoted
with escapes. Numbers are written in their shortest form, non-finite floats as `.inf`, `-.inf`
and `.nan`.
-/

namespace ApiSpec

namespace Yaml

/-! ### Characters -/

/-- Whether a character may be written as itself in a quoted scalar. -/
def isPrintable (c : Char) : Bool :=
  let n := c.toNat
  n == 0x0A || (0x20 ≤ n && n ≤ 0x7E) || (0xA0 ≤ n && n ≤ 0xD7FF) ||
    (0xE000 ≤ n && n ≤ 0xFFFD && n != 0xFEFF)

/-- Whether a character is a blank or a break. -/
def isBlankOrBreak (c : Char) : Bool := c == ' ' || c == '\t' || isBreak c

/-! ### Which styles a scalar allows -/

/-- What the text of a scalar allows. -/
structure Facts where
  multiline : Bool
  plain : Bool
  singleQuoted : Bool
  block : Bool
  deriving Repr, Inhabited

/-- The marks found while reading a scalar. -/
structure Marks where
  indicators : Bool := false
  breaks : Bool := false
  special : Bool := false
  leadingSpace : Bool := false
  leadingBreak : Bool := false
  trailingSpace : Bool := false
  trailingBreak : Bool := false
  breakSpace : Bool := false
  spaceBreak : Bool := false
  deriving Repr, Inhabited

/-- Whether a character at the start of a scalar is an indicator. -/
def startIndicator (c : Char) (followedByBlank : Bool) : Bool :=
  "#,[]\x7b\x7d&*!|>'\"%@".toList.contains c || c.toNat == 0x60 ||
    ((c == '?' || c == ':' || c == '-') && followedByBlank)

/-- Whether a character inside a scalar is an indicator. -/
def innerIndicator (c : Char) (precededByBlank followedByBlank : Bool) : Bool :=
  (c == ':' && followedByBlank) || (c == '#' && precededByBlank)

/-- Reads the characters of a scalar; `first` is whether `c` is the first one, `prev` the one
before it. -/
def markAll (m : Marks) (first : Bool) (prev : Option Char) : List Char → Marks
  | [] => m
  | c :: rest =>
    let followed := match rest with
      | [] => true
      | d :: _ => isBlankOrBreak d
    let preceded := match prev with
      | none => true
      | some p => isBlankOrBreak p
    let last := rest.isEmpty
    let prevSpace := prev == some ' '
    let prevBreak := match prev with
      | some p => isBreak p
      | none => false
    let m := { m with
      indicators := m.indicators ||
        (if first then startIndicator c followed else innerIndicator c preceded followed)
      special := m.special || !isPrintable c
      breaks := m.breaks || isBreak c }
    let m :=
      if c == ' ' then
        { m with leadingSpace := m.leadingSpace || first, trailingSpace := m.trailingSpace || last,
                 breakSpace := m.breakSpace || prevBreak }
      else if isBreak c then
        { m with leadingBreak := m.leadingBreak || first, trailingBreak := m.trailingBreak || last,
                 spaceBreak := m.spaceBreak || prevSpace }
      else m
    markAll m false (some c) rest

/-- What the text of a scalar allows, outside flow collections. -/
def facts (s : String) : Facts :=
  let cs := s.toList
  if cs.isEmpty then ⟨false, true, true, false⟩
  else
    let m := markAll {} true none cs
    let documentMark := (cs.take 3 == ['-', '-', '-']) || (cs.take 3 == ['.', '.', '.'])
    let edges := m.leadingSpace || m.leadingBreak || m.trailingSpace || m.trailingBreak
    let anyQuoteBreak := m.spaceBreak || m.special
    { multiline := m.breaks
      plain := !(edges || m.breakSpace || anyQuoteBreak || m.breaks || m.indicators || documentMark)
      singleQuoted := !(m.breakSpace || anyQuoteBreak)
      block := !(m.trailingSpace || anyQuoteBreak) }

/-! ### Choosing a style -/

/-- How a scalar is written. -/
inductive Style where
  | plain
  | singleQuoted
  | doubleQuoted
  | literal
  deriving DecidableEq, Repr, Inhabited

/-- Whether plain text would read back as something other than a string. -/
def readsAsValue (s : String) : Bool :=
  s.isEmpty || Decode.isNullWord s || (Decode.boolWord? s).isSome ||
    (Decode.yamlInteger? s).isSome || (Decode.yamlFloat? s).isSome ||
    Decode.leadingZeroDigits s

/-- The style asked for a string. -/
def requestedStyle (s : String) : Style :=
  if s.toList.contains '\n' then .literal
  else if readsAsValue s then .singleQuoted
  else .plain

/-- The style a scalar is written in: the one asked for, unless its text forbids it there. -/
def selectStyle (requested : Style) (f : Facts) (simpleKey : Bool) : Style :=
  let style := if simpleKey && f.multiline then .doubleQuoted else requested
  let style := if style == .plain && !f.plain then .singleQuoted else style
  let style := if style == .singleQuoted && !f.singleQuoted then .doubleQuoted else style
  if style == .literal && (!f.block || simpleKey) then .doubleQuoted else style

/-! ### The emitter -/

/-- The output so far and where it stands. -/
structure Emitter where
  out : String
  column : Nat
  /-- Whether the last thing written was a blank. -/
  whitespace : Bool
  /-- Whether only indentation has been written on the line. -/
  indention : Bool
  /-- Whether the document ended on a block scalar that keeps its final breaks. -/
  openEnded : Bool
  deriving Inhabited

namespace Emitter

/-- An emitter at the start of a stream. -/
def start : Emitter := ⟨"", 0, true, true, false⟩

/-- Writes a character on the line. -/
def put (e : Emitter) (c : Char) : Emitter := { e with out := e.out.push c, column := e.column + 1 }

/-- Writes characters on the line. -/
def putAll (e : Emitter) (cs : List Char) : Emitter := cs.foldl put e

/-- Ends the line. -/
def newline (e : Emitter) : Emitter := { e with out := e.out.push '\n', column := 0 }

/-- Writes a line break of the text: a newline ends the line, another break is copied. -/
def writeBreak (e : Emitter) (c : Char) : Emitter :=
  if c == '\n' then e.newline else { e with out := e.out.push c, column := 0 }

/-- Moves to a fresh line at `indent`, unless the line holds only indentation up to it. -/
def writeIndent (e : Emitter) (indent : Nat) : Emitter :=
  let e := if !e.indention || e.column > indent || (e.column == indent && !e.whitespace) then e.newline else e
  let e := e.putAll (List.replicate (indent - e.column) ' ')
  { e with whitespace := true, indention := true }

/-- Writes an indicator, after a blank when one is needed. -/
def indicator (e : Emitter) (ind : String) (needBlank isBlank isIndention : Bool) : Emitter :=
  let e := if needBlank && !e.whitespace then e.put ' ' else e
  let e := e.putAll ind.toList
  { e with whitespace := isBlank, indention := e.indention && isIndention, openEnded := false }

/-- Writes a plain scalar. -/
def plain (e : Emitter) (s : String) : Emitter :=
  let e := if !e.whitespace && !s.isEmpty then e.put ' ' else e
  { e.putAll s.toList with whitespace := false, indention := false }

/-- Writes the characters of a single-quoted scalar; `breaks` is whether the last was a break. -/
def singleBody (indent : Nat) : Emitter → Bool → List Char → Emitter × Bool
  | e, breaks, [] => (e, breaks)
  | e, breaks, c :: rest =>
    if c == ' ' then singleBody indent (e.put c) false rest
    else if isBreak c then
      let e := if !breaks && c == '\n' then e.newline else e
      singleBody indent { e.writeBreak c with indention := true } true rest
    else
      let e := if breaks then e.writeIndent indent else e
      let e := if c == '\x27' then e.put c else e
      singleBody indent { e.put c with indention := false } false rest

/-- Writes a single-quoted scalar, doubling its quotes. -/
def singleQuoted (e : Emitter) (indent : Nat) (s : String) : Emitter :=
  let e := e.indicator "'" true false false
  let (e, breaks) := singleBody indent e false s.toList
  let e := if breaks then e.writeIndent indent else e
  let e := e.indicator "'" false false false
  { e with whitespace := false, indention := false }

/-- A number in upper-case hexadecimal, with at least `width` digits. -/
def hexDigits (width n : Nat) : List Char :=
  let ds := Nat.toDigits 16 n |>.map Char.toUpper
  List.replicate (width - ds.length) '0' ++ ds

/-- The escape of a character in a double-quoted scalar. -/
def escape (c : Char) : List Char :=
  let n := c.toNat
  '\\' :: match n with
    | 0x00 => ['0']
    | 0x07 => ['a']
    | 0x08 => ['b']
    | 0x09 => ['t']
    | 0x0A => ['n']
    | 0x0B => ['v']
    | 0x0C => ['f']
    | 0x0D => ['r']
    | 0x1B => ['e']
    | 0x22 => ['"']
    | 0x5C => ['\\']
    | 0x85 => ['N']
    | 0xA0 => ['_']
    | 0x2028 => ['L']
    | 0x2029 => ['P']
    | _ =>
      if n ≤ 0xFF then 'x' :: hexDigits 2 n
      else if n ≤ 0xFFFF then 'u' :: hexDigits 4 n
      else 'U' :: hexDigits 8 n

/-- Writes a double-quoted scalar with escapes. -/
def doubleQuoted (e : Emitter) (s : String) : Emitter :=
  let e := e.indicator "\"" true false false
  let e := s.toList.foldl (fun e c =>
    if !isPrintable c || c.toNat == 0xFEFF || isBreak c || c == '"' || c == '\\' then e.putAll (escape c)
    else e.put c) e
  let e := e.indicator "\"" false false false
  { e with whitespace := false, indention := false }

/-- The hints of a literal block: an indentation hint when it starts with a blank or a break,
and how its final breaks are kept; the flag says whether they all are. -/
def blockHints (cs : List Char) : List Char × Bool :=
  let indentHint := match cs with
    | c :: _ => if c == ' ' || isBreak c then ['2'] else []
    | [] => []
  match cs.reverse with
  | [] => (indentHint ++ ['-'], false)
  | c :: before =>
    if !isBreak c then (indentHint ++ ['-'], false)
    else match before with
      | [] => (indentHint ++ ['+'], true)
      | d :: _ => if isBreak d then (indentHint ++ ['+'], true) else (indentHint, false)

/-- Writes the lines of a literal block; `breaks` is whether the last was a break. -/
def literalBody (indent : Nat) : Emitter → Bool → List Char → Emitter
  | e, _, [] => e
  | e, breaks, c :: rest =>
    if isBreak c then literalBody indent { e.writeBreak c with indention := true } true rest
    else
      let e := if breaks then e.writeIndent indent else e
      literalBody indent { e.put c with indention := false } false rest

/-- Writes a literal block scalar. -/
def literal (e : Emitter) (indent : Nat) (s : String) : Emitter :=
  let e := e.indicator "|" true false false
  let (hints, keeps) := blockHints s.toList
  let e := if hints.isEmpty then e else e.indicator (String.ofList hints) false false false
  let e := { e.newline with indention := true, whitespace := true, openEnded := keeps }
  literalBody indent e true s.toList

/-- Writes a scalar in a style, its continuation lines at `indent`. -/
def scalar (e : Emitter) (style : Style) (indent : Nat) (s : String) : Emitter :=
  match style with
  | .plain => e.plain s
  | .singleQuoted => e.singleQuoted indent s
  | .doubleQuoted => e.doubleQuoted s
  | .literal => e.literal indent s

end Emitter

/-! ### Values -/

/-- The text of a number. -/
def numberText : JsonNumber → String
  | .unsigned n => toString n
  | .negative n => toString n
  | .binary x =>
    if x.isNaN then ".nan"
    else if x.isInfinite then (if x.isNegative then "-.inf" else ".inf")
    else x.toNumberText

/-- The text of a scalar value and the style asked for it; `none` for a collection. -/
def scalarOf? : Json → Option (String × Style)
  | .null => some ("null", .plain)
  | .bool b => some (if b then "true" else "false", .plain)
  | .number n => some (numberText n, .plain)
  | .string s => some (s, requestedStyle s)
  | _ => none

/-- Writes a scalar node; `indent` is the indentation of what holds it. -/
def emitScalar (e : Emitter) (indent : Int) (simpleKey : Bool) (text : String) (requested : Style) :
    Emitter :=
  let style := selectStyle requested (facts text) simpleKey
  let inner := if indent < 0 then 2 else indent.toNat + 2
  e.scalar style inner text

/-- Whether a key can be written on the line of its value. -/
def isSimpleKey (key : String) : Bool := !(facts key).multiline && key.utf8ByteSize ≤ 128

mutual

/-- Writes a node; `indent` is the indentation of what holds it, `inMapping` whether it is
the value of a key. -/
def node (e : Emitter) (indent : Int) (inMapping : Bool) : Json → Emitter
  | .array [] => (e.indicator "[" true true false).indicator "]" false false false
  | .object [] => (e.indicator "\x7b" true true false).indicator "\x7d" false false false
  | .array items =>
    let inner := if indent < 0 then 0 else if inMapping && !e.indention then indent else indent + 2
    seqItems e inner items
  | .object fields =>
    let inner := if indent < 0 then 0 else indent + 2
    mapEntries e inner fields
  | .null => emitScalar e indent false "null" .plain
  | .bool b => emitScalar e indent false (if b then "true" else "false") .plain
  | .number n => emitScalar e indent false (numberText n) .plain
  | .string s => emitScalar e indent false s (requestedStyle s)

/-- Writes the items of a block sequence at `indent`. -/
def seqItems (e : Emitter) (indent : Int) : List Json → Emitter
  | [] => e
  | item :: rest =>
    let e := (e.writeIndent indent.toNat).indicator "-" true false true
    seqItems (node e indent false item) indent rest

/-- Writes the entries of a block mapping at `indent`. -/
def mapEntries (e : Emitter) (indent : Int) : List (String × Json) → Emitter
  | [] => e
  | (k, v) :: rest =>
    let e := e.writeIndent indent.toNat
    let e :=
      if isSimpleKey k then
        let e := emitScalar e indent true k (requestedStyle k)
        node (e.indicator ":" false false false) indent true v
      else
        let e := e.indicator "?" true false true
        let e := emitScalar e indent false k (requestedStyle k)
        let e := (e.writeIndent indent.toNat).indicator ":" true false true
        node e indent true v
    mapEntries e indent rest

end

/-- The YAML document of a value, ending with a newline. -/
def emit (j : Json) : String :=
  let e := node Emitter.start (-1) false j
  let e := e.writeIndent 0
  let e := if e.openEnded then (e.indicator "..." true false false).writeIndent 0 else e
  e.out

end Yaml

end ApiSpec
