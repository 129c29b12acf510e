import ApiSpec.Data.Node
import ApiSpec.Json.Reader
import ApiSpec.Json.Text
import ApiSpec.Number.Reading
import ApiSpec.Text.Quote

/-!
# Decoding documents

A `Decoder α` reads a value of the library's type `α` from a `Node`, at a `Site`: the flavour
of document (an already-read JSON value, JSON text, or YAML text) and the path from the root.

The rules follow the usual data-binding conventions, and so do the messages:

* a record takes its known fields in the order written and ignores unknown ones; a field that
  may be missing takes its default, and the first other missing field (in declaration order) is
  an error; a JSON array gives the fields in order;
* an enumeration is a string (a variant without content) or an object with one key (JSON), or
  a tag `!variant` (YAML);
* a YAML leaf is text: it is a string wherever a string is asked for, and a boolean, a null or
  a number only when written plain and spelled as one.

An error is told as `invalid type: <what was found>, expected <what was asked>` and similar.
Where the document is text, the place follows (`at line L column C`); in YAML, the path to
the node comes first.
-/

namespace ApiSpec

/-- What kind of document is decoded. -/
inductive Flavour where
  /-- A JSON value already read: messages carry no place. -/
  | value
  /-- JSON text: messages end with the place. -/
  | jsonText
  /-- YAML text: messages start with the path and end with the place. -/
  | yaml
  deriving DecidableEq, Repr, Inhabited

/-- One step of a path into a document. -/
inductive PathStep where
  | index (i : Nat)
  | key (k : String)
  deriving Repr, Inhabited

/-- Where a decoder stands: the flavour, the path (innermost step first), and, right inside a
YAML tag, the enumeration and variant of that tag. -/
structure Site where
  flavour : Flavour
  path : List PathStep
  inTag : Option (String × String)
  deriving Inhabited

namespace Site

/-- The root of a document of the given flavour. -/
def root (f : Flavour) : Site := ⟨f, [], none⟩

/-- The item at `i` of a sequence. -/
def index (s : Site) (i : Nat) : Site := ⟨s.flavour, .index i :: s.path, none⟩

/-- The value of key `k` of a map. -/
def key (s : Site) (k : String) : Site := ⟨s.flavour, .key k :: s.path, none⟩

end Site

/-- The text of a path, innermost step first: `.` for the root, `a.b[2].c` below it. -/
def pathText : List PathStep → String
  | [] => "."
  | .index i :: parent => pathText parent ++ "[" ++ toString i ++ "]"
  | .key k :: [] => k
  | .key k :: parent => pathText parent ++ "." ++ k

/-- The place just before a mark on its line: where a one-byte closer stands when the mark is
just past it. -/
def Mark.before (m : Mark) : Mark := ⟨m.line, m.column - 1⟩

/-- What follows a value in JSON text. The decoder of an enclosing object or array meets it
when it checks its own end, and reports there an error that has no place of its own. -/
inductive Follow where
  /-- A `}` at `here`; the text after it starts at `past`. -/
  | brace (here past : Mark)
  /-- A `]` at `here`; the text after it starts at `past`. -/
  | bracket (here past : Mark)
  /-- Something else at `here` (a `,`, say), and the next value, if any, at `next`. -/
  | comma (here next : Mark)
  deriving Inhabited, Repr

namespace Follow

/-- Where an object's decoder reports: past its `}` when that comes next, else where it stands. -/
def inObject : Follow → Mark
  | .brace _ past => past
  | .bracket here _ => here
  | .comma here _ => here

/-- Where an array's decoder reports: past its `]` when that comes next, at the next item after
a `,`, else where it stands. -/
def inArray : Follow → Mark
  | .brace here _ => here
  | .bracket _ past => past
  | .comma _ next => next

end Follow

/-- Why decoding failed. -/
inductive DecodeError where
  /-- The document is not of the expected shape: the message, where a JSON text and a YAML
  text would point, and the path. -/
  | data (message : String) (jsonMark yamlMark : Mark) (path : List PathStep)
  /-- The text did not read: the reader's fault. -/
  | fault (f : Fault)
  /-- A failure found after a value was read, with no place of its own: the object or
  sequence holding the value gives it its place (and, in YAML, its path). What follows the
  value in JSON text is known once a container around it has said so. -/
  | unplaced (message : String) (follow : Option Follow)
  deriving Inhabited, Repr

namespace DecodeError

/-- ` at line L column C`. -/
def markText (m : Mark) : String :=
  " at line " ++ toString m.line ++ " column " ++ toString m.column

/-- The message, as the flavour tells it. -/
def render (fl : Flavour) : DecodeError → String
  | .data msg jm ym path =>
    match fl with
    | .value => msg
    | .jsonText => msg ++ markText jm
    | .yaml =>
      let pre := match path with
        | [] => ""
        | p => pathText p ++ ": "
      pre ++ msg ++ (if ym.line = 1 ∧ ym.column = 1 then "" else markText ym)
  | .fault f =>
    match fl with
    | .jsonText => f.message ++ markText f.mark
    | _ => f.message
  | .unplaced msg _ => msg

/-- Tells an error without a place what follows the value it came from, unless it knows. -/
def followedBy (f : Follow) : DecodeError → DecodeError
  | .unplaced msg none => .unplaced msg (some f)
  | e => e

/-- Places an error without a place as the decoder of an object does: the value it came from
is followed by `f` unless the error knows better. -/
def placeInObject (f : Follow) (yamlMark : Mark) (path : List PathStep) : DecodeError → DecodeError
  | .unplaced msg g => .data msg (g.getD f).inObject yamlMark path
  | e => e

/-- Places an error without a place as the decoder of an array does. -/
def placeInArray (f : Follow) (yamlMark : Mark) (path : List PathStep) : DecodeError → DecodeError
  | .unplaced msg g => .data msg (g.getD f).inArray yamlMark path
  | e => e

end DecodeError

/-- Where the text after a comma resumes, judged from the fault of what follows it: at the
character that showed the fault, or at the end of the text. -/
def resumeAt (f : Fault) : Mark :=
  if f.message = JsonFault.eofInValue.message then f.mark else f.mark.before

/-- What follows entry `v` of an object that stops at `stop`, given the entries after it. -/
def followInObject (v : Node) (stop : Mark) : List (Node × Node) → Follow
  | [] => .brace stop.before stop
  | (k, _) :: _ =>
    match k with
    | .broken f =>
      if f.message = JsonFault.eofInObject.message then .comma f.mark f.mark
      else if f.message = JsonFault.expectedObjectCommaOrEnd.message then .comma f.mark.before f.mark.before
      else .comma v.stop (resumeAt f)
    | _ => .comma v.stop k.start

/-- What follows item `v` of an array that stops at `stop`, given the items after it. -/
def followInArray (v : Node) (stop : Mark) : List Node → Follow
  | [] => .bracket stop.before stop
  | next :: _ =>
    match next with
    | .broken f =>
      if f.message = JsonFault.eofInList.message then .comma f.mark f.mark
      else if f.message = JsonFault.expectedListCommaOrEnd.message then .comma f.mark.before f.mark.before
      else .comma v.stop (resumeAt f)
    | _ => .comma v.stop next.start

/-- A decoder of values of `α`. -/
abbrev Decoder (α : Type) := Site → Node → Except DecodeError α

namespace Decode

/-! ### Describing what was found -/

/-- Plain YAML words for null. -/
def isNullWord (s : String) : Bool := s == "~" || s == "null" || s == "Null" || s == "NULL"

/-- Plain YAML words for a boolean. -/
def boolWord? (s : String) : Option Bool :=
  if s == "true" || s == "True" || s == "TRUE" then some true
  else if s == "false" || s == "False" || s == "FALSE" then some false
  else none

/-- Digits with a leading zero: text, not a number, in YAML. -/
def leadingZeroDigits (s : String) : Bool :=
  let body := match s.toList with
    | '-' :: r => r
    | '+' :: r => r
    | r => r
  body.length > 1 && body.head? == some '0' && (body.drop 1).all Char.isDigit

/-- The value of digits in a radix. -/
def radixValue? (radix : Nat) (cs : List Char) : Option Nat :=
  if cs.isEmpty then none
  else cs.foldl (fun acc c =>
    acc.bind fun a =>
      let d := if c.isDigit then some (c.toNat - '0'.toNat)
        else if 'a' ≤ c ∧ c ≤ 'z' then some (c.toNat - 'a'.toNat + 10)
        else if 'A' ≤ c ∧ c ≤ 'Z' then some (c.toNat - 'A'.toNat + 10)
        else none
      d.bind fun d => if d < radix then some (a * radix + d) else none) (some 0)

/-- The digits of a plain YAML integer: decimal, or `0x`, `0o`, `0b` after an optional sign. -/
def yamlDigits? (s : String) : Option Int :=
  let (neg, body) := match s.toList with
    | '-' :: r => (true, r)
    | '+' :: r => (false, r)
    | r => (false, r)
  let signed := fun (v : Nat) => if neg then -(v : Int) else (v : Int)
  match body with
  | '0' :: 'x' :: r => (radixValue? 16 r).map signed
  | '0' :: 'o' :: r => (radixValue? 8 r).map signed
  | '0' :: 'b' :: r => (radixValue? 2 r).map signed
  | _ =>
    if leadingZeroDigits s || body.isEmpty || !body.all Char.isDigit then none
    else some (signed (digitsValue body))

/-- Whether an integer is within the range of 128-bit integers, signed or unsigned. -/
def inIntRange (v : Int) : Bool := -Int.pow 2 127 ≤ v && v < Int.pow 2 128

/-- A plain YAML integer within the range of 128-bit integers; longer digits read as a
float or as text. -/
def yamlInteger? (s : String) : Option Int := (yamlDigits? s).filter inIntRange

/-- How a message marks an integer past the 64-bit range: it was read as a 128-bit one. -/
def wideSuffix (i : Int) : String :=
  if -Int.pow 2 63 ≤ i && i < Int.pow 2 64 then "" else if i ≥ 0 then " as u128" else " as i128"

/-- A plain YAML float: `.inf`, `.nan` spellings, or a finite decimal. -/
def yamlFloat? (s : String) : Option Binary64 :=
  let unsigned := if s.startsWith "+" then String.ofList (s.toList.drop 1) else s
  if unsigned == ".inf" || unsigned == ".Inf" || unsigned == ".INF" then some (.infinity false)
  else if s == "-.inf" || s == "-.Inf" || s == "-.INF" then some (.infinity true)
  else if s == ".nan" || s == ".NaN" || s == ".NAN" then some (.nan false)
  else if leadingZeroDigits s then none
  else match Binary64.readDecimal? unsigned with
    | some x => if x.isFinite && !(s.startsWith "+" && (unsigned.startsWith "+" || unsigned.startsWith "-")) then some x else none
    | none => none

/-- A float as a message shows it in YAML: positional, always with a point. -/
def plainFloatText (x : Binary64) : String :=
  let t := x.toPlainText
  if x.isFinite && !t.contains '.' then t ++ ".0" else t

/-- What was found, as a message tells it. -/
def unexpected (fl : Flavour) : Node → String
  | .scalar .null _ _ => if fl = .yaml then "unit value" else "null"
  | .scalar (.bool b) _ _ => "boolean `" ++ (if b then "true" else "false") ++ "`"
  | .scalar (.number (.unsigned n)) _ _ => "integer `" ++ toString n ++ "`"
  | .scalar (.number (.negative n)) _ _ => "integer `" ++ toString n ++ "`"
  | .scalar (.number (.binary x)) _ _ =>
    "floating point `" ++ (if fl = .yaml then plainFloatText x else x.toJsonText) ++ "`"
  | .scalar (.string s) _ _ => "string " ++ Text.debugQuote s
  | .scalar (.text s plain) _ _ =>
    if !plain then "string " ++ Text.debugQuote s
    else if s.isEmpty || isNullWord s then "unit value"
    else match boolWord? s with
      | some b => "boolean `" ++ (if b then "true" else "false") ++ "`"
      | none =>
        match yamlInteger? s with
        | some i => "integer `" ++ toString i ++ "`" ++ wideSuffix i
        | none =>
          match yamlFloat? s with
          | some x => "floating point `" ++ plainFloatText x ++ "`"
          | none => "string " ++ Text.debugQuote s
  | .seq .. => "sequence"
  | .map .. => "map"
  | .tagged _ b _ => match b with
    | .seq .. => "sequence"
    | .map .. => "map"
    | _ => "tagged value"
  | .broken _ => "end of input"

/-! ### Failing -/

/-- Where JSON text reports a problem with a node: past a leaf, before a container. -/
def jsonMarkOf : Node → Mark
  | .scalar _ _ stop => stop
  | n => n.start

/-- A failure at a node. -/
def failAt (site : Site) (n : Node) (msg : String) : DecodeError :=
  .data msg (jsonMarkOf n) n.start site.path

/-- `invalid type: <found>, expected <expected>`. -/
def invalidType (site : Site) (n : Node) (expected : String) : DecodeError :=
  failAt site n ("invalid type: " ++ unexpected site.flavour n ++ ", expected " ++ expected)

/-- The list of names a message offers: `` `a` ``, `` `a` or `b` ``, or
`` one of `a`, `b`, `c` ``. -/
def oneOf (names : List String) : String :=
  let q := fun (s : String) => "`" ++ s ++ "`"
  match names with
  | [] => "nothing"
  | [a] => q a
  | [a, b] => q a ++ " or " ++ q b
  | _ => "one of " ++ ", ".intercalate (names.map q)

/-- `unknown variant`, with the variants offered. -/
def unknownVariant (name : String) (variants : List String) : String :=
  if variants.isEmpty then "unknown variant `" ++ name ++ "`, there are no variants"
  else "unknown variant `" ++ name ++ "`, expected " ++ oneOf variants

/-! ### Leaves -/

/-- A string. In YAML every leaf is one. -/
def string : Decoder String := fun site n =>
  match n with
  | .broken f => .error (.fault f)
  | .scalar (.string s) _ _ => .ok s
  | .scalar (.text s _) _ _ => .ok s
  | .tagged _ (.scalar (.text s _) _ _) _ => .ok s
  | _ => .error (invalidType site n "a string")

/-- A boolean. In YAML, a plain `true`/`false` in one of three spellings. -/
def bool : Decoder Bool := fun site n =>
  match n with
  | .broken f => .error (.fault f)
  | .scalar (.bool b) _ _ => .ok b
  | .scalar (.text s true) _ _ =>
    match boolWord? s with
    | some b => .ok b
    | none => .error (invalidType site n "a boolean")
  | _ => .error (invalidType site n "a boolean")

/-- An optional value: null (or, in YAML, an empty or null plain leaf) is `none`. -/
def option {α : Type} (d : Decoder α) : Decoder (Option α) := fun site n =>
  match n with
  | .broken f => .error (.fault f)
  | .scalar .null _ _ => .ok none
  | .scalar (.text s true) _ _ =>
    if site.inTag.isNone && (s.isEmpty || isNullWord s) then .ok none
    else (d site n).map some
  | _ => (d site n).map some

/-- Decodes the items of a sequence in order, from index `i`. The sequence starts at
`start` and stops at `stop`: an item that fails without a place of its own fails at the
sequence's path, where a YAML text points at the sequence and a JSON text at what follows the
item. -/
def items {α : Type} (d : Decoder α) (site : Site) (start stop : Mark) :
    Nat → List Node → Except DecodeError (List α)
  | _, [] => .ok []
  | i, n :: rest =>
    match d (site.index i) n with
    | .error e => .error (e.placeInArray (followInArray n stop rest) start site.path)
    | .ok a => do
      let as ← items d site start stop (i + 1) rest
      return a :: as

/-- Whether a node is an empty plain YAML leaf, which stands for an empty container. -/
def isEmptyLeaf : Node → Bool
  | .scalar (.text s true) _ _ => s.isEmpty
  | _ => false

/-- A sequence. -/
def list {α : Type} (d : Decoder α) : Decoder (List α) := fun site n =>
  match n with
  | .broken f => .error (.fault f)
  | .seq xs start stop => items d site start stop 0 xs
  | _ => if site.flavour = .yaml && isEmptyLeaf n then .ok [] else .error (invalidType site n "a sequence")

/-- Keeps the first place of each key and its last value, as an object read into a map does. -/
def mergeEntries {α : Type} (l : List (String × α)) : List (String × α) :=
  l.foldl (fun acc (k, v) =>
    if acc.any (·.1 == k) then acc.map fun (k2, v2) => if k2 == k then (k2, v) else (k2, v2)
    else acc ++ [(k, v)]) []

/-- The entries of a map with text keys, each with its site; the first fault or a key that is
not text is an error. -/
def entries (site : Site) : List (Node × Node) → Except DecodeError (List (String × (Site × Node)))
  | [] => .ok []
  | (k, v) :: rest =>
    match k with
    | .broken f => .error (.fault f)
    | _ =>
      match k.keyText? with
      | none => .error (invalidType site k "a string")
      | some key => do
        let tail ← entries site rest
        return (key, (site.key key, v)) :: tail

/-- Decodes the values of entries in order. -/
def values {α : Type} (d : Decoder α) :
    List (String × (Site × Node)) → Except DecodeError (List (String × α))
  | [] => .ok []
  | (k, (s, v)) :: rest => do
    let a ← d s v
    let tail ← values d rest
    return (k, a) :: tail

/-- Decodes the entries of a map read from text in order, each key before its value: a
fault or a bad value stops at the first in reading order. The map starts at `start` and stops
at `stop`, which place a value's failure that has no place of its own. -/
def textValues {α : Type} (d : Decoder α) (site : Site) (start stop : Mark) :
    List (Node × Node) → Except DecodeError (List (String × α))
  | [] => .ok []
  | (k, v) :: rest =>
    match k with
    | .broken f => .error (.fault f)
    | _ =>
      match k.keyText? with
      | none => .error (invalidType site k "a string")
      | some key =>
        match d (site.key key) v with
        | .error e => .error (e.placeInObject (followInObject v stop rest) start site.path)
        | .ok a => do
          let tail ← textValues d site start stop rest
          return (key, a) :: tail

/-- A map from text keys, in the order written; a key written twice keeps its first place
and its last value. -/
def stringMap {α : Type} (d : Decoder α) : Decoder (List (String × α)) := fun site n =>
  match n with
  | .broken f => .error (.fault f)
  | .map es start stop =>
    if site.flavour = .value then do values d (mergeEntries (← entries site es))
    else do return mergeEntries (← textValues d site start stop es)
  | _ => if site.flavour = .yaml && isEmptyLeaf n then .ok [] else .error (invalidType site n "a map")

/-! ### Records -/

/-- A field of a record of type `β`: its name, whether a map must hold it, whether an array
must hold it, and how its decoded value updates the record. -/
structure FieldSpec (β : Type) where
  name : String
  inMap : Bool
  inArray : Bool
  update : Site → Node → Except DecodeError (β → β)

/-- A field that may be missing. -/
def optionalField {α β : Type} (name : String) (d : Decoder α) (set : α → β → β) : FieldSpec β :=
  ⟨name, false, false, fun s n => (d s n).map set⟩

/-- A field that must be present. -/
def requiredField {α β : Type} (name : String) (d : Decoder α) (set : α → β → β) : FieldSpec β :=
  ⟨name, true, true, fun s n => (d s n).map set⟩

/-- An optional value without a default: absent from a map it is `none`, but an array must
hold it. -/
def nullableField {α β : Type} (name : String) (d : Decoder α) (set : α → β → β) : FieldSpec β :=
  ⟨name, false, true, fun s n => (d s n).map set⟩

/-- Applies the entries in order, stopping at the first fault or bad known field; a field
given twice keeps its last value. -/
def applyEntries {β : Type} (specs : List (FieldSpec β)) (acc : β) :
    List (String × (Site × Node)) → Except DecodeError β
  | [] => .ok acc
  | (k, (s, v)) :: rest =>
    match v with
    | .broken f => .error (.fault f)
    | _ =>
      match specs.find? (·.name == k) with
      | some spec => do
        let set ← spec.update s v
        applyEntries specs (set acc) rest
      | none => applyEntries specs acc rest

/-- Applies the entries of a map read from text in order, each key before its value. A known
field given twice is an error where its second key ends; an unknown field's value is skipped,
but a fault in it still stops the reading. The names of the known fields met are returned.
The map starts at `mapStart` and stops at `stop`, which place a value's failure that has no
place of its own. -/
def applyTextEntries {β : Type} (specs : List (FieldSpec β)) (site : Site) (mapStart stop : Mark)
    (acc : β) (seen : List String) : List (Node × Node) → Except DecodeError (β × List String)
  | [] => .ok (acc, seen)
  | (k, v) :: rest =>
    match k with
    | .broken f => .error (.fault f)
    | _ =>
      match k.keyText? with
      | none => .error (invalidType site k "field identifier")
      | some key =>
        match specs.find? (·.name == key) with
        | some spec =>
          if seen.contains key then
            .error (.data ("duplicate field `" ++ key ++ "`") k.stop mapStart site.path)
          else
            match spec.update (site.key key) v with
            | .error e => .error (e.placeInObject (followInObject v stop rest) mapStart site.path)
            | .ok set => applyTextEntries specs site mapStart stop (set acc) (key :: seen) rest
        | none =>
          match v.firstFault with
          | some f => .error (.fault f)
          | none => applyTextEntries specs site mapStart stop acc seen rest

/-- The fault of JSON text that goes on after an array has given a record all its fields: a
trailing comma or an unfinished array stays what it is; anything else is characters the
record did not expect, reported just past the first of them. -/
def leftOverFault : Node → Fault
  | .broken f =>
    if f.message = JsonFault.trailingComma.message || f.message = JsonFault.eofInList.message then f
    else ⟨JsonFault.trailingCharacters.message, f.mark⟩
  | x => ⟨JsonFault.trailingCharacters.message, ⟨x.start.line, x.start.column + 1⟩⟩

/-- Applies the items of an array given as a record, field by field, from item `i`. The array
starts at `start`, stops at `stop` and holds `total` items. Items left over are an error: a
JSON value counts all the items, JSON text has characters it did not expect. An array too
short for a field without a default is an error once the array has ended. -/
def applyArray {β : Type} (structName : String) (specs : List (FieldSpec β)) (site : Site)
    (start stop : Mark) (total : Nat) :
    Nat → List (FieldSpec β) → List Node → β → Except DecodeError β
  | _, [], [], acc => .ok acc
  | _, [], x :: _, _ =>
    if site.flavour = .jsonText then .error (.fault (leftOverFault x))
    else .error (.data ("invalid length " ++ toString total ++ ", expected fewer elements in array")
      stop start site.path)
  | i, spec :: rest, [], acc =>
    if spec.inArray then
      .error (.data ("invalid length " ++ toString i ++ ", expected struct " ++ structName ++
        " with " ++ toString specs.length ++ " elements") stop start site.path)
    else applyArray structName specs site start stop total (i + 1) rest [] acc
  | i, spec :: rest, x :: xs, acc =>
    match spec.update (site.index i) x with
    | .error e => .error (e.placeInArray (followInArray x stop xs) start site.path)
    | .ok set => applyArray structName specs site start stop total (i + 1) rest xs (set acc)

/-- A record called `structName` with the given fields, built up from `init`. -/
def record {β : Type} (structName : String) (init : β) (specs : List (FieldSpec β)) : Decoder β :=
  fun site n =>
  let missing := fun (present : List String) =>
    specs.find? fun spec => spec.inMap && !(present.contains spec.name)
  let fromEntries := fun (es : List (Node × Node)) (stop : Mark) => do
    let (built, present) ← if site.flavour = .value then do
        let located := mergeEntries (← entries site es)
        let built ← applyEntries specs init located
        pure (built, located.map (·.1))
      else applyTextEntries specs site n.start stop init [] es
    match missing present with
    | some spec =>
      .error (.data ("missing field `" ++ spec.name ++ "`") stop n.start site.path)
    | none => .ok built
  match n with
  | .broken f => .error (.fault f)
  | .map es _ stop => fromEntries es stop
  | .seq xs start stop =>
    if site.flavour = .yaml then .error (invalidType site n ("struct " ++ structName))
    else applyArray structName specs site start stop xs.length 0 specs xs init
  | _ =>
    if site.flavour = .yaml && isEmptyLeaf n then fromEntries [] n.start
    else .error (invalidType site n ("struct " ++ structName))

/-! ### Enumerations -/

/-- The content of a variant: its site and node, what follows it in JSON text, and the error
the object around it still raises once the content has been read (in JSON text, a second
key). -/
structure Content where
  site : Site
  node : Node
  follow : Option Follow
  after : Option DecodeError
  deriving Inhabited

/-- Ends the reading of content: a failure learns what follows the content, and a success
meets what the object around it still has to say. -/
def Content.finish {α : Type} (c : Content) (r : Except DecodeError α) : Except DecodeError α :=
  match r with
  | .error e =>
    match c.follow with
    | some f => .error (e.followedBy f)
    | none => .error e
  | .ok a =>
    match c.after with
    | some e => .error e
    | none => .ok a

/-- The message for a YAML tag directly inside another. -/
def nestedTagMessage (enumName tag : String) : String :=
  "deserializing nested enum in " ++ enumName ++ "::" ++ tag ++ " from YAML is not supported yet"

/-- JSON text where an enumeration was asked for holds neither a string nor an object: the
reader reports a missing value just past the first character. -/
def notAVariant (n : Node) : DecodeError :=
  .fault ⟨JsonFault.expectedValue.message, ⟨n.start.line, n.start.column + 1⟩⟩

/-- What an object of JSON text holding a variant says once the content of its first key is
read: nothing when it closes; when it goes on, that a value was expected where it goes on. -/
def variantObjectEnd (v : Node) : List (Node × Node) → Option DecodeError
  | [] => none
  | (k, _) :: _ =>
    match k with
    | .broken f =>
      if f.message = JsonFault.eofInObject.message then some (.fault f)
      else if f.message = JsonFault.expectedObjectCommaOrEnd.message then
        some (.fault ⟨JsonFault.expectedValue.message, f.mark.before⟩)
      else some (.fault ⟨JsonFault.expectedValue.message, v.stop⟩)
    | _ => some (.fault ⟨JsonFault.expectedValue.message, v.stop⟩)

/-- The variant of an enumeration `enumName` and its content. -/
def variant (enumName : String) (variants : List String) : Decoder (String × Option Content) :=
  fun site n =>
  let pick := fun (name : String) (content : Option Content) (node : Node) =>
    if variants.contains name then .ok (name, content)
    else .error (failAt site node (unknownVariant name variants))
  match site.inTag, n with
  | _, .broken f => .error (.fault f)
  | some (e, t), _ =>
    match n with
    | .scalar (.text s _) _ _ =>
      if s.isEmpty then .error (failAt site n (nestedTagMessage e t)) else pick s none n
    | _ => .error (failAt site n (nestedTagMessage e t))
  | none, .scalar (.string s) _ _ => pick s none n
  | none, .scalar (.text s _) _ _ => pick s none n
  | none, .tagged t body _ =>
    let name := if t.startsWith "!" then String.ofList (t.toList.drop 1) else t
    pick name (some ⟨⟨site.flavour, site.path, some (enumName, name)⟩, body, none, none⟩) n
  | none, .map es _ stop =>
    match site.flavour with
    | .yaml => .error (failAt site n "invalid type: map, expected a YAML tag starting with '!'")
    | .value =>
      match es with
      | [(k, v)] =>
        match k.keyText? with
        | some key =>
          if variants.contains key then .ok (key, some ⟨site.key key, v, none, none⟩)
          else .error (failAt site k (unknownVariant key variants))
        | none => .error (invalidType site k "a string")
      | _ => .error (failAt site n "invalid value: map, expected map with a single key")
    | .jsonText =>
      match es with
      | [] => .error (.fault ⟨JsonFault.expectedValue.message, stop⟩)
      | (k, v) :: rest =>
        match k with
        | .broken f => .error (.fault f)
        | _ =>
          match k.keyText? with
          | some key =>
            if variants.contains key then
              .ok (key, some ⟨site.key key, v, some (followInObject v stop rest), variantObjectEnd v rest⟩)
            else .error (failAt site k (unknownVariant key variants))
          | none => .error (invalidType site k "a string")
  | none, _ =>
    match site.flavour, n with
    | .yaml, .seq .. =>
      .error (failAt site n "invalid type: sequence, expected a YAML tag starting with '!'")
    | .jsonText, _ => .error (notAVariant n)
    | _, _ => .error (invalidType site n "string or map")

/-- A variant written as a bare name where content was asked for. JSON text places the failure
where the container around the name checks its end. -/
def bareVariant {α : Type} (site : Site) (n : Node) (kind : String) : Except DecodeError α :=
  let msg := "invalid type: unit variant, expected " ++ kind
  if site.flavour = .jsonText then .error (.unplaced msg none) else .error (failAt site n msg)

/-- The content of a variant that holds one value. -/
def newtype {α : Type} (site : Site) (n : Node) (c : Option Content) (d : Decoder α) :
    Except DecodeError α :=
  match c with
  | some c => c.finish (d c.site c.node)
  | none => bareVariant site n "newtype variant"

/-- The content of a variant that holds fields. A JSON value must hold them in an object;
text may also give them as an array. -/
def structVariant {α : Type} (site : Site) (n : Node) (c : Option Content) (d : Decoder α) :
    Except DecodeError α :=
  match c with
  | some c =>
    c.finish <|
      match c.node with
      | .broken f => .error (.fault f)
      | v =>
        if c.site.flavour = .value then
          match v with
          | .map .. => d c.site v
          | _ => .error (invalidType c.site v "struct variant")
        else d c.site v
  | none => bareVariant site n "struct variant"

/-- A variant without content: any content must be null. -/
def unitVariant (c : Option Content) : Except DecodeError Unit :=
  match c with
  | none => .ok ()
  | some c =>
    c.finish <|
      match c.node with
      | .scalar .null _ _ => .ok ()
      | .broken f => .error (.fault f)
      | v =>
        match v with
        | .scalar (.text t true) _ _ => if t.isEmpty then .ok () else .error (invalidType c.site v "unit")
        | _ => .error (invalidType c.site v "unit")

/-- An enumeration of variants without content, given by name. -/
def unitEnum {α : Type} (enumName : String) (names : List (String × α)) : Decoder α := fun site n => do
  let (name, content) ← variant enumName (names.map (·.1)) site n
  unitVariant content
  match names.find? (·.1 == name) with
  | some (_, a) => .ok a
  | none => .error (failAt site n (unknownVariant name (names.map (·.1))))

end Decode

/-- How deep a node nests: a bound for decoders that follow its structure. -/
def Node.depth : Node → Nat
  | .scalar .. => 1
  | .broken _ => 1
  | .tagged _ b _ => b.depth + 1
  | .seq items _ _ => depthItems items + 1
  | .map entries _ _ => depthEntries entries + 1
where
  depthItems : List Node → Nat
    | [] => 0
    | n :: rest => max n.depth (depthItems rest)
  depthEntries : List (Node × Node) → Nat
    | [] => 0
    | (k, v) :: rest => max (max k.depth v.depth) (depthEntries rest)

end ApiSpec
