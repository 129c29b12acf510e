/-!
# Scanning YAML text into tokens

The scanner turns the characters of a YAML text into tokens: stream, document and
collection markers, entries, keys and values, anchors, aliases, tags, and scalars in their
five styles. It follows the rules of the reference C library, since the messages and marks of
a reader built on it are what a user sees.

* Indentation is a stack of columns. A block collection starts where a deeper column first
  holds an entry or a key, and every drop in column closes collections with `blockEnd`.
* A *simple key* is a scalar, collection or node property that may turn out to be a key once
  a `:` follows on the same line (within 1024 characters). Its place is remembered, one per
  flow level, and the `key` token (and a `blockMappingStart`, when it opens a mapping) is
  inserted before it later. A key at the indentation column of a block collection is
  required: losing it is the error `could not find expected ':'`.
* Tokens are handed out only when no remembered key could still be inserted before the
  first one, so the scanner may read ahead of what a parser has asked for.

A fault is told as the reference library tells it: a problem with its place, and what was
being read with where that started.
-/

namespace ApiSpec

namespace Yaml

/-- A place in a text, counted from zero: characters before it, line and column. -/
structure Pos where
  index : Nat
  line : Nat
  column : Nat
  deriving Inhabited, DecidableEq, Repr

/-- The start of a text. -/
def Pos.zero : Pos := ⟨0, 0, 0⟩

/-- How a scalar is written. -/
inductive ScalarStyle where
  | plain
  | singleQuoted
  | doubleQuoted
  | literal
  | folded
  deriving DecidableEq, Inhabited, Repr

/-- The kinds of token. -/
inductive TokenKind where
  | streamStart
  | streamEnd
  | versionDirective (major minor : Nat)
  | tagDirective (handle pre : String)
  | documentStart
  | documentEnd
  | blockSequenceStart
  | blockMappingStart
  | blockEnd
  | flowSequenceStart
  | flowSequenceEnd
  | flowMappingStart
  | flowMappingEnd
  | blockEntry
  | flowEntry
  | key
  | value
  | alias (name : String)
  | anchor (name : String)
  | tag (handle suffix : String)
  | scalar (text : String) (style : ScalarStyle)
  deriving Inhabited, Repr

/-- A token with the places where it starts and stops. -/
structure Token where
  kind : TokenKind
  start : Pos
  stop : Pos
  deriving Inhabited, Repr

/-- Why reading stopped: the problem and its place, what was being read and where that
started, and for a fault in the characters themselves their byte offset. -/
structure Problem where
  problem : String
  mark : Pos
  context : Option (String × Pos)
  offset : Nat
  deriving Inhabited, Repr

/-- `line L column C`, counted from one. -/
def Pos.text (p : Pos) : String :=
  "line " ++ toString (p.line + 1) ++ " column " ++ toString (p.column + 1)

/-- The message of a problem. A place at the very start is not told; a context place is told
only when it differs from the problem's. -/
def Problem.message (p : Problem) : String :=
  let atStart := fun (m : Pos) => m.line == 0 && m.column == 0
  let head :=
    if !atStart p.mark then p.problem ++ " at " ++ p.mark.text
    else if p.offset != 0 then p.problem ++ " at position " ++ toString p.offset
    else p.problem
  match p.context with
  | none => head
  | some (c, m) =>
    if !atStart m && (m.line != p.mark.line || m.column != p.mark.column) then
      head ++ ", " ++ c ++ " at " ++ m.text
    else head ++ ", " ++ c

/-! ### Characters -/

/-- A line break. -/
def isBreak (c : Char) : Bool :=
  c == '\r' || c == '\n' || c == '\x85' || c == '\u2028' || c == '\u2029'

/-- A space or a tab. -/
def isBlank (c : Char) : Bool := c == ' ' || c == '\t'

/-- A letter, digit, `_` or `-`: what anchors and tag handles are made of. -/
def isWordChar (c : Char) : Bool :=
  ('0' ≤ c && c ≤ '9') || ('a' ≤ c && c ≤ 'z') || ('A' ≤ c && c ≤ 'Z') || c == '_' || c == '-'

/-- A decimal digit. -/
def isDigit (c : Char) : Bool := '0' ≤ c && c ≤ '9'

/-- The value of a hexadecimal digit. -/
def hexDigit? (c : Char) : Option Nat :=
  if '0' ≤ c && c ≤ '9' then some (c.toNat - '0'.toNat)
  else if 'a' ≤ c && c ≤ 'f' then some (c.toNat - 'a'.toNat + 10)
  else if 'A' ≤ c && c ≤ 'F' then some (c.toNat - 'A'.toNat + 10)
  else none

/-- A character that may appear in a YAML text. -/
def isAllowedChar (c : Char) : Bool :=
  let v := c.toNat
  v == 0x09 || v == 0x0A || v == 0x0D || (0x20 ≤ v && v ≤ 0x7E) || v == 0x85 ||
    (0xA0 ≤ v && v ≤ 0xD7FF) || (0xE000 ≤ v && v ≤ 0xFFFD) || (0x10000 ≤ v && v ≤ 0x10FFFF)

/-- The character at `k`, if any. -/
def charAt (cs : List Char) (k : Nat) : Option Char := cs[k]?

/-- Whether the character at `k` is `c`. -/
def isAt (cs : List Char) (k : Nat) (c : Char) : Bool := cs[k]? == some c

/-- Whether the character at `k` is blank, a break, or past the end. -/
def blankzAt (cs : List Char) (k : Nat) : Bool :=
  match cs[k]? with
  | none => true
  | some c => isBlank c || isBreak c

/-- Whether the character at `k` is a break or past the end. -/
def breakzAt (cs : List Char) (k : Nat) : Bool :=
  match cs[k]? with
  | none => true
  | some c => isBreak c

/-- Whether a line starts here with a document marker `---` or `...` and a blank. -/
def documentMarkerAt (cs : List Char) (column : Nat) : Bool :=
  column == 0 &&
    ((isAt cs 0 '-' && isAt cs 1 '-' && isAt cs 2 '-') ||
      (isAt cs 0 '.' && isAt cs 1 '.' && isAt cs 2 '.')) &&
    blankzAt cs 3

/-- A place in the token stream where a key may start. -/
structure SimpleKey where
  possible : Bool
  required : Bool
  tokenNumber : Nat
  mark : Pos
  deriving Inhabited

/-- A key that cannot start anywhere. -/
def SimpleKey.none : SimpleKey := ⟨false, false, 0, Pos.zero⟩

/-- The scanner: the text left and its place, the tokens queued and the number handed out,
the indentation stack, the remembered keys (innermost flow level first) and the flow level. -/
structure Scanner where
  rest : List Char
  pos : Pos
  tokens : List Token
  parsed : Nat
  available : Bool
  indent : Int
  indents : List Int
  keyAllowed : Bool
  keys : List SimpleKey
  flowLevel : Nat
  started : Bool
  deriving Inhabited

/-- A scanner at the start of a text. -/
def Scanner.start (cs : List Char) : Scanner :=
  ⟨cs, Pos.zero, [], 0, false, -1, [], false, [], 0, false⟩

/-- A step of the scanner. -/
abbrev ScanM := StateT Scanner (Except Problem)

/-- Fails with a problem at the current place. -/
def scanFail {α : Type} (context : Option (String × Pos)) (problem : String) : ScanM α := do
  throw ⟨problem, (← get).pos, context, 0⟩

/-! ### Moving -/

/-- Moves past one character of a line. -/
def advance : ScanM Unit := modify fun s =>
  match s.rest with
  | [] => s
  | _ :: r => { s with rest := r, pos := ⟨s.pos.index + 1, s.pos.line, s.pos.column + 1⟩ }

/-- Moves past `n` characters of a line. -/
def advanceBy : Nat → ScanM Unit
  | 0 => pure ()
  | n + 1 => do advance; advanceBy n

/-- Reads one character of a line. -/
def readChar : ScanM String := do
  match (← get).rest with
  | [] => return ""
  | c :: _ => advance; return c.toString

/-- Moves past a line break; `\r\n` is one. -/
def skipLine : ScanM Unit := modify fun s =>
  match s.rest with
  | '\r' :: '\n' :: r => { s with rest := r, pos := ⟨s.pos.index + 2, s.pos.line + 1, 0⟩ }
  | c :: r =>
    if isBreak c then { s with rest := r, pos := ⟨s.pos.index + 1, s.pos.line + 1, 0⟩ } else s
  | [] => s

/-- Reads a line break: `\r\n`, `\r`, `\n` and NEL read as `\n`; the line and paragraph
separators read as themselves. -/
def readLine : ScanM String := do
  let s ← get
  match s.rest with
  | '\r' :: '\n' :: _ => skipLine; return "\n"
  | c :: _ =>
    if c == '\r' || c == '\n' || c == '\x85' then skipLine; return "\n"
    else if c == '\u2028' || c == '\u2029' then skipLine; return c.toString
    else return ""
  | [] => return ""

/-- The text left. -/
def restText : ScanM (List Char) := return (← get).rest

/-- Moves past characters while `p` holds, on one line, for at most `fuel` characters. -/
def skipWhile (p : Char → Bool) : Nat → ScanM Unit
  | 0 => pure ()
  | fuel + 1 => do
    match (← get).rest with
    | c :: _ => if p c && !isBreak c then do advance; skipWhile p fuel else pure ()
    | [] => pure ()

/-- Reads characters while `p` holds, on one line, for at most `fuel` characters. -/
def readWhile (p : Char → Bool) : Nat → ScanM String
  | 0 => pure ""
  | fuel + 1 => do
    match (← get).rest with
    | c :: _ =>
      if p c && !isBreak c then do
        advance
        return c.toString ++ (← readWhile p fuel)
      else return ""
    | [] => return ""

/-- The fuel for a loop over the text left. -/
def fuelLeft : ScanM Nat := return (← get).rest.length + 1

/-! ### Queue, keys and indentation -/

/-- Inserts an element at a position of a list (at the end when past it). -/
def insertAt {α : Type} (x : α) : Nat → List α → List α
  | 0, l => x :: l
  | _ + 1, [] => [x]
  | n + 1, y :: l => y :: insertAt x n l

/-- Queues a token. -/
def enqueue (t : Token) : ScanM Unit := modify fun s => { s with tokens := s.tokens ++ [t] }

/-- Queues a token of no width at the current place. -/
def enqueueHere (k : TokenKind) : ScanM Unit := do
  let p := (← get).pos
  enqueue ⟨k, p, p⟩

/-- The innermost remembered key. -/
def topKey : ScanM SimpleKey := return (← get).keys.headD SimpleKey.none

/-- Replaces the innermost remembered key. -/
def setTopKey (k : SimpleKey) : ScanM Unit := modify fun s =>
  { s with keys := match s.keys with
    | [] => [k]
    | _ :: ks => k :: ks }

/-- Forgets the innermost remembered key; losing a required one is an error. -/
def removeSimpleKey : ScanM Unit := do
  let k ← topKey
  if k.possible && k.required then
    scanFail (some ("while scanning a simple key", k.mark)) "could not find expected ':'"
  setTopKey { k with possible := false }

/-- Remembers the current place as a possible key, when a key may start here. -/
def saveSimpleKey : ScanM Unit := do
  let s ← get
  let required := s.flowLevel == 0 && s.indent == (s.pos.column : Int)
  if s.keyAllowed then
    let k : SimpleKey := ⟨true, required, s.parsed + s.tokens.length, s.pos⟩
    removeSimpleKey
    setTopKey k

/-- Forgets the remembered keys that can no longer be keys: on an earlier line, or more than
1024 characters back. Losing a required one is an error. The outermost level is checked
first. -/
def staleSimpleKeys : ScanM Unit := do
  let s ← get
  let stale := fun (k : SimpleKey) =>
    k.possible && (k.mark.line < s.pos.line || k.mark.index + 1024 < s.pos.index)
  match s.keys.reverse.find? fun k => stale k && k.required with
  | some k => scanFail (some ("while scanning a simple key", k.mark)) "could not find expected ':'"
  | none =>
    set { s with keys := s.keys.map fun k => if stale k then { k with possible := false } else k }

/-- Enters a flow collection. -/
def increaseFlowLevel : ScanM Unit := modify fun s =>
  { s with keys := SimpleKey.none :: s.keys, flowLevel := s.flowLevel + 1 }

/-- Leaves a flow collection. -/
def decreaseFlowLevel : ScanM Unit := modify fun s =>
  if s.flowLevel > 0 then { s with flowLevel := s.flowLevel - 1, keys := s.keys.drop 1 } else s

/-- Opens a block collection at `column` when it is deeper than the current indentation: the
token goes at the queue position of token `number`, or at the end. -/
def rollIndent (column : Int) (number : Option Nat) (k : TokenKind) (mark : Pos) : ScanM Unit := do
  let s ← get
  if s.flowLevel == 0 && s.indent < column then
    let t : Token := ⟨k, mark, mark⟩
    let tokens := match number with
      | some n => insertAt t (n - s.parsed) s.tokens
      | none => s.tokens ++ [t]
    set { s with indents := s.indent :: s.indents, indent := column, tokens }

/-- Closes the block collections deeper than `column`. -/
def unrollIndentWith (column : Int) : Nat → ScanM Unit
  | 0 => pure ()
  | fuel + 1 => do
    let s ← get
    if s.flowLevel == 0 && s.indent > column then
      enqueueHere .blockEnd
      modify fun s => { s with indent := s.indents.headD (-1), indents := s.indents.drop 1 }
      unrollIndentWith column fuel

/-- Closes the block collections deeper than `column`. -/
def unrollIndent (column : Int) : ScanM Unit := do
  unrollIndentWith column ((← get).indents.length + 1)

/-! ### Between tokens -/

/-- Moves to the start of the next token, past blanks, comments and line breaks. Tabs are
skipped only in flow collections or where no key may start. -/
def scanToNextToken : Nat → ScanM Unit
  | 0 => pure ()
  | fuel + 1 => do
    let s ← get
    if s.pos.column == 0 && s.rest.head? == some '\uFEFF' then advance
    let s ← get
    let tabsOk := s.flowLevel > 0 || !s.keyAllowed
    skipWhile (fun c => c == ' ' || (tabsOk && c == '\t')) (← fuelLeft)
    if (← restText).head? == some '#' then skipWhile (fun _ => true) (← fuelLeft)
    match (← restText) with
    | c :: _ =>
      if isBreak c then
        skipLine
        if (← get).flowLevel == 0 then modify fun s => { s with keyAllowed := true }
        scanToNextToken fuel
    | [] => pure ()

/-! ### Markers -/

/-- The stream start. -/
def fetchStreamStart : ScanM Unit := do
  modify fun s => { s with indent := -1, keys := [SimpleKey.none], keyAllowed := true, started := true }
  enqueueHere .streamStart

/-- The stream end: a last line is closed, and so are all block collections. -/
def fetchStreamEnd : ScanM Unit := do
  modify fun s =>
    if s.pos.column != 0 then { s with pos := ⟨s.pos.index, s.pos.line + 1, 0⟩ } else s
  unrollIndent (-1)
  removeSimpleKey
  modify fun s => { s with keyAllowed := false }
  enqueueHere .streamEnd

/-- `---` or `...`. -/
def fetchDocumentIndicator (k : TokenKind) : ScanM Unit := do
  unrollIndent (-1)
  removeSimpleKey
  modify fun s => { s with keyAllowed := false }
  let start := (← get).pos
  advanceBy 3
  enqueue ⟨k, start, (← get).pos⟩

/-- `[` or `{`. -/
def fetchFlowCollectionStart (k : TokenKind) : ScanM Unit := do
  saveSimpleKey
  increaseFlowLevel
  modify fun s => { s with keyAllowed := true }
  let start := (← get).pos
  advance
  enqueue ⟨k, start, (← get).pos⟩

/-- `]` or `}`. -/
def fetchFlowCollectionEnd (k : TokenKind) : ScanM Unit := do
  removeSimpleKey
  decreaseFlowLevel
  modify fun s => { s with keyAllowed := false }
  let start := (← get).pos
  advance
  enqueue ⟨k, start, (← get).pos⟩

/-- `,` in a flow collection. -/
def fetchFlowEntry : ScanM Unit := do
  removeSimpleKey
  modify fun s => { s with keyAllowed := true }
  let start := (← get).pos
  advance
  enqueue ⟨.flowEntry, start, (← get).pos⟩

/-- `-` of a block sequence entry. -/
def fetchBlockEntry : ScanM Unit := do
  let s ← get
  if s.flowLevel == 0 then
    if !s.keyAllowed then scanFail none "block sequence entries are not allowed in this context"
    rollIndent s.pos.column none .blockSequenceStart s.pos
  removeSimpleKey
  modify fun s => { s with keyAllowed := true }
  let start := (← get).pos
  advance
  enqueue ⟨.blockEntry, start, (← get).pos⟩

/-- `?` of an explicit key. -/
def fetchKey : ScanM Unit := do
  let s ← get
  if s.flowLevel == 0 then
    if !s.keyAllowed then scanFail none "mapping keys are not allowed in this context"
    rollIndent s.pos.column none .blockMappingStart s.pos
  removeSimpleKey
  modify fun s => { s with keyAllowed := s.flowLevel == 0 }
  let start := (← get).pos
  advance
  enqueue ⟨.key, start, (← get).pos⟩

/-- `:` of a value. After a remembered key, the `key` token goes before that key (with the
start of a block mapping when it opens one). -/
def fetchValue : ScanM Unit := do
  let k ← topKey
  if k.possible then
    let s ← get
    let t : Token := ⟨.key, k.mark, k.mark⟩
    set { s with tokens := insertAt t (k.tokenNumber - s.parsed) s.tokens }
    rollIndent k.mark.column (some k.tokenNumber) .blockMappingStart k.mark
    setTopKey { k with possible := false }
    modify fun s => { s with keyAllowed := false }
  else
    let s ← get
    if s.flowLevel == 0 then
      if !s.keyAllowed then scanFail none "mapping values are not allowed in this context"
      rollIndent s.pos.column none .blockMappingStart s.pos
    modify fun s => { s with keyAllowed := s.flowLevel == 0 }
  let start := (← get).pos
  advance
  enqueue ⟨.value, start, (← get).pos⟩

/-! ### Anchors and tags -/

/-- `&name` or `*name`. -/
def scanAnchor (isAlias : Bool) : ScanM Token := do
  let start := (← get).pos
  advance
  let name ← readWhile isWordChar (← fuelLeft)
  let stop := (← get).pos
  let r ← restText
  let ends := blankzAt r 0 || [some '?', some ':', some ',', some ']', some '}', some '%', some '@',
    some '\x60'].contains r.head?
  if name.isEmpty || !ends then
    scanFail (some (if isAlias then "while scanning an alias" else "while scanning an anchor", start))
      "did not find expected alphabetic or numeric character"
  return ⟨if isAlias then .alias name else .anchor name, start, stop⟩

/-- The UTF-8 length announced by a leading byte. -/
def utf8Width (b : Nat) : Nat :=
  if b < 0x80 then 1 else if b / 32 == 6 then 2 else if b / 16 == 14 then 3
  else if b / 8 == 30 then 4 else 0

/-- Reads `%XX` escapes of one UTF-8 character in a tag, as bytes. -/
def uriEscapes (directive : Bool) (start : Pos) : Nat → Nat → ScanM (List UInt8)
  | 0, _ => pure []
  | fuel + 1, width => do
    let r ← restText
    let context := some (if directive then "while parsing a %TAG directive" else "while parsing a tag", start)
    match r with
    | '%' :: h1 :: h2 :: _ =>
      match hexDigit? h1, hexDigit? h2 with
      | some a, some b =>
        let octet := a * 16 + b
        let width ← if width == 0 then do
            let w := utf8Width octet
            if w == 0 then scanFail context "found an incorrect leading UTF-8 octet"
            pure w
          else do
            if octet / 64 != 2 then scanFail context "found an incorrect trailing UTF-8 octet"
            pure width
        advanceBy 3
        if width == 1 then return [octet.toUInt8]
        else return octet.toUInt8 :: (← uriEscapes directive start fuel (width - 1))
      | _, _ => scanFail context "did not find URI escaped octet"
    | _ => scanFail context "did not find URI escaped octet"

/-- A character that may appear in a tag; inside `!<...>` also `,`, `[` and `]`. -/
def isUriChar (verbatim : Bool) (c : Char) : Bool :=
  isWordChar c || ";/?:@&=+$.%!~*\x27()".toList.contains c || (verbatim && ",[]".toList.contains c)

/-- Reads tag characters, with the number read. -/
def tagChars (verbatim directive : Bool) (start : Pos) : Nat → ScanM (String × Nat)
  | 0 => pure ("", 0)
  | fuel + 1 => do
    match (← restText) with
    | c :: _ =>
      if isUriChar verbatim c then
        let piece ← if c == '%' then do
            let bytes ← uriEscapes directive start (← fuelLeft) 0
            pure ((String.fromUTF8? (ByteArray.mk bytes.toArray)).getD "")
          else readChar
        let (more, n) ← tagChars verbatim directive start fuel
        return (piece ++ more, n + 1)
      else return ("", 0)
    | [] => return ("", 0)

/-- Reads the characters of a tag after `head` (whose first `!` is not kept). -/
def scanTagUri (verbatim directive : Bool) (head : String) (start : Pos) : ScanM String := do
  let (text, n) ← tagChars verbatim directive start (← fuelLeft)
  let kept := String.ofList (head.toList.drop 1)
  if head.length + n == 0 then
    scanFail (some (if directive then "while parsing a %TAG directive" else "while parsing a tag", start))
      "did not find expected tag URI"
  return kept ++ text

/-- Reads a tag handle: `!`, `!!` or `!word!` (or, outside a directive, `!word`). -/
def scanTagHandle (directive : Bool) (start : Pos) : ScanM String := do
  let context := if directive then "while scanning a tag directive" else "while scanning a tag"
  if (← restText).head? != some '!' then scanFail (some (context, start)) "did not find expected '!'"
  advance
  let word ← readWhile isWordChar (← fuelLeft)
  if (← restText).head? == some '!' then
    advance
    return "!" ++ word ++ "!"
  else
    if directive && !word.isEmpty then
      scanFail (some ("while parsing a tag directive", start)) "did not find expected '!'"
    return "!" ++ word

/-- `!<uri>`, `!handle!suffix`, `!suffix` or `!`. -/
def scanTag : ScanM Token := do
  let start := (← get).pos
  let r ← restText
  let (handle, suffix) ← if isAt r 1 '<' then do
      advanceBy 2
      let suffix ← scanTagUri true false "" start
      if (← restText).head? != some '>' then
        scanFail (some ("while scanning a tag", start)) "did not find the expected '>'"
      advance
      pure ("", suffix)
    else do
      let handle ← scanTagHandle false start
      if handle.length > 1 && handle.startsWith "!" && handle.endsWith "!" then
        pure (handle, ← scanTagUri false false "" start)
      else
        let suffix ← scanTagUri false false handle start
        if suffix.isEmpty then pure ("", "!") else pure ("!", suffix)
  let s ← get
  if !blankzAt s.rest 0 && !(s.flowLevel > 0 && s.rest.head? == some ',') then
    scanFail (some ("while scanning a tag", start)) "did not find expected whitespace or line break"
  return ⟨.tag handle suffix, start, s.pos⟩

/-! ### Directives -/

/-- Reads the number of a `%YAML` directive. -/
def scanVersionNumber (start : Pos) : ScanM Nat := do
  let digits ← readWhile isDigit 10
  if digits.length > 9 then
    scanFail (some ("while scanning a %YAML directive", start)) "found extremely long version number"
  if digits.isEmpty then
    scanFail (some ("while scanning a %YAML directive", start)) "did not find expected version number"
  return digits.toList.foldl (fun n c => n * 10 + (c.toNat - '0'.toNat)) 0

/-- `%YAML major.minor` or `%TAG handle prefix`, to the end of the line. -/
def scanDirective : ScanM Token := do
  let start := (← get).pos
  advance
  let name ← readWhile isWordChar (← fuelLeft)
  if name.isEmpty then
    scanFail (some ("while scanning a directive", start)) "could not find expected directive name"
  if !blankzAt (← restText) 0 then
    scanFail (some ("while scanning a directive", start)) "found unexpected non-alphabetical character"
  let kind ← if name == "YAML" then do
      skipWhile isBlank (← fuelLeft)
      let major ← scanVersionNumber start
      if (← restText).head? != some '.' then
        scanFail (some ("while scanning a %YAML directive", start))
          "did not find expected digit or '.' character"
      advance
      let minor ← scanVersionNumber start
      pure (TokenKind.versionDirective major minor)
    else if name == "TAG" then do
      skipWhile isBlank (← fuelLeft)
      let handle ← scanTagHandle true start
      if !((← restText).head?.map isBlank).getD false then
        scanFail (some ("while scanning a %TAG directive", start)) "did not find expected whitespace"
      skipWhile isBlank (← fuelLeft)
      let pre ← scanTagUri true true "" start
      if !blankzAt (← restText) 0 then
        scanFail (some ("while scanning a %TAG directive", start))
          "did not find expected whitespace or line break"
      pure (TokenKind.tagDirective handle pre)
    else scanFail (some ("while scanning a directive", start)) "found unknown directive name"
  let stop := (← get).pos
  skipWhile isBlank (← fuelLeft)
  if (← restText).head? == some '#' then skipWhile (fun _ => true) (← fuelLeft)
  if !breakzAt (← restText) 0 then
    scanFail (some ("while scanning a directive", start)) "did not find expected comment or line break"
  skipLine
  return ⟨kind, start, stop⟩

/-! ### Scalars -/

/-- Line folding state of a multi-line scalar: the first break after text, the breaks after
it, and the blanks after text. -/
structure Folding where
  text : String
  leadingBreak : String
  trailingBreaks : String
  whitespaces : String
  leadingBlanks : Bool
  deriving Inhabited

/-- A fresh folding state. -/
def Folding.empty : Folding := ⟨"", "", "", "", false⟩

/-- Joins the pending blanks or breaks into the text: a single `\n` folds into a space, more
breaks stay as they are. -/
def Folding.join (f : Folding) : Folding :=
  if f.leadingBlanks then
    if f.leadingBreak == "\n" then
      if f.trailingBreaks.isEmpty then { f with text := f.text ++ " ", leadingBreak := "", leadingBlanks := false }
      else { f with text := f.text ++ f.trailingBreaks, trailingBreaks := "", leadingBreak := "",
                    leadingBlanks := false }
    else
      { f with text := f.text ++ f.leadingBreak ++ f.trailingBreaks, leadingBreak := "",
               trailingBreaks := "", leadingBlanks := false }
  else { f with text := f.text ++ f.whitespaces, whitespaces := "" }

/-- Consumes blanks and breaks between the lines of a flow or plain scalar. With `tabCheck`,
a tab before the indentation column `indent` on a continued line is an error. -/
def foldBlanks (tabCheck : Option (Int × Pos)) : Nat → Folding → ScanM Folding
  | 0, f => pure f
  | fuel + 1, f => do
    match (← restText) with
    | c :: _ =>
      if isBlank c then
        match tabCheck with
        | some (indent, start) =>
          if f.leadingBlanks && ((← get).pos.column : Int) < indent && c == '\t' then
            scanFail (some ("while scanning a plain scalar", start)) "found a tab character that violates indentation"
        | none => pure ()
        if !f.leadingBlanks then
          let w ← readChar
          foldBlanks tabCheck fuel { f with whitespaces := f.whitespaces ++ w }
        else do advance; foldBlanks tabCheck fuel f
      else if isBreak c then
        let b ← readLine
        if !f.leadingBlanks then
          foldBlanks tabCheck fuel { f with whitespaces := "", leadingBreak := b, leadingBlanks := true }
        else foldBlanks tabCheck fuel { f with trailingBreaks := f.trailingBreaks ++ b }
      else pure f
    | [] => pure f

/-- Reads the non-blank characters of one line of a plain scalar. -/
def plainRun (start : Pos) : Nat → Folding → Pos → ScanM (Folding × Pos)
  | 0, f, stop => pure (f, stop)
  | fuel + 1, f, stop => do
    let s ← get
    let r := s.rest
    if blankzAt r 0 then return (f, stop)
    let flow := s.flowLevel > 0
    if flow && isAt r 0 ':' && [some ',', some '?', some '[', some ']', some '\x7b', some '\x7d'].contains (charAt r 1) then
      scanFail (some ("while scanning a plain scalar", start)) "found unexpected ':'"
    if (isAt r 0 ':' && blankzAt r 1) ||
        (flow && [some ',', some '[', some ']', some '\x7b', some '\x7d'].contains r.head?) then
      return (f, stop)
    let f := if f.leadingBlanks || !f.whitespaces.isEmpty then f.join else f
    let c ← readChar
    plainRun start fuel { f with text := f.text ++ c } (← get).pos

/-- Reads the lines of a plain scalar. -/
def plainLines (start : Pos) (indent : Int) : Nat → Folding → Pos → ScanM (Folding × Pos)
  | 0, f, stop => pure (f, stop)
  | fuel + 1, f, stop => do
    let s ← get
    if documentMarkerAt s.rest s.pos.column then return (f, stop)
    if s.rest.head? == some '#' then return (f, stop)
    let (f, stop) ← plainRun start (← fuelLeft) f stop
    match (← restText) with
    | c :: _ =>
      if !(isBlank c || isBreak c) then return (f, stop)
      let f ← foldBlanks (some (indent, start)) (← fuelLeft) f
      let s ← get
      if s.flowLevel == 0 && (s.pos.column : Int) < indent then return (f, stop)
      plainLines start indent fuel f stop
    | [] => return (f, stop)

/-- A plain scalar. A break inside it lets a key start after it. -/
def scanPlainScalar : ScanM Token := do
  let s ← get
  let start := s.pos
  let (f, stop) ← plainLines start (s.indent + 1) (← fuelLeft) Folding.empty start
  if f.leadingBlanks then modify fun s => { s with keyAllowed := true }
  return ⟨.scalar f.text .plain, start, stop⟩

/-- The character of a one-letter escape of a double-quoted scalar. -/
def simpleEscape (c : Char) : Option String :=
  match c with
  | '0' => some "\x00"
  | 'a' => some "\x07"
  | 'b' => some "\x08"
  | 't' => some "\t"
  | '\t' => some "\t"
  | 'n' => some "\n"
  | 'v' => some "\x0B"
  | 'f' => some "\x0C"
  | 'r' => some "\r"
  | 'e' => some "\x1B"
  | ' ' => some " "
  | '"' => some "\""
  | '/' => some "/"
  | '\x27' => some "\x27"
  | '\\' => some "\\"
  | 'N' => some "\x85"
  | '_' => some "\xA0"
  | 'L' => some "\u2028"
  | 'P' => some "\u2029"
  | _ => none

/-- Reads `n` hexadecimal digits. -/
def hexValue (start : Pos) : Nat → Nat → ScanM Nat
  | 0, acc => pure acc
  | n + 1, acc => do
    match (← restText).head?.bind hexDigit? with
    | some d => advance; hexValue start n (acc * 16 + d)
    | none => scanFail (some ("while parsing a quoted scalar", start)) "did not find expected hexdecimal number"

/-- Reads an escape sequence of a double-quoted scalar, whose letter is `code`. -/
def scanEscape (start : Pos) (code : Option Char) : ScanM String := do
  let context := some ("while parsing a quoted scalar", start)
  let digits := match code with
    | some 'x' => 2
    | some 'u' => 4
    | some 'U' => 8
    | _ => 0
  if digits > 0 then
    advanceBy 2
    let v ← hexValue start digits 0
    if (0xD800 ≤ v && v ≤ 0xDFFF) || v > 0x10FFFF then
      scanFail context "found invalid Unicode character escape code"
    return (Char.ofNat v).toString
  match code.bind simpleEscape with
  | some e => advanceBy 2; return e
  | none => scanFail context "found unknown escape character"

/-- Reads the non-blank characters of one line of a quoted scalar; the flag tells whether an
escaped line break ended it. -/
def quotedRun (single : Bool) (start : Pos) : Nat → String → ScanM (String × Bool)
  | 0, acc => pure (acc, false)
  | fuel + 1, acc => do
    let r ← restText
    if blankzAt r 0 then return (acc, false)
    if single && isAt r 0 '\x27' && isAt r 1 '\x27' then
      advanceBy 2
      quotedRun single start fuel (acc ++ "\x27")
    else if isAt r 0 (if single then '\x27' else '"') then return (acc, false)
    else if !single && isAt r 0 '\\' && ((charAt r 1).map isBreak).getD false then
      advance
      skipLine
      return (acc, true)
    else if !single && isAt r 0 '\\' then
      let e ← scanEscape start (charAt r 1)
      quotedRun single start fuel (acc ++ e)
    else
      let c ← readChar
      quotedRun single start fuel (acc ++ c)

/-- Reads the lines of a quoted scalar up to its closing quote. -/
def quotedLines (single : Bool) (start : Pos) : Nat → Folding → ScanM Folding
  | 0, f => pure f
  | fuel + 1, f => do
    let s ← get
    if documentMarkerAt s.rest s.pos.column then
      scanFail (some ("while scanning a quoted scalar", start)) "found unexpected document indicator"
    if s.rest.isEmpty then
      scanFail (some ("while scanning a quoted scalar", start)) "found unexpected end of stream"
    let (text, escapedBreak) ← quotedRun single start (← fuelLeft) f.text
    let f := { f with text, leadingBlanks := escapedBreak }
    if (← restText).head? == some (if single then '\x27' else '"') then return f
    let f ← foldBlanks none (← fuelLeft) f
    quotedLines single start fuel f.join

/-- A single- or double-quoted scalar. -/
def scanFlowScalar (single : Bool) : ScanM Token := do
  let start := (← get).pos
  advance
  let f ← quotedLines single start (← fuelLeft) Folding.empty
  advance
  return ⟨.scalar f.text (if single then .singleQuoted else .doubleQuoted), start, (← get).pos⟩

/-- Moves past indentation spaces before column `indent` (all spaces when it is not known
yet, that is zero). -/
def indentSpaces (indent : Nat) : Nat → ScanM Unit
  | 0 => pure ()
  | k + 1 => do
    let s ← get
    if (indent == 0 || s.pos.column < indent) && s.rest.head? == some ' ' then
      advance
      indentSpaces indent k

/-- Moves past the indentation and empty lines before a line of a block scalar, collecting
the breaks; the indentation is found from the deepest of these lines when not given. -/
def blockBreaksFrom (start : Pos) (indent : Nat) (blockIndent : Int) :
    Nat → Nat → String → Pos → ScanM (Nat × String × Pos)
  | 0, _, breaks, stop => pure (indent, breaks, stop)
  | fuel + 1, maxIndent, breaks, stop => do
    indentSpaces indent (← fuelLeft)
    let s ← get
    let maxIndent := max maxIndent s.pos.column
    if (indent == 0 || s.pos.column < indent) && s.rest.head? == some '\t' then
      scanFail (some ("while scanning a block scalar", start))
        "found a tab character where an indentation space is expected"
    if (s.rest.head?.map isBreak).getD false then
      let b ← readLine
      blockBreaksFrom start indent blockIndent fuel maxIndent (breaks ++ b) (← get).pos
    else
      let i := if indent == 0 then max (max maxIndent (blockIndent + 1).toNat) 1 else indent
      return (i, breaks, stop)

/-- The breaks before the next line of a block scalar, and its indentation. -/
def blockBreaks (start : Pos) (indent : Nat) (blockIndent : Int) : ScanM (Nat × String × Pos) := do
  blockBreaksFrom start indent blockIndent (← fuelLeft) 0 "" (← get).pos

/-- Reads the lines of a block scalar at indentation `indent`. -/
def blockLines (start : Pos) (literal : Bool) (indent : Nat) (blockIndent : Int) :
    Nat → String → String → String → Bool → Pos → ScanM (String × String × String × Pos)
  | 0, text, leadingBreak, trailingBreaks, _, stop => pure (text, leadingBreak, trailingBreaks, stop)
  | fuel + 1, text, leadingBreak, trailingBreaks, leadingBlank, stop => do
    let s ← get
    if s.pos.column != indent || s.rest.isEmpty then
      return (text, leadingBreak, trailingBreaks, stop)
    let trailingBlank := (s.rest.head?.map isBlank).getD false
    let text :=
      if !literal && leadingBreak == "\n" && !leadingBlank && !trailingBlank then
        if trailingBreaks.isEmpty then text ++ " " else text
      else text ++ leadingBreak
    let text := text ++ trailingBreaks
    let leadingBlank := (s.rest.head?.map isBlank).getD false
    let line ← readWhile (fun _ => true) (← fuelLeft)
    let brk ← readLine
    let (_, breaks, stop) ← blockBreaks start indent blockIndent
    blockLines start literal indent blockIndent fuel (text ++ line) brk breaks leadingBlank stop

/-- A literal (`|`) or folded (`>`) block scalar, with its chomping and indentation
indicators. -/
def scanBlockScalar (literal : Bool) : ScanM Token := do
  let start := (← get).pos
  advance
  let r ← restText
  let context := some ("while scanning a block scalar", start)
  let (chomping, increment) ← match r with
    | c :: rest =>
      if c == '+' || c == '-' then do
        advance
        match rest with
        | d :: _ =>
          if isDigit d then
            if d == '0' then scanFail context "found an indentation indicator equal to 0"
            advance
            pure ((if c == '+' then 1 else -1 : Int), d.toNat - '0'.toNat)
          else pure ((if c == '+' then 1 else -1 : Int), 0)
        | [] => pure ((if c == '+' then 1 else -1 : Int), 0)
      else if isDigit c then do
        if c == '0' then scanFail context "found an indentation indicator equal to 0"
        advance
        match rest with
        | e :: _ =>
          if e == '+' || e == '-' then
            advance
            pure ((if e == '+' then 1 else -1 : Int), c.toNat - '0'.toNat)
          else pure (0, c.toNat - '0'.toNat)
        | [] => pure (0, c.toNat - '0'.toNat)
      else pure (0, 0)
    | [] => pure (0, 0)
  skipWhile isBlank (← fuelLeft)
  if (← restText).head? == some '#' then skipWhile (fun _ => true) (← fuelLeft)
  if !breakzAt (← restText) 0 then scanFail context "did not find expected comment or line break"
  skipLine
  let stop := (← get).pos
  let blockIndent := (← get).indent
  let indent : Nat := if increment > 0 then
      (if blockIndent >= 0 then (blockIndent + increment).toNat else increment) else 0
  let (indent, breaks, _) ← blockBreaks start indent blockIndent
  let (text, leadingBreak, trailingBreaks, stop) ←
    blockLines start literal indent blockIndent (← fuelLeft) "" "" breaks false stop
  let text := if chomping != -1 then text ++ leadingBreak else text
  let text := if chomping == 1 then text ++ trailingBreaks else text
  return ⟨.scalar text (if literal then .literal else .folded), start, stop⟩

/-- A scalar, anchor, alias or tag, which may start a key. -/
def fetchKeyable (scan : ScanM Token) : ScanM Unit := do
  saveSimpleKey
  modify fun s => { s with keyAllowed := false }
  enqueue (← scan)

/-! ### The next token -/

/-- Whether a character cannot start a plain scalar by itself. -/
def isIndicator (c : Char) : Bool :=
  "-?:,[]\x7b\x7d#&*!|>\x27\"%@`".toList.contains c

/-- Reads the next token into the queue. -/
def fetchNextToken : ScanM Unit := do
  if !(← get).started then fetchStreamStart
  else
    scanToNextToken (← fuelLeft)
    staleSimpleKeys
    unrollIndent (← get).pos.column
    let s ← get
    let r := s.rest
    let column := s.pos.column
    let flow := s.flowLevel > 0
    match r with
    | [] => fetchStreamEnd
    | c :: _ =>
      if column == 0 && c == '%' then
        unrollIndent (-1)
        removeSimpleKey
        modify fun s => { s with keyAllowed := false }
        enqueue (← scanDirective)
      else if column == 0 && isAt r 0 '-' && isAt r 1 '-' && isAt r 2 '-' && blankzAt r 3 then
        fetchDocumentIndicator .documentStart
      else if column == 0 && isAt r 0 '.' && isAt r 1 '.' && isAt r 2 '.' && blankzAt r 3 then
        fetchDocumentIndicator .documentEnd
      else if c == '[' then fetchFlowCollectionStart .flowSequenceStart
      else if c == '\x7b' then fetchFlowCollectionStart .flowMappingStart
      else if c == ']' then fetchFlowCollectionEnd .flowSequenceEnd
      else if c == '\x7d' then fetchFlowCollectionEnd .flowMappingEnd
      else if c == ',' then fetchFlowEntry
      else if c == '-' && blankzAt r 1 then fetchBlockEntry
      else if c == '?' && (flow || blankzAt r 1) then fetchKey
      else if c == ':' && (flow || blankzAt r 1) then fetchValue
      else if c == '*' then fetchKeyable (scanAnchor true)
      else if c == '&' then fetchKeyable (scanAnchor false)
      else if c == '!' then fetchKeyable scanTag
      else if c == '|' && !flow then do
        removeSimpleKey
        modify fun s => { s with keyAllowed := true }
        enqueue (← scanBlockScalar true)
      else if c == '>' && !flow then do
        removeSimpleKey
        modify fun s => { s with keyAllowed := true }
        enqueue (← scanBlockScalar false)
      else if c == '\x27' then fetchKeyable (scanFlowScalar true)
      else if c == '"' then fetchKeyable (scanFlowScalar false)
      else if !(blankzAt r 0 || isIndicator c) || (c == '-' && !((charAt r 1).map isBlank).getD false) ||
          (!flow && (c == '?' || c == ':') && !blankzAt r 1) then
        fetchKeyable scanPlainScalar
      else
        scanFail (some ("while scanning for the next token", s.pos)) "found character that cannot start any token"

/-- Reads tokens until the first queued one can no longer have a key inserted before it. -/
def fetchMoreTokens : Nat → ScanM Unit
  | 0 => modify fun s => { s with available := true }
  | fuel + 1 => do
    let need ← if (← get).tokens.isEmpty then pure true else do
      staleSimpleKeys
      let s ← get
      pure (s.keys.any fun k => k.possible && k.tokenNumber == s.parsed)
    if need then
      fetchNextToken
      fetchMoreTokens fuel
    else modify fun s => { s with available := true }

/-- The next token, read ahead as far as needed. -/
def peekToken : ScanM Token := do
  if !(← get).available then fetchMoreTokens ((← get).rest.length + 8)
  return (← get).tokens.headD ⟨.streamEnd, (← get).pos, (← get).pos⟩

/-- Hands out the next token. -/
def skipToken : ScanM Unit := modify fun s =>
  { s with tokens := s.tokens.drop 1, parsed := s.parsed + 1, available := false }

end Yaml

end ApiSpec
