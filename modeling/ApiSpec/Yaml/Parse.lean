import ApiSpec.Yaml.Scan

/-!
# Parsing YAML tokens into events

The parser reads the scanner's tokens and gives the events of a YAML stream: stream and
document starts and ends, scalars, aliases, and the starts and ends of sequences and
mappings. It is the reference library's state machine: a state says what may come next, and
a stack holds the states to return to when a nested node ends. An entry, key or value with
nothing after it stands for an empty plain scalar.

Node tags are resolved here against the `%TAG` directives of the document and the two
standard handles, `!` and `!!` (`tag:yaml.org,2002:`).
-/

namespace ApiSpec

namespace Yaml

/-- What the parser expects next. -/
inductive ParseState where
  | streamStart
  | implicitDocumentStart
  | documentStart
  | documentContent
  | documentEnd
  | blockNode
  | blockNodeOrIndentlessSequence
  | flowNode
  | blockSequenceFirstEntry
  | blockSequenceEntry
  | indentlessSequenceEntry
  | blockMappingFirstKey
  | blockMappingKey
  | blockMappingValue
  | flowSequenceFirstEntry
  | flowSequenceEntry
  | flowSequenceEntryMappingKey
  | flowSequenceEntryMappingValue
  | flowSequenceEntryMappingEnd
  | flowMappingFirstKey
  | flowMappingKey
  | flowMappingValue
  | flowMappingEmptyValue
  | finished
  deriving Inhabited, DecidableEq, Repr

/-- An event of a YAML stream. -/
inductive Event where
  | streamStart
  | streamEnd
  | documentStart
  | documentEnd
  | alias (name : String)
  | scalar (anchor tag : Option String) (text : String) (style : ScalarStyle)
  | sequenceStart (anchor tag : Option String)
  | sequenceEnd
  | mappingStart (anchor tag : Option String)
  | mappingEnd
  deriving Inhabited, Repr

/-- The parser: the scanner, the current state, the states to return to, the places where
open collections started, and the tag handles in force. -/
structure Parser where
  scanner : Scanner
  state : ParseState
  states : List ParseState
  marks : List Pos
  tagDirectives : List (String × String)
  deriving Inhabited

/-- A parser at the start of a text. -/
def Parser.start (cs : List Char) : Parser := ⟨Scanner.start cs, .streamStart, [], [], []⟩

/-- A step of the parser. -/
abbrev ParseM := StateT Parser (Except Problem)

/-- Runs a step of the scanner. -/
def liftScan {α : Type} (m : ScanM α) : ParseM α := do
  let p ← get
  match m.run p.scanner with
  | .ok (a, sc) => set { p with scanner := sc }; return a
  | .error e => throw e

/-- The next token. -/
def peek : ParseM Token := liftScan peekToken

/-- Moves past the next token. -/
def skip : ParseM Unit := liftScan skipToken

/-- Fails at a token, with no context. -/
def parseFail {α : Type} (problem : String) (mark : Pos) : ParseM α := throw ⟨problem, mark, none, 0⟩

/-- Fails at a token, telling what was being parsed and where it started. -/
def parseFailIn {α : Type} (context : String) (contextMark : Pos) (problem : String) (mark : Pos) :
    ParseM α :=
  throw ⟨problem, mark, some (context, contextMark), 0⟩

/-- Returns to the state on top of the stack. -/
def popState : ParseM Unit := modify fun p =>
  { p with state := p.states.headD .finished, states := p.states.drop 1 }

/-- Saves a state to return to. -/
def pushState (st : ParseState) : ParseM Unit := modify fun p => { p with states := st :: p.states }

/-- Sets the next state. -/
def goTo (st : ParseState) : ParseM Unit := modify fun p => { p with state := st }

/-- Remembers where a collection starts. -/
def pushMark (m : Pos) : ParseM Unit := modify fun p => { p with marks := m :: p.marks }

/-- Forgets where the innermost collection started, giving it. -/
def popMark : ParseM Pos := do
  let p ← get
  set { p with marks := p.marks.drop 1 }
  return p.marks.headD Pos.zero

/-- An empty plain scalar at a place. -/
def emptyScalar (m : Pos) : Event × Pos := (.scalar none none "" .plain, m)

/-! ### Documents -/

/-- The standard tag handles. -/
def defaultTagDirectives : List (String × String) := [("!", "!"), ("!!", "tag:yaml.org,2002:")]

/-- Reads the `%YAML` and `%TAG` directives before a document, then adds the standard
handles. -/
def processDirectives : Nat → Bool → ParseM Unit
  | 0, _ => pure ()
  | fuel + 1, seenVersion => do
    let t ← peek
    match t.kind with
    | .versionDirective major minor =>
      if seenVersion then parseFail "found duplicate %YAML directive" t.start
      if major != 1 || (minor != 1 && minor != 2) then parseFail "found incompatible YAML document" t.start
      skip
      processDirectives fuel true
    | .tagDirective handle pre =>
      if (← get).tagDirectives.any (·.1 == handle) then parseFail "found duplicate %TAG directive" t.start
      modify fun p => { p with tagDirectives := p.tagDirectives ++ [(handle, pre)] }
      skip
      processDirectives fuel seenVersion
    | _ =>
      modify fun p => { p with tagDirectives := p.tagDirectives ++
        defaultTagDirectives.filter fun (h, _) => !p.tagDirectives.any (·.1 == h) }

/-- The fuel for a loop over the tokens left. -/
def tokenFuel : ParseM Nat := return (← get).scanner.rest.length + (← get).scanner.tokens.length + 8

/-- Skips extra `...` markers. -/
def skipDocumentEnds : Nat → ParseM Token
  | 0 => peek
  | fuel + 1 => do
    let t ← peek
    match t.kind with
    | .documentEnd => skip; skipDocumentEnds fuel
    | _ => return t

/-- A document start: implicit for the first document, after `---` otherwise, or the end of
the stream. -/
def parseDocumentStart (implicit : Bool) : ParseM (Event × Pos) := do
  let t ← if implicit then peek else skipDocumentEnds (← tokenFuel)
  let isDirective := match t.kind with
    | .versionDirective .. => true
    | .tagDirective .. => true
    | _ => false
  let isStreamEnd := match t.kind with
    | .streamEnd => true
    | _ => false
  let isDocStart := match t.kind with
    | .documentStart => true
    | _ => false
  if implicit && !isDirective && !isDocStart && !isStreamEnd then
    processDirectives (← tokenFuel) false
    pushState .documentEnd
    goTo .blockNode
    return (.documentStart, t.start)
  else if !isStreamEnd then
    let start := t.start
    processDirectives (← tokenFuel) false
    let t ← peek
    match t.kind with
    | .documentStart =>
      pushState .documentEnd
      goTo .documentContent
      skip
      return (.documentStart, start)
    | _ => parseFail "did not find expected <document start>" t.start
  else
    goTo .finished
    skip
    return (.streamEnd, t.start)

/-- The content of an explicit document; an empty one is an empty scalar. -/
def parseDocumentContent (node : ParseM (Event × Pos)) : ParseM (Event × Pos) := do
  let t ← peek
  match t.kind with
  | .versionDirective .. | .tagDirective .. | .documentStart | .documentEnd | .streamEnd =>
    popState
    return emptyScalar t.start
  | _ => node

/-- A document end, after an optional `...`; the tag handles are forgotten. -/
def parseDocumentEnd : ParseM (Event × Pos) := do
  let t ← peek
  match t.kind with
  | .documentEnd => skip
  | _ => pure ()
  modify fun p => { p with tagDirectives := [] }
  goTo .documentStart
  return (.documentEnd, t.start)

/-! ### Nodes -/

/-- The tag of a handle and suffix, from the directives in force. -/
def resolveTag (handle suffix : String) (start tagMark : Pos) : ParseM String := do
  if handle.isEmpty then return suffix
  match (← get).tagDirectives.find? (·.1 == handle) with
  | some (_, pre) => return pre ++ suffix
  | none => parseFailIn "while parsing a node" start "found undefined tag handle" tagMark

/-- A node: an alias, or properties (anchor and tag) followed by a scalar or the start of a
collection. In a block context a block collection may start; with `indentless`, a `-`
entry starts a sequence at the same indentation. Properties alone make an empty scalar. -/
def parseNode (block indentless : Bool) : ParseM (Event × Pos) := do
  let t ← peek
  match t.kind with
  | .alias name =>
    popState
    skip
    return (.alias name, t.start)
  | _ =>
    let start := t.start
    -- the properties, in either order
    let (anchor, tagParts, t) ← match t.kind with
      | .anchor a => do
        skip
        let t2 ← peek
        match t2.kind with
        | .tag h s => skip; pure (some a, some (h, s, t2.start), ← peek)
        | _ => pure (some a, none, t2)
      | .tag h s => do
        skip
        let t2 ← peek
        match t2.kind with
        | .anchor a => skip; pure (some a, some (h, s, t.start), ← peek)
        | _ => pure (none, some (h, s, t.start), t2)
      | _ => pure (none, none, t)
    let tag ← match tagParts with
      | some (h, s, m) => some <$> resolveTag h s start m
      | none => pure none
    match t.kind with
    | .blockEntry =>
      if indentless then
        goTo .indentlessSequenceEntry
        return (.sequenceStart anchor tag, start)
      else
        propertiesOnly anchor tag start t
    | .scalar text style =>
      popState
      skip
      return (.scalar anchor tag text style, start)
    | .flowSequenceStart =>
      goTo .flowSequenceFirstEntry
      return (.sequenceStart anchor tag, start)
    | .flowMappingStart =>
      goTo .flowMappingFirstKey
      return (.mappingStart anchor tag, start)
    | .blockSequenceStart =>
      if block then
        goTo .blockSequenceFirstEntry
        return (.sequenceStart anchor tag, start)
      else propertiesOnly anchor tag start t
    | .blockMappingStart =>
      if block then
        goTo .blockMappingFirstKey
        return (.mappingStart anchor tag, start)
      else propertiesOnly anchor tag start t
    | _ => propertiesOnly anchor tag start t
where
  /-- Properties with no content make an empty scalar; nothing at all is an error. -/
  propertiesOnly (anchor tag : Option String) (start : Pos) (t : Token) : ParseM (Event × Pos) := do
    if anchor.isSome || tag.isSome then
      popState
      return (.scalar anchor tag "" .plain, start)
    else
      parseFailIn (if block then "while parsing a block node" else "while parsing a flow node") start
        "did not find expected node content" t.start

/-- Whether a token is one of the given kinds of marker. -/
def TokenKind.isOneOf (k : TokenKind) (blockEntry key value blockEnd flowEntry flowSeqEnd
    flowMapEnd : Bool) : Bool :=
  match k with
  | .blockEntry => blockEntry
  | .key => key
  | .value => value
  | .blockEnd => blockEnd
  | .flowEntry => flowEntry
  | .flowSequenceEnd => flowSeqEnd
  | .flowMappingEnd => flowMapEnd
  | _ => false

/-! ### Block collections -/

/-- An entry of a block sequence, or its end. -/
def parseBlockSequenceEntry (first : Bool) : ParseM (Event × Pos) := do
  if first then
    pushMark (← peek).start
    skip
  let t ← peek
  match t.kind with
  | .blockEntry =>
    let m := t.stop
    skip
    let t2 ← peek
    if !t2.kind.isOneOf true false false true false false false then
      pushState .blockSequenceEntry
      parseNode true false
    else
      goTo .blockSequenceEntry
      return emptyScalar m
  | .blockEnd =>
    popState
    let _ ← popMark
    skip
    return (.sequenceEnd, t.start)
  | _ =>
    parseFailIn "while parsing a block collection" (← popMark) "did not find expected '-' indicator" t.start

/-- An entry of a sequence written at the indentation of its mapping, or its end. -/
def parseIndentlessSequenceEntry : ParseM (Event × Pos) := do
  let t ← peek
  match t.kind with
  | .blockEntry =>
    let m := t.stop
    skip
    let t2 ← peek
    if !t2.kind.isOneOf true true true true false false false then
      pushState .indentlessSequenceEntry
      parseNode true false
    else
      goTo .indentlessSequenceEntry
      return emptyScalar m
  | _ =>
    popState
    return (.sequenceEnd, t.start)

/-- A key of a block mapping, or its end. -/
def parseBlockMappingKey (first : Bool) : ParseM (Event × Pos) := do
  if first then
    pushMark (← peek).start
    skip
  let t ← peek
  match t.kind with
  | .key =>
    let m := t.stop
    skip
    let t2 ← peek
    if !t2.kind.isOneOf false true true true false false false then
      pushState .blockMappingValue
      parseNode true true
    else
      goTo .blockMappingValue
      return emptyScalar m
  | .blockEnd =>
    popState
    let _ ← popMark
    skip
    return (.mappingEnd, t.start)
  | _ => parseFailIn "while parsing a block mapping" (← popMark) "did not find expected key" t.start

/-- A value of a block mapping; a missing one is empty. -/
def parseBlockMappingValue : ParseM (Event × Pos) := do
  let t ← peek
  match t.kind with
  | .value =>
    let m := t.stop
    skip
    let t2 ← peek
    if !t2.kind.isOneOf false true true true false false false then
      pushState .blockMappingKey
      parseNode true true
    else
      goTo .blockMappingKey
      return emptyScalar m
  | _ =>
    goTo .blockMappingKey
    return emptyScalar t.start

/-! ### Flow collections -/

/-- An entry of a flow sequence, or its end. A `key` in it starts a one-pair mapping. -/
def parseFlowSequenceEntry (first : Bool) : ParseM (Event × Pos) := do
  if first then
    pushMark (← peek).start
    skip
  let t ← peek
  let t ← match t.kind with
    | .flowSequenceEnd => pure t
    | .flowEntry => if first then pure t else do skip; peek
    | _ =>
      if first then pure t
      else parseFailIn "while parsing a flow sequence" (← popMark) "did not find expected ',' or ']'" t.start
  match t.kind with
  | .flowSequenceEnd =>
    popState
    let _ ← popMark
    skip
    return (.sequenceEnd, t.start)
  | .key =>
    goTo .flowSequenceEntryMappingKey
    skip
    return (.mappingStart none none, t.start)
  | _ =>
    pushState .flowSequenceEntry
    parseNode false false

/-- The key of a one-pair mapping in a flow sequence. -/
def parseFlowSequenceEntryMappingKey : ParseM (Event × Pos) := do
  let t ← peek
  if !t.kind.isOneOf false false true false true true false then
    pushState .flowSequenceEntryMappingValue
    parseNode false false
  else
    goTo .flowSequenceEntryMappingValue
    return emptyScalar t.start

/-- The value of a one-pair mapping in a flow sequence. -/
def parseFlowSequenceEntryMappingValue : ParseM (Event × Pos) := do
  let t ← peek
  match t.kind with
  | .value =>
    skip
    let t2 ← peek
    if !t2.kind.isOneOf false false false false true true false then
      pushState .flowSequenceEntryMappingEnd
      parseNode false false
    else
      goTo .flowSequenceEntryMappingEnd
      return emptyScalar t2.start
  | _ =>
    goTo .flowSequenceEntryMappingEnd
    return emptyScalar t.start

/-- The end of a one-pair mapping in a flow sequence. -/
def parseFlowSequenceEntryMappingEnd : ParseM (Event × Pos) := do
  let t ← peek
  goTo .flowSequenceEntry
  return (.mappingEnd, t.start)

/-- A key of a flow mapping, or its end. A node without `key` is a key with an empty
value. -/
def parseFlowMappingKey (first : Bool) : ParseM (Event × Pos) := do
  if first then
    pushMark (← peek).start
    skip
  let t ← peek
  let t ← match t.kind with
    | .flowMappingEnd => pure t
    | .flowEntry => if first then pure t else do skip; peek
    | _ =>
      if first then pure t
      else parseFailIn "while parsing a flow mapping" (← popMark) "did not find expected ',' or '\x7d'" t.start
  match t.kind with
  | .flowMappingEnd =>
    popState
    let _ ← popMark
    skip
    return (.mappingEnd, t.start)
  | .key =>
    skip
    let t2 ← peek
    if !t2.kind.isOneOf false false true false true false true then
      pushState .flowMappingValue
      parseNode false false
    else
      goTo .flowMappingValue
      return emptyScalar t2.start
  | _ =>
    pushState .flowMappingEmptyValue
    parseNode false false

/-- A value of a flow mapping; a missing one is empty. -/
def parseFlowMappingValue (empty : Bool) : ParseM (Event × Pos) := do
  let t ← peek
  if empty then
    goTo .flowMappingKey
    return emptyScalar t.start
  match t.kind with
  | .value =>
    skip
    let t2 ← peek
    if !t2.kind.isOneOf false false false false true false true then
      pushState .flowMappingKey
      parseNode false false
    else
      goTo .flowMappingKey
      return emptyScalar t2.start
  | _ =>
    goTo .flowMappingKey
    return emptyScalar t.start

/-! ### The next event -/

/-- The next event of the stream, or none after its end. -/
def nextEvent : ParseM (Option (Event × Pos)) := do
  match (← get).state with
  | .streamStart =>
    let t ← peek
    match t.kind with
    | .streamStart =>
      goTo .implicitDocumentStart
      skip
      return some (.streamStart, t.start)
    | _ => parseFail "did not find expected <stream-start>" t.start
  | .implicitDocumentStart => some <$> parseDocumentStart true
  | .documentStart => some <$> parseDocumentStart false
  | .documentContent => some <$> parseDocumentContent (parseNode true false)
  | .documentEnd => some <$> parseDocumentEnd
  | .blockNode => some <$> parseNode true false
  | .blockNodeOrIndentlessSequence => some <$> parseNode true true
  | .flowNode => some <$> parseNode false false
  | .blockSequenceFirstEntry => some <$> parseBlockSequenceEntry true
  | .blockSequenceEntry => some <$> parseBlockSequenceEntry false
  | .indentlessSequenceEntry => some <$> parseIndentlessSequenceEntry
  | .blockMappingFirstKey => some <$> parseBlockMappingKey true
  | .blockMappingKey => some <$> parseBlockMappingKey false
  | .blockMappingValue => some <$> parseBlockMappingValue
  | .flowSequenceFirstEntry => some <$> parseFlowSequenceEntry true
  | .flowSequenceEntry => some <$> parseFlowSequenceEntry false
  | .flowSequenceEntryMappingKey => some <$> parseFlowSequenceEntryMappingKey
  | .flowSequenceEntryMappingValue => some <$> parseFlowSequenceEntryMappingValue
  | .flowSequenceEntryMappingEnd => some <$> parseFlowSequenceEntryMappingEnd
  | .flowMappingFirstKey => some <$> parseFlowMappingKey true
  | .flowMappingKey => some <$> parseFlowMappingKey false
  | .flowMappingValue => some <$> parseFlowMappingValue false
  | .flowMappingEmptyValue => some <$> parseFlowMappingValue true
  | .finished => return none

/-- The events of a text up to the end of its stream or the first fault, with the fault. -/
def eventsFrom : Nat → Parser → List (Event × Pos) × Option Problem
  | 0, _ => ([], none)
  | fuel + 1, p =>
    match nextEvent.run p with
    | .error e => ([], some e)
    | .ok (none, _) => ([], none)
    | .ok (some ev, p') =>
      let (more, fault) := eventsFrom fuel p'
      (ev :: more, fault)

/-- The events of a text (after its byte order mark), with the first fault. A character that
may not appear in YAML is a fault before any event, told by its byte offset. -/
def events (text : String) : List (Event × Pos) × Option Problem :=
  let (cs, bom) := match text.toList with
    | '\uFEFF' :: rest => (rest, 3)
    | cs => (cs, 0)
  match cs.findIdx? (fun c => !isAllowedChar c) with
  | some i =>
    let offset := bom + (String.ofList (cs.take i)).utf8ByteSize
    ([], some ⟨"control characters are not allowed", Pos.zero, none, offset⟩)
  | none => eventsFrom (4 * cs.length + 16) (Parser.start cs)

end Yaml

end ApiSpec
