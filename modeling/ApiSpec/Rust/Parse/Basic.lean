import ApiSpec.Rust.Syntax
import ApiSpec.Text.Ident

/-!
# Parsing token trees

A parser reads the token trees of one level, entering a group to read its body. Its state
holds the trees still to read, the *echo* of those it read, and the first group whose body
was left unfinished.

* The echo is what the tokens print as once parsed: an operator read as one token (`::`,
  `->`, `..=`) is written glued and every other mark alone, while a group taken whole (a
  macro's body) is written as it was. The printed text of a type or expression is the echo
  of its tokens.
* A group body that is not read to its end is not an error at once: the first such body is
  remembered, and the parse fails with `unexpected token, expected ...` at the end if nothing
  else failed first. A tentative parse (`attempt`, `lookAhead`) forgets what it remembered.
* The items declared inside blocks, wherever the blocks stand (an array length, an attribute's
  value, a function body), are gathered in the state in the order they are read; reading an
  item takes those declared inside it (`collecting`), and a failed tentative parse drops them
  with the rest of its state.

Messages follow the parser the grammar is written for: a failed choice lists what it looked
for (`expected one of: ...`), and a failure at the end of a group body is prefixed with
`unexpected end of input, `.

The parsers of the grammar call each other through a record, `Grammar`, so that they can live
in several modules; the record is tied to itself with fuel in `Rust.Parse.File`.
-/

namespace ApiSpec

namespace Rust

/-- The state of a parse. -/
structure ParseState where
  /-- The trees still to read at this level. -/
  rest : List TokenTree
  /-- The trees read at this level, last first, as they print. -/
  echo : List TokenTree
  /-- The message for the first group body left unfinished. -/
  unexpected : Option String
  /-- The items declared so far inside the item being read, last first. -/
  found : List Item
  deriving Inhabited

/-- A parser. -/
abbrev Parse := StateT ParseState (Except String)

/-- The state that reads a stream from its start. -/
def ParseState.start (ts : List TokenTree) : ParseState := ⟨ts, [], none, []⟩

/-! ### Looking at the next trees -/

/-- The trees after the next one; a lifetime counts as one. -/
def skipOne : List TokenTree → Option (List TokenTree)
  | [] => none
  | .punct '\x27' true :: .ident _ :: rest => some rest
  | _ :: rest => some rest

/-- The keywords that are not identifiers. -/
def reservedWords : List String :=
  ["_", "abstract", "as", "async", "await", "become", "box", "break", "const", "continue",
   "crate", "do", "dyn", "else", "enum", "extern", "false", "final", "fn", "for", "if", "impl",
   "in", "let", "loop", "macro", "match", "mod", "move", "mut", "override", "priv", "pub", "ref",
   "return", "Self", "self", "static", "struct", "super", "trait", "true", "try", "type",
   "typeof", "unsafe", "unsized", "use", "virtual", "where", "while", "yield"]

/-- Whether a word is an identifier (not a keyword). -/
def isPlainIdent (s : String) : Bool := !reservedWords.contains s

/-- Whether the trees start with the marks of `s`, all but the last joint. -/
def marksAt : List Char → List TokenTree → Bool
  | [c], .punct d _ :: _ => c == d && d != '\x27'
  | c :: cs, .punct d j :: rest => c == d && d != '\x27' && j && marksAt cs rest
  | _, _ => false

/-- Whether the next tree is the word `w`. -/
def wordAt (w : String) : List TokenTree → Bool
  | .ident s :: _ => s == w
  | _ => false

/-- Whether the next tree is an identifier that is not a keyword. -/
def identAt : List TokenTree → Bool
  | .ident s :: _ => isPlainIdent s
  | _ => false

/-- Whether the next tree is any identifier or keyword. -/
def anyIdentAt : List TokenTree → Bool
  | .ident _ :: _ => true
  | _ => false

/-- Whether the next trees are a lifetime. -/
def lifetimeAt : List TokenTree → Bool
  | .punct '\x27' true :: .ident _ :: _ => true
  | _ => false

/-- Whether the next tree is a group with delimiter `d`. -/
def groupAt (d : Delimiter) : List TokenTree → Bool
  | .group d' _ :: _ => d' == d
  | _ => false

/-- Whether a literal's text is a number. -/
def isNumberRepr (r : String) : Bool :=
  match r.toList with
  | c :: _ => c ≥ '0' && c ≤ '9'
  | [] => false

/-- Whether a literal's suffix is an identifier: `_` or a start character, then continue
characters. -/
def suffixOk : List Char → Bool
  | [] => false
  | c :: rest => (c == '_' || Text.isIdentStart c) && rest.all Text.isIdentContinue

/-- The value of a digit in a base, when it is one (letters only above base ten). -/
def digitIn (base : Nat) (c : Char) : Option Nat :=
  if c.isDigit then some (c.toNat - '0'.toNat)
  else if base > 10 && 'a' ≤ c && c ≤ 'f' then some (c.toNat - 'a'.toNat + 10)
  else if base > 10 && 'A' ≤ c && c ≤ 'F' then some (c.toNat - 'A'.toNat + 10)
  else none

/-- After an `e` in a decimal literal: whether the exponent (digits and `_`, then anything
but an identifier suffix) makes the literal a float. A sign always does. -/
def exponentFollows : Bool → List Char → Bool
  | has, [] => has
  | has, c :: rest =>
    if c == '_' then exponentFollows has rest
    else if c == '-' || c == '+' then true
    else if c.isDigit then exponentFollows true rest
    else has && suffixOk (c :: rest)

/-- The digits of an integer literal after its base prefix: the value and the suffix. A
digit too large for the base, a decimal point or an exponent make it no integer. -/
def intDigits (base : Nat) : List Char → Nat → Bool → Option (Nat × String)
  | [], v, has => if has then some (v, "") else none
  | c :: rest, v, has =>
    if c == '_' then intDigits base rest v has
    else match digitIn base c with
      | some d => if d ≥ base then none else intDigits base rest (v * base + d) true
      | none =>
        if base == 10 && c == '.' then none
        else if base == 10 && (c == 'e' || c == 'E') && exponentFollows false rest then none
        else if has && suffixOk (c :: rest) then some (v, String.ofList (c :: rest))
        else none

/-- An integer literal's value and suffix: a base prefix (`0x`, `0o`, `0b`), digits of the
base with `_` among them, and an identifier suffix. -/
def intLiteral? (repr : String) : Option (Nat × String) :=
  match repr.toList with
  | '0' :: 'x' :: r => intDigits 16 r 0 false
  | '0' :: 'o' :: r => intDigits 8 r 0 false
  | '0' :: 'b' :: r => intDigits 2 r 0 false
  | c :: r => if c.isDigit then intDigits 10 (c :: r) 0 false else none
  | [] => none

/-- Whether the next tree is an integer literal. -/
def intLitAt : List TokenTree → Bool
  | .literal s :: _ => (intLiteral? s).isSome
  | _ => false

/-- Whether the next tree is a float literal. -/
def floatLitAt : List TokenTree → Bool
  | .literal s :: _ => isNumberRepr s && (intLiteral? s).isNone
  | _ => false

/-- The index of a tuple field written as a literal: an integer without suffix that fits 32
bits, printed in decimal; otherwise the message the parse stops with. -/
def indexValue (repr : String) : Except String Nat :=
  match intLiteral? repr with
  | none => .error "expected integer literal"
  | some (v, suffix) =>
    if !suffix.isEmpty then .error "expected unsuffixed integer"
    else if v < Nat.pow 2 32 then .ok v
    else .error "number too large to fit in target type"

/-- Whether the next trees are a literal: a literal token, `true`, `false` or a negative number. -/
def litAt : List TokenTree → Bool
  | .literal _ :: _ => true
  | .ident "true" :: _ => true
  | .ident "false" :: _ => true
  | .punct '-' _ :: .literal r :: _ => isNumberRepr r
  | _ => false

/-- Whether the next tree is a string literal. -/
def strAt : List TokenTree → Bool
  | .literal r :: _ => r.startsWith "\"" || r.startsWith "r\"" || r.startsWith "r#"
  | _ => false

/-- Whether a predicate holds at the next tree. -/
def peek (f : List TokenTree → Bool) : Parse Bool := return f (← get).rest

/-- Whether a predicate holds after the next tree. -/
def peek2 (f : List TokenTree → Bool) : Parse Bool :=
  return ((skipOne (← get).rest).map f).getD false

/-- Whether a predicate holds after the next two trees. -/
def peek3 (f : List TokenTree → Bool) : Parse Bool :=
  return (((skipOne (← get).rest).bind skipOne).map f).getD false

/-- Whether the level is read to its end. -/
def atEnd : Parse Bool := return (← get).rest.isEmpty

/-! ### Failing -/

/-- Fails with a message. -/
def fail {α : Type} (msg : String) : Parse α := throw msg

/-- Fails with a message, saying so when the level is at its end. -/
def failHere {α : Type} (msg : String) : Parse α := do
  if (← atEnd) then throw ("unexpected end of input, " ++ msg) else throw msg

/-- The failure of a choice that looked for each of `names`, in order. -/
def expectedOneOf {α : Type} (names : List String) : Parse α :=
  match names with
  | [] => do if (← atEnd) then throw "unexpected end of input" else throw "unexpected token"
  | [a] => failHere ("expected " ++ a)
  | [a, b] => failHere ("expected " ++ a ++ " or " ++ b)
  | _ => failHere ("expected one of: " ++ ", ".intercalate names)

/-- The name of a keyword or mark in a message. -/
def quoted (s : String) : String := "`" ++ s ++ "`"

/-! ### Reading trees -/

/-- Adds a tree to the echo. -/
def echoTree (t : TokenTree) : Parse Unit := modify fun s => { s with echo := t :: s.echo }

/-- Drops the next tree from the input. -/
def dropTree : Parse Unit := modify fun s => { s with rest := s.rest.drop 1 }

/-- Reads the next tree as it is. -/
def anyTree : Parse (Option TokenTree) := do
  match (← get).rest with
  | t :: _ => dropTree; echoTree t; return some t
  | [] => return none

/-- Reads the marks of `s` as one token. -/
def mark (s : String) : Parse Unit := do
  if marksAt s.toList (← get).rest then
    let cs := s.toList
    for i in [0:cs.length] do
      dropTree
      echoTree (.punct (cs.getD i ' ') (i + 1 < cs.length))
  else fail ("expected " ++ quoted s)

/-- Reads the marks of `s` when they come next. -/
def markIf (s : String) : Parse Bool := do
  if marksAt s.toList (← get).rest then mark s; return true else return false

/-- Reads the word `w`. -/
def keyword (w : String) : Parse Unit := do
  if wordAt w (← get).rest then dropTree; echoTree (.ident w)
  else failHere ("expected " ++ quoted w)

/-- Reads the word `w` when it comes next. -/
def keywordIf (w : String) : Parse Bool := do
  if wordAt w (← get).rest then keyword w; return true else return false

/-- Reads an identifier that is not a keyword. -/
def ident : Parse String := do
  match (← get).rest with
  | .ident s :: _ =>
    if isPlainIdent s then dropTree; echoTree (.ident s); return s
    else failHere ("expected identifier, found keyword " ++ quoted s)
  | _ => failHere "expected identifier"

/-- Reads any identifier or keyword. -/
def identAny : Parse String := do
  match (← get).rest with
  | .ident s :: _ => dropTree; echoTree (.ident s); return s
  | _ => failHere "expected ident"

/-- Reads a lifetime. -/
def lifetime : Parse Unit := do
  match (← get).rest with
  | .punct '\x27' true :: .ident s :: _ =>
    dropTree; dropTree; echoTree (.punct '\x27' true); echoTree (.ident s)
  | _ => failHere "expected lifetime"

/-- Reads a lifetime when one comes next. -/
def lifetimeIf : Parse Bool := do
  if lifetimeAt (← get).rest then lifetime; return true else return false

/-- The value of a string literal's text, when it is one. -/
def strValue (repr : String) : Option String :=
  let cs := repr.toList
  match cs with
  | '"' :: rest => cooked rest.length rest []
  | 'r' :: rest =>
    let fence := (rest.takeWhile (· == '#')).length
    let body := rest.drop (fence + 1)
    -- The body ends at the last quote.
    let close := body.length - 1 - ((body.reverse.takeWhile (· != '"')).length)
    some (String.ofList (body.take close))
  | _ => none
where
  /-- Unescapes a cooked string body up to its closing quote. -/
  cooked : Nat → List Char → List Char → Option String
    | 0, _, _ => none
    | n + 1, cs, acc =>
      match cs with
      | '"' :: _ => some (String.ofList acc.reverse)
      | '\\' :: c :: rest =>
        if c == 'n' then cooked n rest ('\n' :: acc)
        else if c == 'r' then cooked n rest ('\r' :: acc)
        else if c == 't' then cooked n rest ('\t' :: acc)
        else if c == '0' then cooked n rest ('\x00' :: acc)
        else if c == '\\' || c == '\x27' || c == '"' then cooked n rest (c :: acc)
        else if c == 'x' then
          match rest with
          | a :: b :: r => cooked n r (Char.ofNat (hexDigit a * 16 + hexDigit b) :: acc)
          | _ => none
        else if c == 'u' then
          let digits := ((rest.drop 1).takeWhile (· != '\x7d')).filter (· != '_')
          let value := digits.foldl (fun v d => v * 16 + hexDigit d) 0
          cooked n ((rest.dropWhile (· != '\x7d')).drop 1) (Char.ofNat value :: acc)
        else if c == '\n' || c == '\r' then
          cooked n (rest.dropWhile fun d => d == ' ' || d == '\t' || d == '\n' || d == '\r') acc
        else none
      | '\r' :: '\n' :: rest => cooked n rest ('\n' :: acc)
      | c :: rest => cooked n rest (c :: acc)
      | [] => none
  /-- The value of a hexadecimal digit (zero for any other character). -/
  hexDigit (c : Char) : Nat :=
    if c ≥ '0' && c ≤ '9' then c.toNat - '0'.toNat
    else if c ≥ 'a' && c ≤ 'f' then c.toNat - 'a'.toNat + 10
    else if c ≥ 'A' && c ≤ 'F' then c.toNat - 'A'.toNat + 10
    else 0

/-- Reads a literal: a literal token, `true`, `false`, or `-` and a number (one literal
token, which prints as a mark and a number). Answers the value when it is a string literal. -/
def literal : Parse (Option String) := do
  match (← get).rest with
  | .literal r :: _ => dropTree; echoTree (.literal r); return strValue r
  | .ident "true" :: _ => dropTree; echoTree (.ident "true"); return none
  | .ident "false" :: _ => dropTree; echoTree (.ident "false"); return none
  | .punct '-' _ :: .literal r :: _ =>
    if isNumberRepr r then
      dropTree; dropTree; echoTree (.punct '-' false); echoTree (.literal r); return none
    else failHere "expected literal"
  | _ => failHere "expected literal"

/-- Reads a tuple index, printed in decimal. -/
def tupleIndex : Parse Unit := do
  match (← get).rest with
  | .literal r :: _ =>
    match indexValue r with
    | .ok v => dropTree; echoTree (.literal (toString v))
    | .error m => fail m
  | _ => failHere "expected integer literal"

/-- The message for a group body left unfinished. -/
def unfinishedMessage : Delimiter → String
  | .paren => "unexpected token, expected `)`"
  | .brace => "unexpected token, expected `\x7d`"
  | .bracket => "unexpected token, expected `]`"

/-- The message when a group is missing. -/
def groupMissing : Delimiter → String
  | .paren => "expected parentheses"
  | .brace => "expected curly braces"
  | .bracket => "expected square brackets"

/-- Reads a group with delimiter `d`, its body with `p`. -/
def inGroup {α : Type} (d : Delimiter) (p : Parse α) : Parse α := do
  let s ← get
  match s.rest with
  | .group d' body :: outer =>
    if d' != d then failHere (groupMissing d)
    else
      set ({ rest := body, echo := [], unexpected := s.unexpected, found := s.found } : ParseState)
      let a ← p
      let inner ← get
      let unexpected :=
        if inner.rest.isEmpty then inner.unexpected else inner.unexpected.orElse fun _ => some (unfinishedMessage d)
      let echo := TokenTree.group d (inner.echo.reverse ++ inner.rest) :: s.echo
      set ({ rest := outer, echo, unexpected, found := inner.found } : ParseState)
      return a
  | _ => failHere (groupMissing d)

/-- Reads a whole group of any delimiter, as a macro's body. -/
def delimited : Parse (Delimiter × List TokenTree) := do
  match (← get).rest with
  | .group d body :: _ => dropTree; echoTree (.group d body); return (d, body)
  | _ => failHere "expected delimiter"

/-! ### Tentative parses -/

/-- Runs a parser; when it fails, nothing is read. What it leaves unfinished is forgotten. -/
def attempt {α : Type} (p : Parse α) : Parse (Option α) := fun s =>
  match p s with
  | .ok (a, s') => .ok (some a, { s' with unexpected := s.unexpected })
  | .error _ => .ok (none, s)

/-- Runs a parser and reads nothing, answering what it answered. -/
def lookAhead {α : Type} (p : Parse α) : Parse (Except String α) := fun s =>
  match p s with
  | .ok (a, _) => .ok (.ok a, s)
  | .error e => .ok (.error e, s)

/-- Declares an item where the parser stands. -/
def declare (i : Item) : Parse Unit := modify fun s => { s with found := i :: s.found }

/-- Runs a parser apart from the items declared so far: answers its result and the items
declared while it ran, in order. -/
def collecting {α : Type} (p : Parse α) : Parse (α × List Item) := do
  let before := (← get).found
  modify fun s => { s with found := [] }
  let a ← p
  let inner := (← get).found
  modify fun s => { s with found := before }
  return (a, inner.reverse)

/-- Runs a parser whose declared items are dropped: it reads what is kept as text only. -/
def discarding {α : Type} (p : Parse α) : Parse α := return (← collecting p).1

/-- Runs a parser and answers, with its result, the echo of what it read. -/
def captured {α : Type} (p : Parse α) : Parse (α × List TokenTree) := do
  let before := (← get).echo.length
  let a ← p
  let echo := (← get).echo
  return (a, (echo.take (echo.length - before)).reverse)

/-- The trees read by a parser, as they were written, and its result. -/
def verbatim {α : Type} (p : Parse α) : Parse (α × List TokenTree) := do
  let before := (← get).rest
  let a ← p
  let after := (← get).rest
  return (a, before.take (before.length - after.length))

/-- Runs `step` while `more` holds, at most `bound` times; each step must read a tree. -/
def manyWhile {α : Type} (bound : Nat) (more : Parse Bool) (step : Parse α) : Parse (List α) :=
  go bound []
where
  /-- Runs the steps, collecting their results in reverse. -/
  go : Nat → List α → Parse (List α)
    | 0, acc => return acc.reverse
    | n + 1, acc => do
      if (← more) then
        let a ← step
        go n (a :: acc)
      else return acc.reverse

/-- The number of trees left at this level plus one: a bound on steps that each read one. -/
def stepBound : Parse Nat := return (← get).rest.length + 1

/-! ### Expressions -/

/-- The kind of an expression, as far as the grammar's choices depend on it. -/
inductive ExprKind where
  | array
  | assign
  | asyncBlock
  | await
  /-- A binary operation; whether it is a comparison. -/
  | binary (compare : Bool)
  | block
  | breakOut (hasValue : Bool)
  | call
  | cast
  | closure
  | constBlock
  | continueLoop
  | field
  | forLoop
  | index
  | infer
  | ifElse
  | letCond
  | lit
  | loopBlock
  /-- A macro call; whether its body is in braces. -/
  | invocation (braced : Bool)
  | matchOn
  | methodCall
  | paren
  | path
  /-- A range; whether it has a start and an end. -/
  | range (start finish : Bool)
  | reference
  | repeatArray
  | returnOut (hasValue : Bool)
  | structLit
  | question
  | tryBlock
  | tuple
  /-- A unary operation; whether it is a negation. -/
  | unary (neg : Bool)
  | unsafeBlock
  | whileLoop
  | yieldOut (hasValue : Bool)
  | verbatimExpr
  deriving Repr, Inhabited, BEq

/-- A parsed expression. The items declared in its blocks are declared where it is read. -/
structure Expr where
  kind : ExprKind
  /-- Whether it ends with a closing brace. -/
  trailingBrace : Bool
  /-- Its value, when it is a string literal. -/
  str : Option String
  deriving Inhabited

/-- An expression of a kind, with no trailing brace. -/
def Expr.plain (kind : ExprKind) : Expr := ⟨kind, false, none⟩

/-- Whether an expression is a range. -/
def Expr.isRange (e : Expr) : Bool :=
  match e.kind with
  | .range _ _ => true
  | _ => false

/-! ### The grammar's record -/

/-- The parsers that the grammar's rules call on one another. -/
structure Grammar where
  /-- A type; whether `+` may join bounds at its top. -/
  ty : Bool → Parse Ty
  /-- A type path, after which parenthesized arguments may follow: whether it has a `qself`. -/
  typePath : Parse (Bool × Path)
  /-- A path, in expression style (turbofish only) or type style. -/
  path : Bool → Parse Path
  /-- A path that may start with `<T as Trait>::`. -/
  qpath : Bool → Parse (Bool × Path)
  /-- Angle-bracketed arguments, after an optional `::`. -/
  angleArgs : Parse (List GenericArg)
  /-- One bound. -/
  bound : Parse Bound
  /-- Bounds joined by `+` (when allowed): the bounds and whether a `+` ends them. -/
  bounds : Bool → Parse (List Bound × Bool)
  /-- A return type, `->` and a type, if present; whether `+` may join bounds. -/
  returnType : Bool → Parse (Option Ty)
  /-- An expression; whether a struct literal may appear. -/
  expr : Bool → Parse Expr
  /-- A unary expression; whether a struct literal may appear. -/
  unary : Bool → Parse Expr
  /-- The rest of a binary expression after its left side, at a base precedence. -/
  binary : Expr → Bool → Nat → Parse Expr
  /-- An expression statement's expression, where a block ends it early. -/
  exprEarly : Parse Expr
  /-- A block in braces. -/
  block : Parse Unit
  /-- The statements of a block body. -/
  stmts : Parse Unit
  /-- A pattern without alternatives. -/
  pat : Parse Pat
  /-- A pattern with alternatives; whether a leading `|` may come first. -/
  patMulti : Bool → Parse Pat
  /-- Outer attributes. -/
  outerAttrs : Parse (List Attribute)
  /-- Inner attributes. -/
  innerAttrs : Parse (List Attribute)
  /-- The rest of an item after its outer attributes. -/
  itemRest : List Attribute → Parse Item
  /-- Generic parameters, if present: the names of the type parameters. -/
  generics : Parse (List String)
  /-- A `where` clause, if present. -/
  whereClause : Parse Unit

/-- The grammar when the fuel is spent: every rule fails. -/
def Grammar.spent : Grammar where
  ty _ := fail "recursion limit"
  typePath := fail "recursion limit"
  path _ := fail "recursion limit"
  qpath _ := fail "recursion limit"
  angleArgs := fail "recursion limit"
  bound := fail "recursion limit"
  bounds _ := fail "recursion limit"
  returnType _ := fail "recursion limit"
  expr _ := fail "recursion limit"
  unary _ := fail "recursion limit"
  binary _ _ _ := fail "recursion limit"
  exprEarly := fail "recursion limit"
  block := fail "recursion limit"
  stmts := fail "recursion limit"
  pat := fail "recursion limit"
  patMulti _ := fail "recursion limit"
  outerAttrs := fail "recursion limit"
  innerAttrs := fail "recursion limit"
  itemRest _ := fail "recursion limit"
  generics := fail "recursion limit"
  whereClause := fail "recursion limit"

end Rust

end ApiSpec
