import ApiSpec.Rust.Parse.Type

/-!
# Expressions, blocks and statements

Expressions are read by precedence climbing. A unary expression (`&`, `*`, `!`, `-`, or an
atom with its trailers: calls, method calls, fields, indexing, `?`, `.await`) is followed by
binary operators, assignments, ranges and casts, each taken while its precedence is at least
the base one. Comparisons do not chain, a range is never the left side of an operator, and a
cast cannot be followed by a call, a field, indexing or `?`.

Where a struct literal is not allowed (the condition of `if`, `while`, `match` and `for`), a
path followed by braces ends before them.

A block's statements are items, `let` bindings, macro calls and expressions. An expression
statement that is a block (`if`, `match`, a loop, a block) needs no `;`; any other needs one
unless it ends the block. Items inside blocks are collected in order.

The atoms: literals, paths (with a macro call `name!(..)` or a struct literal after them),
parentheses and tuples, arrays, blocks (`unsafe`, `const`, `async`, `try`, labelled), `if`,
`while`, `for`, `loop`, `match`, closures, `let` conditions, `break`, `continue`, `return`,
`yield`, ranges starting with `..`, and `_`.
-/

namespace ApiSpec

namespace Rust

/-! ### Precedence -/

/-- The precedence of `return`, `break` and closures: the lowest. -/
def precJump : Nat := 0
/-- The precedence of assignments. -/
def precAssign : Nat := 1
/-- The precedence of ranges. -/
def precRange : Nat := 2
/-- The precedence of `||`. -/
def precOr : Nat := 3
/-- The precedence of `&&`. -/
def precAnd : Nat := 4
/-- The precedence of comparisons. -/
def precCompare : Nat := 6
/-- The precedence of `|`. -/
def precBitOr : Nat := 7
/-- The precedence of `^`. -/
def precBitXor : Nat := 8
/-- The precedence of `&`. -/
def precBitAnd : Nat := 9
/-- The precedence of shifts. -/
def precShift : Nat := 10
/-- The precedence of `+` and `-`. -/
def precSum : Nat := 11
/-- The precedence of `*`, `/` and `%`. -/
def precProduct : Nat := 12
/-- The precedence of `as`. -/
def precCast : Nat := 13

/-- The binary operator at the head, with its precedence. -/
def binaryOpAt (ts : List TokenTree) : Option (String × Nat) :=
  let compound := ["+=", "-=", "*=", "/=", "%=", "^=", "&=", "|=", "<<=", ">>="]
  match compound.find? fun s => marksAt s.toList ts with
  | some s => some (s, precAssign)
  | none =>
    let ops := [("&&", precAnd), ("||", precOr), ("<<", precShift), (">>", precShift),
      ("==", precCompare), ("<=", precCompare), ("!=", precCompare), (">=", precCompare),
      ("+", precSum), ("-", precSum), ("*", precProduct), ("/", precProduct), ("%", precProduct),
      ("^", precBitXor), ("&", precBitAnd), ("|", precBitOr), ("<", precCompare), (">", precCompare)]
    ops.find? fun (s, _) => marksAt s.toList ts

/-- The precedence of what comes next, the lowest when no operator does. -/
def nextPrecedence : Parse Nat := do
  let r := (← get).rest
  match binaryOpAt r with
  | some (_, p) => return p
  | none =>
    if marksAt ['='] r && !marksAt ['=', '>'] r then return precAssign
    else if marksAt ['.', '.'] r then return precRange
    else if wordAt "as" r then return precCast
    else return precJump

/-- Whether an expression can start here (after `break`, `return` and `yield`). -/
def canBeginExpr : Parse Bool := do
  let r := (← get).rest
  let m (s : String) := marksAt s.toList r
  return anyIdentAt r || groupAt .paren r || groupAt .bracket r || groupAt .brace r || litAt r ||
    (m "!" && !m "!=") || (m "-" && !m "-=" && !m "->") || (m "*" && !m "*=") ||
    (m "|" && !m "|=") || (m "&" && !m "&=") || m ".." || (m "<" && !m "<=" && !m "<<=") ||
    m "::" || lifetimeAt r || m "#"

/-- Whether the body of a match arm or a statement is block-like, needing no comma or `;`. -/
def ExprKind.isBlockLike : ExprKind → Bool
  | .ifElse | .matchOn | .block | .unsafeBlock | .whileLoop | .loopBlock | .forLoop | .tryBlock
  | .constBlock => true
  | _ => false

/-- Whether an expression statement needs a `;` to be followed by another statement. -/
def Expr.needsSemi (e : Expr) : Bool :=
  match e.kind with
  | .invocation braced => !braced
  | k => !k.isBlockLike

/-- Whether an expression statement is read without its trailers (a block, a loop, ...). -/
def Expr.endsEarly (e : Expr) : Bool := e.kind.isBlockLike

/-- An expression built from parts: it ends with a brace when the last part does. -/
def Expr.joined (kind : ExprKind) (parts : List Expr) : Expr :=
  ⟨kind, (parts.getLast?.map (·.trailingBrace)).getD false, none⟩

/-- A block-like expression: it ends with a brace. -/
def Expr.blockOf (kind : ExprKind) : Expr := ⟨kind, true, none⟩

/-! ### Pieces -/

/-- A label `'name:` when one comes next. -/
def labelIf : Parse Unit := do
  if (← peek lifetimeAt) then lifetime; mark ":"

/-- A braced body that may start with inner attributes. -/
def bracedBody (g : Grammar) : Parse Unit :=
  inGroup .brace do
    let _ ← g.innerAttrs
    g.stmts

/-- Range limits: `..` or `..=` (`...` is refused). Whether they are closed. -/
def rangeLimits : Parse Bool := do
  let r := (← get).rest
  let dots := marksAt ['.', '.'] r
  if dots && marksAt ['.', '.', '='] r then mark "..="; return true
  else if dots && !marksAt ['.', '.', '.'] r then mark ".."; return false
  else expectedOneOf (if dots then [quoted "..="] else [quoted ".."])

/-- Range limits as patterns read them: `...` counts as `..=`. Whether they are closed. -/
def patRangeLimits : Parse Bool := do
  let r := (← get).rest
  let dots := marksAt ['.', '.'] r
  if dots && marksAt ['.', '.', '='] r then mark "..="; return true
  else if dots && marksAt ['.', '.', '.'] r then mark "..."; return true
  else if dots then mark ".."; return false
  else expectedOneOf (if dots then [quoted "..="] else [quoted ".."])

/-- Whether a half-open range ends here, before what comes next. -/
def rangeEndsHere (allowStruct : Bool) : Parse Bool := do
  let r := (← get).rest
  let m (s : String) := marksAt s.toList r
  return r.isEmpty || m "," || m ";" || (m "." && !m "..") || m "?" || m "=>" ||
    (!allowStruct && groupAt .brace r) || m "=" || m "+" || m "/" || m "%" || m "^" || m ">" ||
    m "<=" || m "!=" || m "-=" || m "*=" || m "&=" || m "|=" || m "<<=" || wordAt "as" r

/-- The messages a cast refuses after it. -/
def checkCast : Parse Unit := do
  let r := (← get).rest
  let kind :=
    if marksAt ['.'] r && !marksAt ['.', '.'] r then
      let after := (skipOne r).getD []
      if wordAt "await" after then some "`.await`"
      else if identAt after &&
          (groupAt .paren ((skipOne after).getD []) || marksAt [':', ':'] ((skipOne after).getD [])) then
        some "a method call"
      else some "a field access"
    else if marksAt ['?'] r then some "`?`"
    else if groupAt .bracket r then some "indexing"
    else if groupAt .paren r then some "a function call"
    else none
  match kind with
  | some k => failHere ("casts cannot be followed by " ++ k)
  | none => pure ()

/-! ### Binary expressions -/

/-- The right side of a binary operator of precedence `prec`. -/
def binopRhs (g : Grammar) (allowStruct : Bool) (prec : Nat) : Parse Expr := do
  let first ← g.unary allowStruct
  let mut rhs := first
  for _ in [0:(← stepBound)] do
    let next ← nextPrecedence
    if next > prec || (next == prec && prec == precAssign) then
      let before := (← get).rest.length
      rhs ← g.binary rhs allowStruct next
      if (← get).rest.length == before then break
    else break
  return rhs

/-- The end of a range after its limits, if it has one. -/
def rangeEnd (g : Grammar) (closed allowStruct : Bool) : Parse (Option Expr) := do
  if !closed && (← rangeEndsHere allowStruct) then return none
  return some (← binopRhs g allowStruct precRange)

/-- The rest of a binary expression after `lhs`, at precedence `base` and above. -/
def binaryRule (g : Grammar) (lhs : Expr) (allowStruct : Bool) (base : Nat) : Parse Expr := do
  let mut e := lhs
  for _ in [0:(← stepBound)] do
    if e.isRange then break
    let r := (← get).rest
    match binaryOpAt r with
    | some (op, prec) =>
      if prec < base then break
      if prec == precCompare && e.kind == .binary true then
        failHere "comparison operators cannot be chained"
      mark op
      let rhs ← binopRhs g allowStruct prec
      e := Expr.joined (.binary (prec == precCompare)) [e, rhs]
    | none =>
      if precAssign ≥ base && marksAt ['='] r && !marksAt ['=', '>'] r then
        mark "="
        let rhs ← binopRhs g allowStruct precAssign
        e := Expr.joined .assign [e, rhs]
      else if precRange ≥ base && marksAt ['.', '.'] r then
        let closed ← rangeLimits
        let finish ← rangeEnd g closed allowStruct
        e := Expr.joined (.range true finish.isSome) (e :: finish.toList)
      else if precCast ≥ base && wordAt "as" r then
        keyword "as"
        let _ ← g.ty false
        checkCast
        e := { Expr.joined .cast [e] with trailingBrace := false }
      else break
  return e

/-! ### Atoms -/

/-- A closure: `move`, `async`, `|args|`, and a body (a block after `-> Type`). -/
def closureRule (g : Grammar) (allowStruct : Bool) : Parse Expr := do
  if (← peek (wordAt "for")) then boundLifetimes g
  let _ ← keywordIf "const"
  let _ ← keywordIf "static"
  let _ ← keywordIf "async"
  let _ ← keywordIf "move"
  mark "|"
  let _ ← repeatCollect do
    if (← peek (marksAt ['|'])) then return (none, false)
    let _ ← g.outerAttrs
    let _ ← g.pat
    if (← peek (marksAt [':'])) then mark ":"; let _ ← g.ty true
    if (← peek (marksAt ['|'])) then return (some (), false)
    mark ","
    return (some (), true)
  mark "|"
  if (← peek (marksAt ['-', '>'])) then
    mark "->"
    let _ ← g.ty true
    g.block
    return Expr.blockOf .closure
  let body ← g.expr allowStruct
  return Expr.joined .closure [body]

/-- A struct literal's braces after its path. -/
def structBody (g : Grammar) : Parse Unit :=
  inGroup .brace do
    let _ ← repeatCollect do
      if (← atEnd) then return (none, false)
      if (← peek (marksAt ['.', '.'])) then
        mark ".."
        if (← atEnd) then return (none, false)
        let _ ← g.expr true
        return (some (), false)
      let _ ← g.outerAttrs
      let named ← if (← peek identAt) then let _ ← ident; pure true
        else if (← peek intLitAt) then tupleIndex; pure false
        else failHere "expected identifier or integer"
      if (← peek (marksAt [':'])) || !named then
        mark ":"
        let _ ← g.expr true
      if (← atEnd) then return (some (), false)
      mark ","
      return (some (), true)

/-- A path expression, a macro call or a struct literal. -/
def pathOrMacroOrStruct (g : Grammar) (allowStruct : Bool) : Parse Expr := do
  let (qself, path) ← g.qpath true
  if !qself && (← peek (marksAt ['!'])) && !(← peek (marksAt ['!', '='])) && path.isModStyle then
    mark "!"
    let (d, _) ← delimited
    let braced := d == .brace
    return ⟨.invocation braced, braced, none⟩
  if allowStruct && (← peek (groupAt .brace)) then
    structBody g
    return Expr.blockOf .structLit
  return Expr.plain .path

/-- Parentheses: the unit value, a parenthesized expression or a tuple. -/
def parenOrTuple (g : Grammar) : Parse Expr :=
  inGroup .paren do
    if (← atEnd) then return Expr.plain .tuple
    let first ← g.expr true
    if (← atEnd) then return { Expr.joined .paren [first] with trailingBrace := false }
    let _ ← repeatCollect do
      if (← atEnd) then return (none, false)
      mark ","
      if (← atEnd) then return (none, false)
      return (some (← g.expr true), true)
    return Expr.plain .tuple

/-- Brackets: an array or a repeat expression `[x; n]`. -/
def arrayOrRepeat (g : Grammar) : Parse Expr :=
  inGroup .bracket do
    if (← atEnd) then return Expr.plain .array
    let _ ← g.expr true
    if (← atEnd) || (← peek (marksAt [','])) then
      let _ ← repeatCollect do
        if (← atEnd) then return (none, false)
        mark ","
        if (← atEnd) then return (none, false)
        return (some (← g.expr true), true)
      return Expr.plain .array
    else if (← peek (marksAt [';'])) then
      mark ";"
      let _ ← g.expr true
      return Expr.plain .repeatArray
    else failHere "expected `,` or `;`"

/-- An `if` with its `else if` and `else` branches. -/
def ifRule (g : Grammar) : Parse Expr := do
  let _ ← g.outerAttrs
  let _ ← repeatCollect do
    keyword "if"
    let _ ← g.expr false
    g.block
    if !(← peek (wordAt "else")) then return (some (), false)
    keyword "else"
    if (← peek (wordAt "if")) then return (some (), true)
    else if (← peek (groupAt .brace)) then
      g.block
      return (some (), false)
    else expectedOneOf [quoted "if", "curly braces"]
  return Expr.blockOf .ifElse

/-- A `while` loop. -/
def whileRule (g : Grammar) : Parse Expr := do
  let _ ← g.outerAttrs
  labelIf
  keyword "while"
  let _ ← g.expr false
  bracedBody g
  return Expr.blockOf .whileLoop

/-- A `for` loop. -/
def forRule (g : Grammar) : Parse Expr := do
  let _ ← g.outerAttrs
  labelIf
  keyword "for"
  let _ ← g.patMulti true
  keyword "in"
  let _ ← g.expr false
  bracedBody g
  return Expr.blockOf .forLoop

/-- A `loop`. -/
def loopRule (g : Grammar) : Parse Expr := do
  let _ ← g.outerAttrs
  labelIf
  keyword "loop"
  bracedBody g
  return Expr.blockOf .loopBlock

/-- A block expression, possibly labelled. -/
def blockExprRule (g : Grammar) : Parse Expr := do
  let _ ← g.outerAttrs
  labelIf
  bracedBody g
  return Expr.blockOf .block

/-- A `match` and its arms. -/
def matchRule (g : Grammar) : Parse Expr := do
  let _ ← g.outerAttrs
  keyword "match"
  let _ ← g.expr false
  let _ ← inGroup .brace do
    let _ ← g.innerAttrs
    repeatCollect do
      if (← atEnd) then return (none, false)
      let _ ← g.outerAttrs
      let _ ← g.patMulti true
      if (← peek (wordAt "if")) then keyword "if"; let _ ← g.expr true
      mark "=>"
      let body ← g.exprEarly
      if body.needsSemi && !(← atEnd) then mark ","
      else let _ ← markIf ","
      return (some (), true)
  return Expr.blockOf .matchOn

/-- An expression after `break`, `return` or `yield`, when one can start here. -/
def valueAfter (g : Grammar) (allowStruct : Bool) : Parse (Option Expr) := do
  if (← canBeginExpr) then return some (← g.expr allowStruct) else return none

/-- A `let` condition: `let pattern = expression`. -/
def letRule (g : Grammar) (allowStruct : Bool) : Parse Expr := do
  keyword "let"
  let _ ← g.patMulti true
  mark "="
  let lhs ← g.unary allowStruct
  let e ← g.binary lhs allowStruct precCompare
  return Expr.joined .letCond [e]

/-- A labelled loop or block. -/
def labelledRule (g : Grammar) : Parse Expr := do
  lifetime
  mark ":"
  let r := (← get).rest
  if wordAt "while" r then whileRule g
  else if wordAt "for" r then forRule g
  else if wordAt "loop" r then loopRule g
  else if groupAt .brace r then blockExprRule g
  else failHere "expected loop or block expression"

/-- An atom: the expression a unary operator or trailers apply to. -/
def atomRule (g : Grammar) (allowStruct : Bool) : Parse Expr := do
  let r := (← get).rest
  let second := (skipOne r).getD []
  let third := (skipOne second).getD []
  if litAt r then
    let s ← literal
    return ⟨.lit, false, s⟩
  else if wordAt "async" r && (groupAt .brace second || (wordAt "move" second && groupAt .brace third)) then
    keyword "async"
    let _ ← keywordIf "move"
    g.block
    return Expr.blockOf .asyncBlock
  else if wordAt "try" r && groupAt .brace second then
    keyword "try"
    g.block
    return Expr.blockOf .tryBlock
  else if marksAt ['|'] r || wordAt "move" r ||
      (wordAt "for" r && marksAt ['<'] second && (lifetimeAt third || marksAt ['>'] third)) ||
      (wordAt "const" r && !groupAt .brace second) || wordAt "static" r ||
      (wordAt "async" r && (marksAt ['|'] second || wordAt "move" second)) then
    closureRule g allowStruct
  else if identAt r || marksAt [':', ':'] r || marksAt ['<'] r || wordAt "self" r ||
      wordAt "Self" r || wordAt "super" r || wordAt "crate" r ||
      (wordAt "try" r && (marksAt ['!'] second || marksAt [':', ':'] second)) then
    pathOrMacroOrStruct g allowStruct
  else if groupAt .paren r then parenOrTuple g
  else if wordAt "break" r then
    keyword "break"
    let _ ← lifetimeIf
    let value ← if (← canBeginExpr) && (allowStruct || !(← peek (groupAt .brace))) then
        pure (some (← g.expr allowStruct)) else pure none
    return Expr.joined (.breakOut value.isSome) value.toList
  else if wordAt "continue" r then
    keyword "continue"
    let _ ← lifetimeIf
    return Expr.plain .continueLoop
  else if wordAt "return" r then
    keyword "return"
    let value ← valueAfter g true
    return Expr.joined (.returnOut value.isSome) value.toList
  else if wordAt "become" r then
    keyword "become"
    let e ← discarding (g.expr true)
    return Expr.joined .verbatimExpr [e]
  else if groupAt .bracket r then arrayOrRepeat g
  else if wordAt "let" r then letRule g allowStruct
  else if wordAt "if" r then ifRule g
  else if wordAt "while" r then whileRule g
  else if wordAt "for" r then forRule g
  else if wordAt "loop" r then loopRule g
  else if wordAt "match" r then matchRule g
  else if wordAt "yield" r then
    keyword "yield"
    let value ← valueAfter g true
    return Expr.joined (.yieldOut value.isSome) value.toList
  else if wordAt "unsafe" r then
    keyword "unsafe"
    bracedBody g
    return Expr.blockOf .unsafeBlock
  else if wordAt "const" r then
    keyword "const"
    bracedBody g
    return Expr.blockOf .constBlock
  else if groupAt .brace r then blockExprRule g
  else if marksAt ['.', '.'] r then
    let closed ← rangeLimits
    let finish ← rangeEnd g closed allowStruct
    if closed && finish.isNone then failHere "expected range upper bound"
    return Expr.joined (.range false finish.isSome) finish.toList
  else if wordAt "_" r then
    let _ ← identAny
    return Expr.plain .infer
  else if lifetimeAt r then labelledRule g
  else failHere "expected an expression"

/-- The trailers of an expression: calls, method calls, fields, indexing, `?` and `.await`. -/
def trailers (g : Grammar) (atom : Expr) : Parse Expr := do
  let mut e := atom
  for _ in [0:(← stepBound)] do
    let r := (← get).rest
    if groupAt .paren r then
      let _ ← inGroup .paren (terminated (g.expr true) ",")
      e := Expr.plain .call
    else if marksAt ['.'] r && !marksAt ['.', '.'] r && !e.isRange then
      mark "."
      if (← peek floatLitAt) then
        -- `t.0.1` is one float token: each part is a tuple index of its own
        let repr := match (← get).rest with
          | .literal r :: _ => r
          | _ => ""
        dropTree
        let trailingDot := repr.endsWith "."
        let parts := (if trailingDot then String.ofList (repr.toList.dropLast) else repr).splitOn "."
        for (part, i) in parts.zipIdx do
          match indexValue part with
          | .error m => fail m
          | .ok v =>
            echoTree (.literal (toString v))
            e := Expr.plain .field
            if i + 1 < parts.length || trailingDot then echoTree (.punct '.' false)
        if !trailingDot then continue
      if (← keywordIf "await") then
        e := Expr.plain .await
        continue
      let named ← if (← peek identAt) then let _ ← ident; pure true
        else if (← peek intLitAt) then tupleIndex; pure false
        else failHere "expected identifier or integer"
      let turbofish ← if named && (← peek (marksAt [':', ':'])) then
          mark "::"
          let _ ← g.angleArgs
          pure true
        else pure false
      if named && (turbofish || (← peek (groupAt .paren))) then
        let _ ← inGroup .paren (terminated (g.expr true) ",")
        e := Expr.plain .methodCall
      else
        e := Expr.plain .field
    else if groupAt .bracket r then
      let _ ← inGroup .bracket (g.expr true)
      e := Expr.plain .index
    else if marksAt ['?'] r && !e.isRange then
      mark "?"
      e := Expr.plain .question
    else break
  return e

/-- A unary expression: `&`, `*`, `!`, `-`, or an atom and its trailers. -/
def unaryRule (g : Grammar) (allowStruct : Bool) : Parse Expr := do
  let attrs ← g.outerAttrs
  let r := (← get).rest
  if marksAt ['&'] r then
    mark "&"
    let raw := wordAt "raw" (← get).rest &&
      (wordAt "mut" ((skipOne (← get).rest).getD []) || wordAt "const" ((skipOne (← get).rest).getD []))
    if raw then keyword "raw"
    let m ← keywordIf "mut"
    if raw && !m then keyword "const"
    let e ← g.unary allowStruct
    return Expr.joined .reference [e]
  else if marksAt ['*'] r || marksAt ['!'] r || marksAt ['-'] r then
    let neg := marksAt ['-'] r
    mark (if neg then "-" else if marksAt ['*'] r then "*" else "!")
    let e ← g.unary allowStruct
    return Expr.joined (.unary neg) [e]
  else
    let atom ← atomRule g allowStruct
    let e ← trailers g atom
    if !attrs.isEmpty && e.isRange then
      fail "attributes are not allowed on range expressions starting with `..`"
    return e

/-- An expression: a unary expression and the binary operators after it. -/
def exprRule (g : Grammar) (allowStruct : Bool) : Parse Expr := do
  let lhs ← g.unary allowStruct
  g.binary lhs allowStruct precJump

/-- An expression statement's expression: a block-like one ends at its brace. -/
def exprEarlyRule (g : Grammar) : Parse Expr := do
  let attrs ← g.outerAttrs
  let r := (← get).rest
  let second := (skipOne r).getD []
  let third := (skipOne second).getD []
  let e ←
    if wordAt "if" r then ifRule g
    else if wordAt "while" r then whileRule g
    else if wordAt "for" r && !(marksAt ['<'] second && (lifetimeAt third || marksAt ['>'] third)) then forRule g
    else if wordAt "loop" r then loopRule g
    else if wordAt "match" r then matchRule g
    else if wordAt "try" r && groupAt .brace second then
      keyword "try"; g.block; pure (Expr.blockOf .tryBlock)
    else if wordAt "unsafe" r then
      keyword "unsafe"; bracedBody g; pure (Expr.blockOf .unsafeBlock)
    else if wordAt "const" r && groupAt .brace second then
      keyword "const"; bracedBody g; pure (Expr.blockOf .constBlock)
    else if groupAt .brace r then blockExprRule g
    else if lifetimeAt r then labelledRule g
    else g.unary true
  let _ := attrs
  if !e.endsEarly then return ← g.binary e true precJump
  let r := (← get).rest
  if (marksAt ['.'] r && !marksAt ['.', '.'] r) || marksAt ['?'] r then
    let e ← trailers g e
    return ← g.binary e true precJump
  return e

/-! ### Statements -/

/-- A `let` statement. -/
def localRule (g : Grammar) : Parse Unit := do
  keyword "let"
  let _ ← g.pat
  if (← peek (marksAt [':'])) then mark ":"; let _ ← g.ty true
  if (← markIf "=") then
    let init ← g.expr true
    if !init.trailingBrace && (← peek (wordAt "else")) then
      keyword "else"
      g.block
  mark ";"

/-- Whether an item starts here, as a statement (by its first words). -/
def itemStartsAt (r : List TokenTree) : Bool :=
  let second := (skipOne r).getD []
  let third := (skipOne second).getD []
  let w (s : String) := wordAt s r
  let w2 (s : String) := wordAt s second
  let w3 (s : String) := wordAt s third
  w "pub" || (w "crate" && !marksAt [':', ':'] second) || w "extern" || w "use" ||
  (w "static" && (w2 "mut" || (identAt second && !(w2 "async" && (w3 "move" || marksAt ['|'] third))))) ||
  (w "const" && !(groupAt .brace second || w2 "static" ||
    (w2 "async" && !(w3 "unsafe" || w3 "extern" || w3 "fn")) || w2 "move" || marksAt ['|'] second)) ||
  (w "unsafe" && !groupAt .brace second) ||
  (w "async" && (w2 "unsafe" || w2 "extern" || w2 "fn")) ||
  w "fn" || w "mod" || w "type" || w "struct" || w "enum" || (w "union" && identAt second) ||
  (w "auto" && w2 "trait") || w "trait" || (w "default" && (w2 "unsafe" || w2 "impl")) ||
  w "impl" || w "macro"

/-- The path at the head in module style, and the trees after it, when there is one. -/
def modPathAt (r : List TokenTree) : Option (List TokenTree) :=
  let r := if marksAt [':', ':'] r then r.drop 2 else r
  let rec go : Nat → List TokenTree → Option (List TokenTree)
    | 0, _ => none
    | n + 1, ts =>
      let segmentHere := identAt ts || wordAt "super" ts || wordAt "self" ts || wordAt "Self" ts ||
        wordAt "crate" ts
      if !segmentHere then none
      else
        let after := ts.drop 1
        if marksAt [':', ':'] after then go n (after.drop 2) else some after
  go (r.length + 1) r

/-- One statement; an item is declared with the items inside it. Whether it must be followed by
`;` before another statement. -/
def stmtRule (g : Grammar) : Parse Bool := do
  let (attrs, inAttrs) ← collecting g.outerAttrs
  let r := (← get).rest
  -- A macro call in braces, or a macro item `name! ident`, is a statement of its own.
  let mut itemMacro := false
  match modPathAt r with
  | some after =>
    if marksAt ['!'] after then
      let second := (skipOne after).getD []
      let third := (skipOne second).getD []
      if identAt second || wordAt "try" second then itemMacro := true
      else if groupAt .brace second && !((marksAt ['.'] third && !marksAt ['.', '.'] third) || marksAt ['?'] third) then
        inAttrs.forM declare
        let _ ← g.path false
        mark "!"
        let _ ← delimited
        let _ ← markIf ";"
        return false
  | none => pure ()
  let r := (← get).rest
  if wordAt "let" r then inAttrs.forM declare; localRule g; return false
  if itemStartsAt r || itemMacro then
    let (item, inside) ← collecting (g.itemRest attrs)
    declare (item.withNested (inAttrs ++ inside))
    return false
  inAttrs.forM declare
  let e ← exprEarlyRule g
  let semi ← markIf ";"
  match e.kind with
  | .invocation braced => if semi || braced then return false
  | _ => pure ()
  if semi then return false
  return e.needsSemi

/-- The statements of a block body. -/
def stmtsRule (g : Grammar) : Parse Unit := do
  let _ ← repeatCollect do
    let _ ← repeatCollect do
      if (← markIf ";") then return (some (), true) else return (none, false)
    if (← atEnd) then return (none, false)
    let needsSemi ← stmtRule g
    if (← atEnd) then return (some (), false)
    if needsSemi then failHere "unexpected token, expected `;`"
    return (some (), true)

/-- A block in braces. -/
def blockRule (g : Grammar) : Parse Unit := inGroup .brace g.stmts

end Rust

end ApiSpec
