import ApiSpec.Rust.Parse.Pat

/-!
# Items and attributes

An item is chosen by the words after its visibility: a function signature, `extern`, `use`,
`static`, `const`, `unsafe`, `mod`, `type`, `struct`, `enum`, `union`, `trait`, `auto trait`,
`impl`, `macro`, or (without a visibility) a macro call `path!(...)`. When none applies the
message lists them in that order.

* An attribute is `#[meta]` (outer) or `#![meta]` (inner). A meta is a path (`unsafe` is
  allowed as the whole path), then a delimited list kept as tokens, or `= value`: a lone
  literal, or an expression printed.
* A struct has named fields, tuple fields followed by `;`, or none (`;`); a `where` clause may
  stand before the fields (and after tuple fields).
* An `impl` block keeps its functions that have bodies; one with a visibility, a `const`
  marker, or `for` after something that is not a path is kept as nothing.
* Inner attributes of an `impl` block's body and of a function body are added to the outer
  ones.
-/

namespace ApiSpec

namespace Rust

/-! ### Attributes -/

/-- The printed text of an expression, with ` :: ` closed up to `::`. -/
def exprText (echo : List TokenTree) : String := (renderStream echo).replace " :: " "::"

/-- The value of `name = value`, or of an argument: a string's value, or the printed text. -/
def Expr.metaValue (e : Expr) (echo : List TokenTree) : MetaValue :=
  match e.str with
  | some v => .str v
  | none =>
    match e.kind with
    | .lit => .text (renderStream echo)
    | .unary true => .text ("-" ++ exprText (echo.drop 1))
    | _ => .text (exprText echo)

/-- A path in module style (no arguments): whether it has a leading `::`, and its words. -/
def modStylePath : Parse (Bool × List String) := do
  let leading ← markIf "::"
  let segs ← go (← stepBound) []
  return (leading, segs)
where
  /-- The segments, last first in `acc`. -/
  go : Nat → List String → Parse (List String)
    | 0, acc => return acc.reverse
    | n + 1, acc => do
      let r := (← get).rest
      let here := identAt r || wordAt "super" r || wordAt "self" r || wordAt "Self" r || wordAt "crate" r
      if !here then
        if acc.isEmpty then
          let _ ← ident
          return []
        else failHere "expected path segment after `::`"
      let s ← identAny
      if (← peek (marksAt [':', ':'])) then
        mark "::"
        go n (s :: acc)
      else return (s :: acc).reverse

/-- A meta: a path, then a list or `= value`. -/
def metaRule (g : Grammar) : Parse Attribute := do
  let (leading, path) ←
    if (← peek (wordAt "unsafe")) then keyword "unsafe"; pure (false, ["unsafe"]) else modStylePath
  let r := (← get).rest
  if groupAt .paren r || groupAt .bracket r || groupAt .brace r then
    let (_, body) ← delimited
    return ⟨leading, path, .list body⟩
  if marksAt ['='] r then
    mark "="
    let r := (← get).rest
    let litLength := if marksAt ['-'] r then 2 else 1
    if litAt r && (r.drop litLength).isEmpty then
      let (s, echo) ← captured literal
      return ⟨leading, path, .nameValue (match s with
        | some v => .str v
        | none => .text (renderStream echo))⟩
    if marksAt ['#'] r && groupAt .bracket ((skipOne r).getD []) then
      failHere "unexpected attribute inside of attribute"
    let (e, echo) ← captured (g.expr true)
    return ⟨leading, path, .nameValue (e.metaValue echo)⟩
  return ⟨leading, path, .path⟩

/-- Outer attributes `#[...]`. -/
def outerAttrsRule (g : Grammar) : Parse (List Attribute) :=
  repeatCollect do
    if !(← peek (marksAt ['#'])) then return (none, false)
    mark "#"
    return (some (← inGroup .bracket (metaRule g)), true)

/-- Inner attributes `#![...]`. -/
def innerAttrsRule (g : Grammar) : Parse (List Attribute) :=
  repeatCollect do
    if !((← peek (marksAt ['#'])) && (← peek2 (marksAt ['!']))) then return (none, false)
    mark "#"
    mark "!"
    return (some (← inGroup .bracket (metaRule g)), true)

/-! ### Visibility and generics -/

/-- A visibility: whether it is inherited (nothing written). -/
def visibility : Parse Bool := do
  if !(← peek (wordAt "pub")) then return true
  keyword "pub"
  match (← get).rest with
  | .group .paren body :: _ =>
    if (wordAt "crate" body || wordAt "self" body || wordAt "super" body) && body.length == 1 then
      inGroup .paren (do let _ ← identAny)
    else if wordAt "in" body then
      let kept := (← get).unexpected
      inGroup .paren (do keyword "in"; let _ ← modStylePath)
      modify fun s => { s with unexpected := kept }
  | _ => pure ()
  return false

/-- Bounds of a type parameter or `where` predicate, stopping before what `stop` accepts. -/
def boundList (g : Grammar) (stop : Parse Bool) : Parse Unit := do
  let _ ← repeatCollect do
    if (← stop) then return (none, false)
    let _ ← g.bound
    if !(← peek (marksAt ['+'])) then return (some (), false)
    mark "+"
    return (some (), true)

/-- Lifetime bounds, stopping before what `stop` accepts. -/
def lifetimeList (stop : Parse Bool) : Parse Unit := do
  let _ ← repeatCollect do
    if (← stop) then return (none, false)
    lifetime
    if !(← peek (marksAt ['+'])) then return (some (), false)
    mark "+"
    return (some (), true)

/-- Generic parameters in `<...>`, if present: the names of the type parameters. -/
def genericsRule (g : Grammar) : Parse (List String) := do
  if !(← peek (marksAt ['<'])) then return []
  mark "<"
  let names ← repeatCollect do
    if (← peek (marksAt ['>'])) then return (none, false)
    let _ ← g.outerAttrs
    let r := (← get).rest
    let name ←
      if lifetimeAt r then
        lifetime
        if (← markIf ":") then
          lifetimeList (return (← peek (marksAt [','])) || (← peek (marksAt ['>'])))
        pure none
      else if identAt r then
        let n ← ident
        if (← markIf ":") then
          boundList g (return (← peek (marksAt [','])) || (← peek (marksAt ['>'])) || (← peek (marksAt ['='])))
        if (← markIf "=") then let _ ← g.ty true
        pure (some n)
      else if wordAt "const" r then
        keyword "const"
        let _ ← ident
        mark ":"
        let _ ← g.ty true
        if (← markIf "=") then constArgument g
        pure none
      else if wordAt "_" r then pure (some (← identAny))
      else expectedOneOf ["lifetime", "identifier", quoted "const"]
    if (← peek (marksAt ['>'])) then return (some name, false)
    mark ","
    return (some name, true)
  mark ">"
  return names.filterMap id

/-- A `where` clause, if present. -/
def whereClauseRule (g : Grammar) : Parse Unit := do
  if !(← keywordIf "where") then return
  let stopAt (colonPath : Bool) : Parse Bool := do
    let r := (← get).rest
    return r.isEmpty || groupAt .brace r || marksAt [','] r || marksAt [';'] r ||
      (marksAt [':'] r && (colonPath || !marksAt [':', ':'] r)) || marksAt ['='] r
  let _ ← repeatCollect do
    if (← stopAt false) then return (none, false)
    if (← peek lifetimeAt) && (← peek2 (marksAt [':'])) then
      lifetime
      mark ":"
      lifetimeList (stopAt true)
    else
      if (← peek (wordAt "for")) then boundLifetimes g
      let _ ← g.ty true
      mark ":"
      boundList g (stopAt false)
    if !(← peek (marksAt [','])) then return (some (), false)
    mark ","
    return (some (), true)

/-! ### Functions -/

/-- Whether a function signature starts here: `const`, `async`, `unsafe`, an ABI, then `fn`. -/
def signatureAt (ts : List TokenTree) : Bool :=
  let ts := if wordAt "const" ts then ts.drop 1 else ts
  let ts := if wordAt "async" ts then ts.drop 1 else ts
  let ts := if wordAt "unsafe" ts then ts.drop 1 else ts
  let ts := if wordAt "extern" ts then (let t := ts.drop 1; if strAt t then t.drop 1 else t) else ts
  wordAt "fn" ts

/-- `extern` and an optional ABI string. -/
def abiRule : Parse Unit := do
  keyword "extern"
  if (← peek strAt) then let _ ← literal

/-- A method receiver: `self`, `&self`, `&'a mut self`, `self: Type`. -/
def receiverRule (g : Grammar) : Parse Unit := do
  let byRef ← markIf "&"
  if byRef then let _ ← lifetimeIf
  let _ ← keywordIf "mut"
  keyword "self"
  if !byRef && (← markIf ":") then let _ ← g.ty true

/-- The inputs of a function, inside its parentheses. -/
def fnInputs (g : Grammar) : Parse (List FnInput) := do
  let (inputs, _) ← go (← stepBound) [] false
  return inputs
where
  /-- The inputs, last first in `acc`; `receiver` when one was read. -/
  go : Nat → List FnInput → Bool → Parse (List FnInput × Bool)
    | 0, acc, r => return (acc.reverse, r)
    | n + 1, acc, hasReceiver => do
      if (← atEnd) then return (acc.reverse, hasReceiver)
      let attrs ← g.outerAttrs
      if (← markIf "...") then
        if !(← atEnd) then mark ","
        return (acc.reverse, hasReceiver)
      let input? ← do
        if (← attempt (receiverRule g)).isSome then pure (some FnInput.receiver)
        else if (← peek identAt) && (← peek2 (marksAt ['<'])) then
          pure (some (FnInput.typed attrs .other (← g.ty true)))
        else
          let p ← g.pat
          mark ":"
          if (← markIf "...") then
            if !(← atEnd) then mark ","
            pure none
          else pure (some (FnInput.typed attrs p (← g.ty true)))
      match input? with
      | none => return (acc.reverse, hasReceiver)
      | some input =>
        let nowReceiver ← match input with
          | .receiver =>
            if hasReceiver then fail "unexpected second method receiver"
            else if !acc.isEmpty then fail "unexpected method receiver"
            else pure true
          | _ => pure hasReceiver
        if (← atEnd) then return ((input :: acc).reverse, nowReceiver)
        mark ","
        go n (input :: acc) nowReceiver

/-- A function signature: its name, inputs and output. -/
def signatureRule (g : Grammar) : Parse (String × List FnInput × Option Ty) := do
  let _ ← keywordIf "const"
  let _ ← keywordIf "async"
  let _ ← keywordIf "unsafe"
  if (← peek (wordAt "extern")) then abiRule
  keyword "fn"
  let name ← ident
  let _ ← g.generics
  let inputs ← inGroup .paren (fnInputs g)
  let output ← g.returnType true
  g.whereClause
  return (name, inputs, output)

/-- A function body: its inner attributes. -/
def fnBody (g : Grammar) : Parse (List Attribute) :=
  inGroup .brace do
    let inner ← g.innerAttrs
    g.stmts
    return inner

/-! ### Fields, structs and enums -/

/-- Named fields in braces; an unnamed field `_: struct { ... }` nests up to `depth` levels. -/
def namedFieldsWithin (g : Grammar) : Nat → Parse (List Field)
  | 0 => fail "recursion limit"
  | depth + 1 =>
    inGroup .brace <| terminated (do
      let attrs ← g.outerAttrs
      let _ ← visibility
      let unnamed ← peek (wordAt "_")
      let name ← if unnamed then identAny else ident
      mark ":"
      let ty ←
        if unnamed && ((← peek (wordAt "struct")) ||
            ((← peek (wordAt "union")) && (← peek2 (groupAt .brace)))) then
          let _ ← identAny
          let _ ← namedFieldsWithin g depth
          pure (Ty.other "")
        else g.ty true
      return ({ attrs, name := some name, ty } : Field)) ","

/-- Named fields in braces. -/
def namedFields (g : Grammar) : Parse (List Field) := namedFieldsWithin g 16

/-- Tuple fields in parentheses. -/
def tupleFields (g : Grammar) : Parse (List Field) :=
  inGroup .paren <| terminated (do
    let attrs ← g.outerAttrs
    let _ ← visibility
    return ({ attrs, name := none, ty := ← g.ty true } : Field)) ","

/-- The fields of a struct after its generics, with `where` clauses and `;`. -/
def structData (g : Grammar) : Parse Fields := do
  let hasWhere ← peek (wordAt "where")
  if hasWhere then g.whereClause
  let r := (← get).rest
  if !hasWhere && groupAt .paren r then
    let fields ← tupleFields g
    let laterWhere ← peek (wordAt "where")
    if laterWhere then g.whereClause
    if (← markIf ";") then return .unnamed fields
    expectedOneOf (if laterWhere then [quoted ";"] else [quoted "where", quoted ";"])
  else if groupAt .brace r then return .named (← namedFields g)
  else if marksAt [';'] r then mark ";"; return .unit
  else expectedOneOf (if hasWhere then ["curly braces", quoted ";"]
    else [quoted "where", "parentheses", "curly braces", quoted ";"])

/-- A struct after its outer attributes. -/
def structRule (g : Grammar) (attrs : List Attribute) : Parse Item := do
  let _ ← g.outerAttrs
  let _ ← visibility
  keyword "struct"
  let name ← ident
  let params ← g.generics
  let fields ← structData g
  return .struct attrs name params fields []

/-- An enum after its outer attributes. -/
def enumRule (g : Grammar) (attrs : List Attribute) : Parse Item := do
  let _ ← g.outerAttrs
  let _ ← visibility
  keyword "enum"
  let name ← ident
  let _ ← g.generics
  g.whereClause
  let variants ← inGroup .brace <| terminated (do
    let vattrs ← g.outerAttrs
    let _ ← visibility
    let vname ← ident
    let r := (← get).rest
    let fields ←
      if groupAt .brace r then pure (Fields.named (← namedFields g))
      else if groupAt .paren r then pure (Fields.unnamed (← tupleFields g))
      else pure Fields.unit
    if (← markIf "=") then let _ ← g.expr true
    return (⟨vattrs, vname, fields⟩ : Variant)) ","
  return .enum attrs name variants []

/-- A union after its outer attributes. -/
def unionRule (g : Grammar) : Parse Item := do
  let _ ← g.outerAttrs
  let _ ← visibility
  keyword "union"
  let _ ← ident
  let _ ← g.generics
  g.whereClause
  let _ ← namedFields g
  return .other []

/-! ### Items with bodies -/

/-- An item with its outer attributes, declared with the items declared inside it. -/
def itemDecl (g : Grammar) : Parse Unit := do
  let (item, inside) ← collecting (do let attrs ← g.outerAttrs; g.itemRest attrs)
  declare (item.withNested inside)

/-- Items up to the end of a group body, each declared. -/
def itemList (g : Grammar) : Parse Unit := do
  let _ ← repeatCollect do
    if (← atEnd) then return (none, false)
    itemDecl g
    return (some (), true)

/-- A module after its outer attributes. -/
def modRule (g : Grammar) : Parse Item := do
  let _ ← g.outerAttrs
  let _ ← visibility
  let _ ← keywordIf "unsafe"
  keyword "mod"
  let _ ← if (← peek (wordAt "try")) then identAny else ident
  if (← markIf ";") then return .other []
  if (← peek (groupAt .brace)) then
    inGroup .brace (do let _ ← g.innerAttrs; itemList g)
    return .other []
  expectedOneOf [quoted ";", "curly braces"]

/-- A type alias or associated type: `type Name<..>: Bounds where .. = Type where ..;`.
Whether it is a plain alias: a type after `=` and no bounds. -/
def typeItemRest (g : Grammar) (whereBefore whereAfter : Bool) : Parse Bool := do
  keyword "type"
  let _ ← ident
  let _ ← g.generics
  let bounded ← markIf ":"
  if bounded then
    let stop : Parse Bool := do
      return (← peek (wordAt "where")) || (← peek (marksAt ['='])) || (← peek (marksAt [';']))
    let _ ← repeatCollect do
      if (← stop) then return (none, false)
      let _ ← g.bound
      if (← stop) then return (some (), false)
      mark "+"
      return (some (), true)
  let before ← if whereBefore && (← peek (wordAt "where")) then g.whereClause; pure true else pure false
  let aliased ← markIf "="
  if aliased then let _ ← g.ty true
  if whereAfter && !before then g.whereClause
  mark ";"
  return aliased && !bounded

/-- A macro call as an item: `path! name? (...)`, with `;` unless in braces. -/
def macroItemRule (g : Grammar) : Parse Item := do
  let _ ← g.outerAttrs
  let _ ← modStylePath
  mark "!"
  if (← peek (wordAt "try")) then let _ ← identAny
  else if (← peek identAt) then let _ ← ident
  let (d, _) ← delimited
  if d != .brace then mark ";"
  return .other []

/-- A function of a trait, with or without a body. -/
def traitFn (g : Grammar) : Parse Unit := do
  let _ ← g.outerAttrs
  let _ ← signatureRule g
  if (← peek (groupAt .brace)) then let _ ← fnBody g; return
  if (← markIf ";") then return
  expectedOneOf ["curly braces", quoted ";"]

/-- An item of a trait: whether it is kept as text only (one with a visibility or `default`,
or a constant with generics or a `where` clause), so that what is declared inside it is
dropped. -/
def traitItem (g : Grammar) : Parse Bool := do
  let _ ← g.outerAttrs
  let inherited ← visibility
  let defaulted ← keywordIf "default"
  let marked := !inherited || defaulted
  let r := (← get).rest
  if wordAt "fn" r || signatureAt r then traitFn g; return marked
  else if wordAt "const" r then
    let after := (skipOne r).getD []
    if identAt after || wordAt "_" after then
      keyword "const"
      let _ ← identAny
      let generic ← peek (marksAt ['<'])
      let _ ← g.generics
      mark ":"
      let _ ← g.ty true
      if (← markIf "=") then let _ ← g.expr true
      let bounded ← peek (wordAt "where")
      g.whereClause
      mark ";"
      return marked || generic || bounded
    else if wordAt "async" after || wordAt "unsafe" after || wordAt "extern" after || wordAt "fn" after then
      traitFn g
      return marked
    else
      keyword "const"
      expectedOneOf ["identifier", quoted "_", quoted "async", quoted "unsafe", quoted "extern",
        quoted "fn"]
  else if wordAt "type" r then let _ ← typeItemRest g false true; return marked
  else if inherited && !defaulted && (identAt r || wordAt "self" r || wordAt "super" r ||
      wordAt "crate" r || marksAt [':', ':'] r) then
    let _ ← macroItemRule g
    return false
  else expectedOneOf ([quoted "fn", quoted "const", quoted "type"] ++
    (if inherited && !defaulted then
      ["identifier", quoted "self", quoted "super", quoted "crate", quoted "::"] else []))

/-- The rest of a trait after its generics: supertraits, `where`, and its items. -/
def traitBody (g : Grammar) : Parse Item := do
  if (← markIf ":") then
    let stop : Parse Bool := do return (← peek (wordAt "where")) || (← peek (groupAt .brace))
    let _ ← repeatCollect do
      if (← stop) then return (none, false)
      let _ ← g.bound
      if (← stop) then return (some (), false)
      mark "+"
      return (some (), true)
  g.whereClause
  let _ ← inGroup .brace do
    let _ ← g.innerAttrs
    repeatCollect do
      if (← atEnd) then return (none, false)
      let (verbatim, inside) ← collecting (traitItem g)
      if !verbatim then inside.forM declare
      return (some (), true)
  return .other []

/-- A trait (or trait alias) after its outer attributes. -/
def traitRule (g : Grammar) : Parse Item := do
  let _ ← g.outerAttrs
  let _ ← visibility
  let marked := (← peek (wordAt "unsafe")) || (← peek (wordAt "auto"))
  let _ ← keywordIf "unsafe"
  let _ ← keywordIf "auto"
  keyword "trait"
  let _ ← ident
  let _ ← g.generics
  if marked then return ← traitBody g
  let r := (← get).rest
  if groupAt .brace r || marksAt [':'] r || wordAt "where" r then traitBody g
  else if marksAt ['='] r then
    mark "="
    let stop : Parse Bool := do return (← peek (wordAt "where")) || (← peek (marksAt [';']))
    let _ ← repeatCollect do
      if (← stop) then return (none, false)
      let _ ← g.bound
      if (← stop) then return (some (), false)
      mark "+"
      return (some (), true)
    g.whereClause
    mark ";"
    return .other []
  else expectedOneOf ["curly braces", quoted ":", quoted "where", quoted "="]

/-- An item of an `impl` block: the function, when it is one with a body. -/
def implItem (g : Grammar) : Parse (Option ImplFn) := do
  let attrs ← g.outerAttrs
  let (inherited, ahead) ← match ← lookAhead (do let v ← visibility; return (v, (← get).rest)) with
    | .ok v => pure v
    | .error e => fail e
  let defaulted := wordAt "default" ahead && !marksAt ['!'] ((skipOne ahead).getD [])
  let ahead := if defaulted then ahead.drop 1 else ahead
  if wordAt "fn" ahead || signatureAt ahead then
    let _ ← g.outerAttrs
    let _ ← visibility
    let _ ← keywordIf "default"
    let (name, inputs, output) ← signatureRule g
    if (← markIf ";") then return none
    let inner ← fnBody g
    return some ⟨attrs ++ inner, name, inputs, output⟩
  else if wordAt "const" ahead then
    let _ ← visibility
    let _ ← keywordIf "default"
    keyword "const"
    if (← peek identAt) || (← peek (wordAt "_")) then let _ ← identAny
    else expectedOneOf ["identifier", quoted "_"]
    let _ ← g.generics
    mark ":"
    let _ ← g.ty true
    if (← markIf "=") then let _ ← g.expr true
    g.whereClause
    mark ";"
    return none
  else if wordAt "type" ahead then
    let _ ← visibility
    let _ ← keywordIf "default"
    let _ ← typeItemRest g false true
    return none
  else if inherited && !defaulted && (identAt ahead || wordAt "self" ahead || wordAt "super" ahead ||
      wordAt "crate" ahead || marksAt [':', ':'] ahead) then
    let _ ← macroItemRule g
    return none
  else
    let r := (← get).rest
    let before := if defaulted || !(wordAt "default" ((if inherited then r else (skipOne r).getD []))) then
      (if defaulted then [] else [quoted "default"]) else []
    expectedOneOf (before ++ [quoted "fn", quoted "const", quoted "type"] ++
      (if inherited && !defaulted then
        ["identifier", quoted "self", quoted "super", quoted "crate", quoted "::"] else []))

/-- Whether generic parameters follow `impl` (and not a type starting with `<`). -/
def implGenericsAt (r : List TokenTree) : Bool :=
  let second := (skipOne r).getD []
  let third := (skipOne second).getD []
  marksAt ['<'] r &&
    (marksAt ['>'] second || marksAt ['#'] second ||
      ((identAt second || lifetimeAt second) &&
        (marksAt [':'] third || marksAt [','] third || marksAt ['>'] third || marksAt ['='] third)) ||
      wordAt "const" second)

/-- An `impl` block after its outer attributes. -/
def implRule (g : Grammar) (attrs : List Attribute) : Parse Item := do
  let _ ← g.outerAttrs
  let visible := !(← visibility)
  let _ ← keywordIf "default"
  let _ ← keywordIf "unsafe"
  keyword "impl"
  if implGenericsAt (← get).rest then let _ ← g.generics
  let constImpl := (← peek (wordAt "const")) || ((← peek (marksAt ['?'])) && (← peek2 (wordAt "const")))
  if constImpl then
    let _ ← markIf "?"
    keyword "const"
  let negative := (← peek (marksAt ['!'])) && !(← peek2 (groupAt .brace))
  if negative then mark "!"
  let first ← g.ty true
  let forTrait ← keywordIf "for"
  let (selfTy, traitOk) ←
    if forTrait then
      let ok := match first with
        | .path false _ => true
        | _ => false
      pure (← g.ty true, ok)
    else pure (if negative then Ty.other "" else first, false)
  g.whereClause
  let (inner, fns) ← inGroup .brace do
    let inner ← g.innerAttrs
    let fns ← repeatCollect do
      if (← atEnd) then return (none, false)
      return (← implItem g, true)
    return (inner, fns)
  if visible || constImpl || (forTrait && !traitOk) then return .verbatim
  return .impl (attrs ++ inner) forTrait selfTy fns

/-! ### Other items -/

/-- A use tree. -/
def useTree (g : Grammar) : Nat → Parse Unit
  | 0 => fail "recursion limit"
  | n + 1 => do
    let r := (← get).rest
    if identAt r || wordAt "self" r || wordAt "super" r || wordAt "crate" r || wordAt "try" r then
      let _ ← identAny
      if (← peek (marksAt [':', ':'])) then
        mark "::"
        useTree g n
      else if (← keywordIf "as") then
        if (← peek identAt) then let _ ← ident
        else if (← peek (wordAt "_")) then let _ ← identAny
        else failHere "expected identifier or underscore"
    else if marksAt ['*'] r then mark "*"
    else if groupAt .brace r then
      inGroup .brace do
        let _ ← repeatCollect do
          if (← atEnd) then return (none, false)
          let _ ← markIf "::"
          useTree g n
          if (← atEnd) then return (some (), false)
          mark ","
          return (some (), true)
    else expectedOneOf ["identifier", quoted "self", quoted "super", quoted "crate", quoted "try",
      quoted "*", "curly braces"]

/-- A `use` item after its outer attributes. -/
def useRule (g : Grammar) : Parse Item := do
  let _ ← g.outerAttrs
  let _ ← visibility
  keyword "use"
  let _ ← markIf "::"
  useTree g ((← get).rest.length + 2)
  mark ";"
  return .other []

/-- An item of an `extern` block: whether it is kept as text only (a function with a body or
marked `safe`, a static with a value or marked `safe` or `unsafe`), so that what is declared
inside it is dropped. -/
def foreignItemRule (g : Grammar) : Parse Bool := do
  let _ ← g.outerAttrs
  let (inherited, ahead) ← match ← lookAhead (do let v ← visibility; return (v, (← get).rest)) with
    | .ok v => pure v
    | .error e => fail e
  let safeAt (ts : List TokenTree) := wordAt "safe" ts
  let afterSafe := if safeAt ahead then ahead.drop 1 else ahead
  if wordAt "fn" ahead || signatureAt afterSafe then
    let _ ← visibility
    let _ ← keywordIf "const"
    let _ ← keywordIf "async"
    let safe ← if (← keywordIf "unsafe") then pure false else keywordIf "safe"
    if (← peek (wordAt "extern")) then abiRule
    keyword "fn"
    let _ ← ident
    let _ ← g.generics
    let _ ← inGroup .paren (fnInputs g)
    let _ ← g.returnType true
    g.whereClause
    if (← peek (groupAt .brace)) then let _ ← fnBody g; return true
    mark ";"
    return safe
  else if wordAt "static" ahead || ((wordAt "unsafe" ahead || safeAt ahead) &&
      wordAt "static" ((skipOne ahead).getD [])) then
    let _ ← visibility
    let marked ← if (← keywordIf "unsafe") then pure true else keywordIf "safe"
    keyword "static"
    let _ ← keywordIf "mut"
    let _ ← ident
    mark ":"
    let _ ← g.ty true
    let valued ← markIf "="
    if valued then let _ ← g.expr true
    mark ";"
    return valued || marked
  else if wordAt "type" ahead then
    let _ ← visibility
    let _ ← typeItemRest g true true
    return false
  else if inherited && (identAt ahead || wordAt "self" ahead || wordAt "super" ahead ||
      wordAt "crate" ahead || marksAt [':', ':'] ahead) then
    let _ ← macroItemRule g
    return false
  else expectedOneOf ([quoted "fn", quoted "static", quoted "type"] ++
    (if inherited then ["identifier", quoted "self", quoted "super", quoted "crate", quoted "::"] else []))

/-- An `extern` block after its outer attributes. -/
def foreignModRule (g : Grammar) : Parse Item := do
  let _ ← g.outerAttrs
  let _ ← keywordIf "unsafe"
  abiRule
  let _ ← inGroup .brace do
    let _ ← g.innerAttrs
    repeatCollect do
      if (← atEnd) then return (none, false)
      let (verbatim, inside) ← collecting (foreignItemRule g)
      if !verbatim then inside.forM declare
      return (some (), true)
  return .other []

/-- An `extern crate` item after its outer attributes. -/
def externCrateRule (g : Grammar) : Parse Item := do
  let _ ← g.outerAttrs
  let _ ← visibility
  keyword "extern"
  keyword "crate"
  let _ ← if (← peek (wordAt "self")) then identAny else ident
  if (← keywordIf "as") then
    let _ ← if (← peek (wordAt "_")) then identAny else ident
  mark ";"
  return .other []

/-- The words an item is looked for among, in order, before the macro call forms. -/
def itemStarts : List String :=
  [quoted "fn", quoted "extern", quoted "use", quoted "static", quoted "const", quoted "unsafe",
   quoted "mod", quoted "type", quoted "struct", quoted "enum", quoted "union", quoted "trait",
   quoted "auto", quoted "impl", quoted "default", quoted "macro"]

/-- The rest of an item after its outer attributes. -/
def itemRestRule (g : Grammar) (attrs : List Attribute) : Parse Item := do
  let (inherited, ahead) ← match ← lookAhead (do let v ← visibility; return (v, (← get).rest)) with
    | .ok v => pure v
    | .error e => fail e
  let second := (skipOne ahead).getD []
  let w (s : String) := wordAt s ahead
  if w "fn" || signatureAt ahead then
    let _ ← visibility
    let _ ← signatureRule g
    if (← markIf ";") then return .verbatim
    let _ ← fnBody g
    return .other []
  else if w "extern" then
    if wordAt "crate" second then externCrateRule g
    else if groupAt .brace second then foreignModRule g
    else if strAt second then
      if groupAt .brace ((skipOne second).getD []) then foreignModRule g
      else
        let _ ← visibility
        keyword "extern"
        let _ ← literal
        expectedOneOf ["curly braces"]
    else
      let _ ← visibility
      keyword "extern"
      expectedOneOf [quoted "crate", "curly braces", "string literal"]
  else if w "use" then useRule g
  else if w "static" then
    let _ ← visibility
    keyword "static"
    let _ ← keywordIf "mut"
    let _ ← ident
    if (← markIf "=") then
      let _ ← g.expr true
      mark ";"
      return .verbatim
    mark ":"
    let _ ← g.ty true
    if (← markIf ";") then return .verbatim
    mark "="
    let _ ← g.expr true
    mark ";"
    return .other []
  else if w "const" then
    let _ ← visibility
    keyword "const"
    if (← peek identAt) || (← peek (wordAt "_")) then let _ ← identAny
    else expectedOneOf ["identifier", quoted "_"]
    let generic ← peek (marksAt ['<'])
    let _ ← g.generics
    mark ":"
    let _ ← g.ty true
    let valued ← markIf "="
    if valued then let _ ← g.expr true
    let bounded ← peek (wordAt "where")
    g.whereClause
    mark ";"
    return if valued && !generic && !bounded then .other [] else .verbatim
  else if w "unsafe" then
    if wordAt "trait" second || (wordAt "auto" second && wordAt "trait" ((skipOne second).getD [])) then
      traitRule g
    else if wordAt "impl" second then implRule g attrs
    else if wordAt "extern" second then foreignModRule g
    else if wordAt "mod" second then modRule g
    else
      let _ ← visibility
      keyword "unsafe"
      expectedOneOf [quoted "trait", quoted "auto", quoted "impl", quoted "extern", quoted "mod"]
  else if w "mod" then modRule g
  else if w "type" then
    let _ ← visibility
    return if (← typeItemRest g true false) then .other [] else .verbatim
  else if w "struct" then structRule g attrs
  else if w "enum" then enumRule g attrs
  else if w "union" && identAt second then unionRule g
  else if w "trait" then traitRule g
  else if w "auto" && wordAt "trait" second then traitRule g
  else if w "impl" || (w "default" && !marksAt ['!'] second) then implRule g attrs
  else if w "macro" then
    let _ ← visibility
    keyword "macro"
    let _ ← ident
    if (← peek (groupAt .paren)) then let _ ← delimited
    if (← peek (groupAt .brace)) then let _ ← delimited
    else expectedOneOf (["curly braces"])
    return .verbatim
  else if inherited && (identAt ahead || w "self" || w "super" || w "crate" || marksAt [':', ':'] ahead) then
    macroItemRule g
  else
    let _ ← visibility
    expectedOneOf (itemStarts ++
      (if inherited then ["identifier", quoted "self", quoted "super", quoted "crate", quoted "::"] else []))

end Rust

end ApiSpec
