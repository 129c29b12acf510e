import ApiSpec.Rust.Parse.Basic

/-!
# Types and paths

A type is chosen by its first token, in the order `for<..>`, parentheses, `fn` (with `unsafe`
or `extern`), a path, `dyn`, brackets, `*`, `&`, `!`, `impl`, `_` and a lifetime; when none
applies the message lists them in that order.

* Parentheses hold the unit type, a tuple (a comma after the first type), a parenthesized
  type, or the first bound of a trait object continued by `+` after them.
* A path may be followed by `!` and a group (a macro type), or by `+` and more bounds (a trait
  object written without `dyn`). In type position a segment takes `<...>` directly; in
  expression position only after `::`.
* A generic argument is a lifetime, a constant (a literal or a block), a type, or, after a
  single identifier, `= type` or `: bounds`.

The rules take the grammar record `g` for the rules they call back.
-/

namespace ApiSpec

namespace Rust

/-- Whether the arguments of a segment are empty (none or `<>`). -/
def PathArgs.isEmpty : PathArgs → Bool
  | .none => true
  | .angle [] => true
  | _ => false

namespace Path

/-- The last segment of a path. -/
def last? (p : Path) : Option Segment := p.segments.getLast?

/-- Whether the last segment has no arguments. -/
def lastArgsEmpty (p : Path) : Bool :=
  match p.last? with
  | some s => s.args.isEmpty
  | none => false

/-- The path with the arguments of its last segment replaced. -/
def setLastArgs (p : Path) (a : PathArgs) : Path :=
  match p with
  | .mk lc segs =>
    match segs.reverse with
    | [] => p
    | s :: rest => .mk lc ((Segment.mk s.ident a :: rest).reverse)

/-- The path with segments added at its end. -/
def append (p : Path) (more : List Segment) : Path :=
  match p with
  | .mk lc segs => .mk lc (segs ++ more)

end Path

/-- Whether a bound is a trait. -/
def Bound.isTrait : Bound → Bool
  | .trait _ => true
  | _ => false

/-- Collects the results of `step` while it says to go on, within the trees of the level. -/
def repeatCollect {α : Type} (step : Parse (Option α × Bool)) : Parse (List α) := do
  go (← stepBound) []
where
  /-- Runs the steps, collecting results in reverse. -/
  go : Nat → List α → Parse (List α)
    | 0, acc => return acc.reverse
    | n + 1, acc => do
      let (a, more) ← step
      let acc := match a with
        | some x => x :: acc
        | none => acc
      if more then go n acc else return acc.reverse

/-- Values separated by `sep` up to the end of a group body, a separator allowed at the end. -/
def terminated {α : Type} (p : Parse α) (sep : String) : Parse (List α) :=
  repeatCollect do
    if (← atEnd) then return (none, false)
    let a ← p
    if (← atEnd) then return (some a, false)
    mark sep
    return (some a, true)

/-- Whether `+` and another bound follow in a bound list. -/
def boundFollows : Parse Bool := do
  return (← peek anyIdentAt) || (← peek (marksAt [':', ':'])) || (← peek (marksAt ['?'])) ||
    (← peek lifetimeAt) || (← peek (groupAt .paren))

/-- `for<'a, 'b>` before a bound or type. -/
def boundLifetimes (g : Grammar) : Parse Unit := do
  keyword "for"
  mark "<"
  let _ ← repeatCollect do
    if (← peek (marksAt ['>'])) then return (none, false)
    let _ ← g.outerAttrs
    lifetime
    if (← peek (marksAt ['>'])) then return (some (), false)
    mark ","
    return (some (), true)
  mark ">"

/-- One path segment; `exprStyle` takes `<...>` only after `::`. -/
def segmentRule (g : Grammar) (exprStyle : Bool) : Parse Segment := do
  let rest := (← get).rest
  if wordAt "super" rest || wordAt "self" rest || wordAt "crate" rest || wordAt "try" rest then
    return .mk (← identAny) .none
  let name ← if wordAt "Self" rest then identAny else ident
  let angle := (!exprStyle && (← peek (marksAt ['<'])) && !(← peek (marksAt ['<', '=']))
      && !(← peek (marksAt ['<', '<', '='])))
    || ((← peek (marksAt [':', ':'])) && (← peek3 (marksAt ['<'])))
  if angle then return .mk name (.angle (← g.angleArgs))
  else return .mk name .none

/-- More `::` segments after a path, unless parentheses come after the `::`. -/
def pathRest (g : Grammar) (exprStyle : Bool) : Parse (List Segment) :=
  repeatCollect do
    if (← peek (marksAt [':', ':'])) && !(← peek3 (groupAt .paren)) then
      mark "::"
      return (some (← segmentRule g exprStyle), true)
    else return (none, false)

/-- A path: an optional leading `::`, a segment and more segments. -/
def pathRule (g : Grammar) (exprStyle : Bool) : Parse Path := do
  let leading ← markIf "::"
  let first ← segmentRule g exprStyle
  let more ← pathRest g exprStyle
  return .mk leading (first :: more)

/-- A path that may start with `<T as Trait>::` (a `qself`): whether it does, and the path. -/
def qpathRule (g : Grammar) (exprStyle : Bool) : Parse (Bool × Path) := do
  if (← peek (marksAt ['<'])) then
    mark "<"
    let _ ← g.ty true
    let asPath ← if (← peek (wordAt "as")) then keyword "as"; pure (some (← g.path false)) else pure none
    mark ">"
    mark "::"
    let rest ← repeatCollect do
      let s ← segmentRule g exprStyle
      if !(← peek (marksAt [':', ':'])) then return (some s, false)
      mark "::"
      return (some s, true)
    match asPath with
    | some p => return (true, p.append rest)
    | none => return (true, .mk true rest)
  else return (false, ← g.path exprStyle)

/-- Parenthesized arguments `(A, B) -> C`: whether the output allows more segments after. -/
def parenArgs (g : Grammar) : Parse Bool := do
  let _ ← inGroup .paren (terminated (g.ty true) ",")
  match ← g.returnType false with
  | none => return true
  | some (.paren _) => return true
  | some _ => return false

/-- A type path, with parenthesized arguments on a last segment that has none. -/
def typePathRule (g : Grammar) : Parse (Bool × Path) := do
  let (qself, p) ← g.qpath false
  let mut path := p
  for _ in [0:(← stepBound)] do
    if path.lastArgsEmpty &&
        ((← peek (groupAt .paren)) || ((← peek (marksAt [':', ':'])) && (← peek3 (groupAt .paren)))) then
      let _ ← markIf "::"
      let more ← parenArgs g
      path := path.setLastArgs .paren
      if more then path := path.append (← pathRest g false)
    else break
  return (qself, path)

/-- A constant generic argument: a literal, an identifier or a block. -/
def constArgument (g : Grammar) : Parse Unit := do
  if (← peek litAt) then let _ ← literal
  else if (← peek identAt) then let _ ← ident
  else if (← peek (groupAt .brace)) then
    let _ ← inGroup .brace (do let _ ← g.innerAttrs; g.stmts)
  else expectedOneOf []

/-- Whether a type is a path of one plain segment, as before `=` or `:` in arguments. -/
def Ty.isSingleSegment : Ty → Bool
  | .path false (.mk false [.mk _ .none]) => true
  | .path false (.mk false [.mk _ (.angle _)]) => true
  | _ => false

/-- One generic argument. -/
def genericArgRule (g : Grammar) : Parse GenericArg := do
  if (← peek lifetimeAt) && !(← peek2 (marksAt ['+'])) then lifetime; return .other
  if (← peek litAt) || (← peek (groupAt .brace)) then constArgument g; return .other
  let argument ← g.ty true
  if argument.isSingleSegment then
    if (← markIf "=") then
      if (← peek litAt) || (← peek (groupAt .brace)) then constArgument g; return .other
      return .assocType (← g.ty true)
    if (← markIf ":") then
      let _ ← repeatCollect do
        if (← peek (marksAt [','])) || (← peek (marksAt ['>'])) then return (none, false)
        let _ ← g.bound
        if !(← peek (marksAt ['+'])) then return (some (), false)
        mark "+"
        return (some (), true)
      return .other
  return .type argument

/-- Angle-bracketed arguments after an optional `::`. -/
def angleArgsRule (g : Grammar) : Parse (List GenericArg) := do
  let _ ← markIf "::"
  mark "<"
  let args ← repeatCollect do
    if (← peek (marksAt ['>'])) then return (none, false)
    let a ← genericArgRule g
    if (← peek (marksAt ['>'])) then return (some a, false)
    mark ","
    return (some a, true)
  mark ">"
  return args

/-- A trait bound: `?`, `for<..>`, a path and parenthesized arguments. -/
def traitBound (g : Grammar) : Parse Path := do
  let _ ← markIf "?"
  if (← peek (wordAt "for")) then boundLifetimes g
  let path ← g.path false
  if path.lastArgsEmpty &&
      ((← peek (groupAt .paren)) || ((← peek (marksAt [':', ':'])) && (← peek3 (groupAt .paren)))) then
    let _ ← markIf "::"
    let _ ← parenArgs g
    return path.setLastArgs .paren
  return path

/-- One bound: a lifetime, `use<..>`, or a trait bound, possibly in parentheses. -/
def boundRule (g : Grammar) : Parse Bound := do
  if (← peek lifetimeAt) then lifetime; return .lifetime
  if (← peek (wordAt "use")) then
    keyword "use"
    mark "<"
    let _ ← repeatCollect do
      if (← peek lifetimeAt) then lifetime
      else if (← peek identAt) then let _ ← ident
      else if (← peek (marksAt ['>'])) then return (none, false)
      else expectedOneOf ["lifetime", "identifier", quoted ">"]
      if (← peek (marksAt [','])) then mark ","; return (some (), true)
      else if (← peek (marksAt ['>'])) then return (some (), false)
      else expectedOneOf [quoted ",", quoted ">"]
    mark ">"
    return .other
  let body : Parse Bound := do
    let tilde := (← peek (marksAt ['~'])) && (← peek2 (wordAt "const"))
    if tilde then mark "~"; keyword "const"
    let p ← traitBound g
    return if tilde then .other else .trait p
  if (← peek (groupAt .paren)) then inGroup .paren body else body

/-- Bounds joined by `+` when `allowPlus`: the bounds and whether a `+` ends them. -/
def boundsRule (g : Grammar) (allowPlus : Bool) : Parse (List Bound × Bool) := do
  let mut trailing := false
  let bs ← repeatCollect do
    let b ← g.bound
    if !(allowPlus && (← peek (marksAt ['+']))) then return (some b, false)
    mark "+"
    if !(← boundFollows) && !(← peek (marksAt ['~'])) then return (some b, false)
    return (some b, true)
  -- A `+` with nothing after it ends the list.
  let echo := (← get).echo
  match echo with
  | .punct '+' _ :: _ => trailing := true
  | _ => pure ()
  return (bs, trailing)

/-- A return type: `->` and a type, when present. -/
def returnTypeRule (g : Grammar) (allowPlus : Bool) : Parse (Option Ty) := do
  if (← peek (marksAt ['-', '>'])) then
    mark "->"
    return some (← g.ty allowPlus)
  return none

/-- The inputs and output of a function pointer type after its `fn`. -/
def bareFnRest (g : Grammar) : Parse Unit := do
  let _ ← inGroup .paren do
    repeatCollect do
      if (← atEnd) then return (none, false)
      let _ ← g.outerAttrs
      let variadic := (← peek (marksAt ['.', '.', '.'])) ||
        (((← peek identAt) || (← peek (wordAt "_"))) && (← peek2 (marksAt [':'])) &&
          (← peek3 (marksAt ['.', '.', '.'])))
      if variadic then
        if (← peek identAt) || (← peek (wordAt "_")) then
          let _ ← identAny
          mark ":"
        mark "..."
        let _ ← markIf ","
        return (none, false)
      let named := ((← peek identAt) || (← peek (wordAt "_")) || (← peek (wordAt "self"))) &&
        (← peek2 (marksAt [':'])) && !(← peek2 (marksAt [':', ':']))
      if named then
        let _ ← identAny
        mark ":"
      let _ ← g.ty true
      if (← atEnd) then return (some (), false)
      mark ","
      return (some (), true)
  let _ ← g.returnType false

/-- The names a type's first token is looked for among, in order. -/
def typeStarts : List String :=
  [quoted "for", "parentheses", quoted "fn", quoted "unsafe", quoted "extern", "identifier",
   quoted "::", quoted "<", quoted "dyn", "square brackets", quoted "*", quoted "&", quoted "!",
   quoted "impl", quoted "_", "lifetime"]

/-- What a parenthesized type holds. -/
inductive ParenContent where
  | unit
  | wrapped (t : Ty)
  | questionBound (p : Path)
  | tuple (elems : List Ty)
  | single (t : Ty)

/-- The bounds after a first bound: `+` and a bound, as long as `+` comes. -/
def plusBounds (g : Grammar) : Parse (List Bound) :=
  repeatCollect do
    if (← markIf "+") then return (some (← g.bound), true)
    else return (none, false)

/-- A type with the text of its tokens filled in where it keeps one. -/
def Ty.withText (t : Ty) (text : String) : Ty :=
  match t with
  | .traitObject d bs tr _ => .traitObject d bs tr text
  | .implTrait bs _ => .implTrait bs text
  | .other _ => .other text
  | t => t

/-- A type; `allowPlus` lets `+` join bounds at its top. -/
def tyRule (g : Grammar) (allowPlus : Bool) : Parse Ty := do
  let (t, echo) ← captured (tyShape g allowPlus)
  return t.withText (renderStream echo)
where
  /-- The type, without its text. -/
  tyShape (g : Grammar) (allowPlus : Bool) : Parse Ty := do
    let mut lifetimes := false
    if (← peek (wordAt "for")) then
      boundLifetimes g
      lifetimes := true
      let r := (← get).rest
      let ok := identAt r || wordAt "fn" r || wordAt "unsafe" r || wordAt "extern" r ||
        wordAt "super" r || wordAt "self" r || wordAt "Self" r || wordAt "crate" r
      if !ok || wordAt "dyn" r then
        expectedOneOf ["identifier", quoted "fn", quoted "unsafe", quoted "extern", quoted "super",
          quoted "self", quoted "Self", quoted "crate"]
    let r := (← get).rest
    if groupAt .paren r then
      let content ← inGroup .paren do
        if (← atEnd) then return ParenContent.unit
        if (← peek lifetimeAt) then
          let _ ← keywordIf "dyn"
          let (bs, tr) ← g.bounds true
          if !bs.any Bound.isTrait then fail "at least one trait is required for an object type"
          return .wrapped (.traitObject false bs tr "")
        if (← peek (marksAt ['?'])) then
          return .questionBound (← traitBound g)
        let first ← g.ty true
        if (← peek (marksAt [','])) then
          mark ","
          let more ← terminated (g.ty true) ","
          return .tuple (first :: more)
        return .single first
      match content with
      | .unit => return .tuple []
      | .wrapped t => return .paren t
      | .questionBound p =>
        let more ← plusBounds g
        return .traitObject false (.trait p :: more) false ""
      | .tuple elems => return .tuple elems
      | .single first =>
        if allowPlus && (← peek (marksAt ['+'])) then
          let firstBound : Option Bound := match first with
            | .path false p => some (.trait p)
            | .traitObject false [b] false _ => some b
            | _ => none
          match firstBound with
          | some b =>
            let more ← plusBounds g
            return .traitObject false (b :: more) false ""
          | none => return .paren first
        return .paren first
    else if wordAt "fn" r || wordAt "unsafe" r || wordAt "extern" r then
      if (← peek (wordAt "for")) then boundLifetimes g
      let _ ← keywordIf "unsafe"
      if (← keywordIf "extern") then
        if (← peek strAt) then let _ ← literal
      keyword "fn"
      bareFnRest g
      return .other ""
    else if identAt r || wordAt "super" r || wordAt "self" r || wordAt "Self" r || wordAt "crate" r ||
        marksAt [':', ':'] r || marksAt ['<'] r then
      let (qself, path) ← g.typePath
      if qself then return .path true path
      if (← peek (marksAt ['!'])) && !(← peek (marksAt ['!', '='])) && path.isModStyle then
        mark "!"
        let _ ← delimited
        return .other ""
      if lifetimes || (allowPlus && (← peek (marksAt ['+']))) then
        let mut trailing := false
        let mut bounds : List Bound := [.trait path]
        if allowPlus then
          let more ← repeatCollect do
            if !(← peek (marksAt ['+'])) then return (none, false)
            mark "+"
            if !(← boundFollows) then return (none, false)
            return (some (← g.bound), true)
          bounds := bounds ++ more
          match (← get).echo with
          | .punct '+' _ :: _ => trailing := true
          | _ => pure ()
        return .traitObject false bounds trailing ""
      return .path false path
    else if wordAt "dyn" r then
      keyword "dyn"
      let star ← markIf "*"
      let (bs, tr) ← g.bounds allowPlus
      if !bs.any Bound.isTrait then fail "at least one trait is required for an object type"
      return if star then .other "" else .traitObject true bs tr ""
    else if groupAt .bracket r then
      inGroup .bracket do
        let elem ← g.ty true
        if (← peek (marksAt [';'])) then
          mark ";"
          let _ ← g.expr true
          return .array elem
        return .slice elem
    else if marksAt ['*'] r then
      mark "*"
      if (← peek (wordAt "const")) then keyword "const"
      else if (← peek (wordAt "mut")) then keyword "mut"
      else expectedOneOf [quoted "const", quoted "mut"]
      let _ ← g.ty false
      return .other ""
    else if marksAt ['&'] r then
      mark "&"
      let _ ← lifetimeIf
      let _ ← keywordIf "mut"
      return .reference (← g.ty false)
    else if marksAt ['!'] r then
      mark "!"
      return .other ""
    else if wordAt "impl" r then
      keyword "impl"
      let (bs, _) ← g.bounds allowPlus
      if !bs.any Bound.isTrait then fail "at least one trait must be specified"
      return .implTrait bs ""
    else if wordAt "_" r then
      let _ ← identAny
      return .other ""
    else if lifetimeAt r then
      let (bs, tr) ← g.bounds true
      if !bs.any Bound.isTrait then fail "at least one trait is required for an object type"
      return .traitObject false bs tr ""
    else expectedOneOf (if lifetimes then [] else typeStarts)

end Rust

end ApiSpec
