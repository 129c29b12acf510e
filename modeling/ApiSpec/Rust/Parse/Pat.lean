import ApiSpec.Rust.Parse.Expr

/-!
# Patterns

A pattern is chosen by its first tokens: a path followed by `::`, `!`, braces, parentheses or
`..` (a path, macro, struct, tuple struct or range pattern), `_`, `box`, a literal or `-` (a
literal or range), an identifier binding (with `ref`, `mut` and `@ subpattern`), `&`,
parentheses, brackets, or `..`. Alternatives are joined by `|`, and a leading `|` is allowed
where a pattern may have alternatives.

A range pattern in a slice must be in parentheses when one of its ends is missing.
-/

namespace ApiSpec

namespace Rust

/-- The bound of a range pattern, when one comes next. -/
def rangeBound (g : Grammar) : Parse Bool := do
  let r := (← get).rest
  if r.isEmpty || marksAt ['|'] r || marksAt ['='] r || (marksAt [':'] r && !marksAt [':', ':'] r) ||
      marksAt [','] r || marksAt [';'] r || wordAt "if" r then
    return false
  if litAt r then let _ ← literal; return true
  if identAt r || marksAt [':', ':'] r || marksAt ['<'] r || wordAt "self" r || wordAt "Self" r ||
      wordAt "super" r || wordAt "crate" r then
    let _ ← g.outerAttrs
    let _ ← g.qpath true
    return true
  if wordAt "const" r then
    keyword "const"
    let _ ← bracedBody g
    return true
  expectedOneOf ["literal", "identifier", quoted "::", quoted "<", quoted "self", quoted "Self",
    quoted "super", quoted "crate", quoted "const"]

/-- The rest of a range pattern after its start. -/
def rangeRest (g : Grammar) : Parse Pat := do
  let closed ← patRangeLimits
  let finish ← rangeBound g
  if closed && !finish then failHere "expected range upper bound"
  return .range true finish

/-- Patterns separated by commas up to the end of a group body. -/
def patList (g : Grammar) : Parse (List Pat) :=
  terminated (g.patMulti true) ","

/-- A pattern that starts with a path. -/
def pathPattern (g : Grammar) : Parse Pat := do
  let (qself, path) ← g.qpath true
  if !qself && (← peek (marksAt ['!'])) && !(← peek (marksAt ['!', '='])) && path.isModStyle then
    mark "!"
    let _ ← delimited
    return .other
  let r := (← get).rest
  if groupAt .brace r then
    let fields ← inGroup .brace do
      repeatCollect do
        if (← atEnd) then return (none, false)
        let _ ← g.outerAttrs
        if (← peek (marksAt ['.', '.'])) then
          mark ".."
          return (none, false)
        let boxed ← keywordIf "box"
        let byRef ← keywordIf "ref"
        let mutable ← keywordIf "mut"
        let modified := boxed || byRef || mutable
        let (name, named) ←
          if modified then pure (some (← ident), true)
          else if (← peek identAt) then pure (some (← ident), true)
          else if (← peek intLitAt) then tupleIndex; pure (none, false)
          else failHere "expected identifier or integer"
        let p ←
          if (!modified && (← peek (marksAt [':']))) || !named then
            mark ":"
            g.patMulti true
          else if boxed then pure Pat.other
          else pure (Pat.ident (name.getD ""))
        if (← atEnd) then return (some p, false)
        mark ","
        return (some p, true)
    return .struct fields
  if groupAt .paren r then
    return .tupleStruct (← inGroup .paren (patList g))
  if marksAt ['.', '.'] r then return ← rangeRest g
  return .other

/-- A literal pattern or a range starting with a literal. -/
def literalPattern (g : Grammar) : Parse Pat := do
  let _ ← rangeBound g
  if (← peek (marksAt ['.', '.'])) then rangeRest g else return .other

/-- A binding: `ref`, `mut`, a name and `@ pattern`. -/
def bindingPattern (g : Grammar) : Parse Pat := do
  let _ ← keywordIf "ref"
  let _ ← keywordIf "mut"
  let name ← if (← peek (wordAt "self")) then identAny else ident
  if (← peek (marksAt ['@'])) then
    mark "@"
    let _ ← g.pat
  return .ident name

/-- Parentheses: a parenthesized pattern or a tuple. -/
def parenPattern (g : Grammar) : Parse Pat := do
  let _ ← inGroup .paren (patList g)
  return .other

/-- Brackets: a slice pattern. -/
def slicePattern (g : Grammar) : Parse Pat := do
  let _ ← inGroup .bracket do
    repeatCollect do
      if (← atEnd) then return (none, false)
      let p ← g.patMulti true
      match p with
      | .range start finish =>
        if !start || !finish then fail "range pattern in slice pattern must be enclosed in parentheses"
      | _ => pure ()
      if (← atEnd) then return (some p, false)
      mark ","
      return (some p, true)
  return .other

/-- A pattern starting with `..`: a range without a start, or the rest `..`. -/
def halfOpenPattern (g : Grammar) : Parse Pat := do
  let closed ← rangeLimits
  let finish ← rangeBound g
  if finish then return .range false true
  if closed then failHere "expected range upper bound"
  return .rest

/-- A pattern without alternatives. -/
def patRule (g : Grammar) : Parse Pat := do
  let r := (← get).rest
  let second := (skipOne r).getD []
  let pathLike :=
    (identAt r && (marksAt [':', ':'] second || marksAt ['!'] second || groupAt .brace second ||
      groupAt .paren second || marksAt ['.', '.'] second)) ||
    (wordAt "self" r && marksAt [':', ':'] second) || marksAt [':', ':'] r || marksAt ['<'] r ||
    wordAt "Self" r || wordAt "super" r || wordAt "crate" r
  if pathLike then pathPattern g
  else if wordAt "_" r then let _ ← identAny; return .other
  else if wordAt "box" r then
    keyword "box"
    let _ ← g.pat
    return .other
  else if marksAt ['-'] r || litAt r || wordAt "const" r then literalPattern g
  else if wordAt "ref" r || wordAt "mut" r || wordAt "self" r || identAt r then bindingPattern g
  else if marksAt ['&'] r then
    mark "&"
    let _ ← keywordIf "mut"
    return .reference (← g.pat)
  else if groupAt .paren r then parenPattern g
  else if groupAt .bracket r then slicePattern g
  else if marksAt ['.', '.'] r && !marksAt ['.', '.', '.'] r then halfOpenPattern g
  else expectedOneOf ["identifier", quoted "::", quoted "<", quoted "_", "literal", quoted "const",
    quoted "ref", quoted "mut", quoted "&", "parentheses", "square brackets", quoted "..",
    quoted "const"]

/-- A pattern with alternatives; `leadingVert` allows a `|` first. -/
def patMultiRule (g : Grammar) (leadingVert : Bool) : Parse Pat := do
  let leading ← if leadingVert then markIf "|" else pure false
  let first ← g.pat
  let alternative : Parse Bool := do
    return (← peek (marksAt ['|'])) && !(← peek (marksAt ['|', '|'])) && !(← peek (marksAt ['|', '=']))
  if leading || (← alternative) then
    let _ ← repeatCollect do
      if !(← alternative) then return (none, false)
      mark "|"
      return (some (← g.pat), true)
    return .other
  return first

end Rust

end ApiSpec
