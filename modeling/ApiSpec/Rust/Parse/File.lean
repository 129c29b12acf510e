import ApiSpec.Rust.Parse.Item
import ApiSpec.Rust.Lex

/-!
# Parsing a file

The grammar's rules are tied together with fuel: `grammar n` gives each rule the grammar of
`n - 1` for the rules it calls, and `grammar 0` fails. Each call through the record spends one
unit, so the fuel bounds the depth of nesting, not the length of a file: loops over items,
statements and arguments run within the trees of their level. Sixteen units per tree of the
input (plus a margin) is more than any nesting of the language needs.

A file is read after a byte order mark, and after a first line `#!...` that is not the start
of an inner attribute `#![...]`. Its inner attributes come first, then its items. A parse that
left a group body unfinished fails at the end with the message remembered for it.

The arguments of an attribute's list are read the same way, as expressions separated by
commas, each with its printed text.
-/

namespace ApiSpec

namespace Rust

/-- The grammar with `fuel` units for nested calls. -/
def grammar : Nat → Grammar
  | 0 => Grammar.spent
  | n + 1 =>
    { ty := fun allowPlus => tyRule (grammar n) allowPlus
      typePath := typePathRule (grammar n)
      path := fun exprStyle => pathRule (grammar n) exprStyle
      qpath := fun exprStyle => qpathRule (grammar n) exprStyle
      angleArgs := angleArgsRule (grammar n)
      bound := boundRule (grammar n)
      bounds := fun allowPlus => boundsRule (grammar n) allowPlus
      returnType := fun allowPlus => returnTypeRule (grammar n) allowPlus
      expr := fun allowStruct => exprRule (grammar n) allowStruct
      unary := fun allowStruct => unaryRule (grammar n) allowStruct
      binary := fun lhs allowStruct base => binaryRule (grammar n) lhs allowStruct base
      exprEarly := exprEarlyRule (grammar n)
      block := blockRule (grammar n)
      stmts := stmtsRule (grammar n)
      pat := patRule (grammar n)
      patMulti := fun leadingVert => patMultiRule (grammar n) leadingVert
      outerAttrs := outerAttrsRule (grammar n)
      innerAttrs := innerAttrsRule (grammar n)
      itemRest := fun attrs => itemRestRule (grammar n) attrs
      generics := genericsRule (grammar n)
      whereClause := whereClauseRule (grammar n) }

/-- The fuel for a stream of trees. -/
def fuelFor (ts : List TokenTree) : Nat := 16 * countList ts + 64

/-- Runs a parser on a whole stream: it fails if a group body was left unfinished. -/
def runParse {α : Type} (p : Parse α) (ts : List TokenTree) : Except String α :=
  match p (ParseState.start ts) with
  | .error e => .error e
  | .ok (a, s) =>
    match s.unexpected with
    | some msg => .error msg
    | none => if s.rest.isEmpty then .ok a else .error "unexpected token"

/-- The items of a file's token trees, after its inner attributes. -/
def fileItems (ts : List TokenTree) : Except String (List Item) :=
  let g := grammar (fuelFor ts)
  runParse (do
    let (_, items) ← collecting (do let _ ← g.innerAttrs; itemList g)
    return items) ts

/-- Skips blanks and comments at the start of a text, as before a first token. -/
def leadingBlank (cs : List Char) : List Char := Lexer.skipBlank (cs.length + 1) cs

/-- The text after a byte order mark and a first `#!` line that is not an inner attribute. -/
def withoutShebang (s : String) : String :=
  let cs := match s.toList with
    | '\uFEFF' :: rest => rest
    | cs => cs
  match cs with
  | '#' :: '!' :: rest =>
    match leadingBlank rest with
    | '[' :: _ => String.ofList cs
    | _ => String.ofList (cs.dropWhile (· != '\n'))
  | _ => String.ofList cs

/-- Parses the text of a file. -/
def parseFile (src : String) : Except String File := do
  let ts ← lex (withoutShebang src)
  let items ← fileItems ts
  return ⟨items⟩

/-- The arguments of an attribute list: expressions separated by commas, each read as a value. -/
def attributeArgs (ts : List TokenTree) : Except String (List MetaValue) :=
  let g := grammar (fuelFor ts)
  runParse (repeatCollect do
    if (← atEnd) then return (none, false)
    let (e, echo) ← captured (g.expr true)
    let v := e.metaValue echo
    if (← atEnd) then return (some v, false)
    mark ","
    return (some v, true)) ts

end Rust

end ApiSpec
