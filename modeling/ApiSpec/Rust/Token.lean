import ApiSpec.Text.Quote

/-!
# Rust token trees

Rust source text is read as a forest of token trees: identifiers (raw ones keep their `r#`),
punctuation marks, literals (kept as written) and groups in parentheses, square brackets or
curly braces. A punctuation mark is *joint* when the next token is a punctuation mark that
follows it without a blank, so `::` is a joint `:` and a lone `:`.

Printing a stream puts one space between tokens, except after a joint punctuation mark.
Parentheses and brackets hug their contents; braces are written `{ ... }` with a space inside.
-/

namespace ApiSpec

namespace Rust

/-- The delimiters of a group. -/
inductive Delimiter where
  | paren
  | bracket
  | brace
  deriving DecidableEq, Repr, Inhabited

/-- A token tree. -/
inductive TokenTree where
  /-- A delimited group and the trees inside it. -/
  | group (delim : Delimiter) (body : List TokenTree)
  /-- An identifier or keyword; a raw identifier keeps its `r#`. -/
  | ident (text : String)
  /-- A punctuation mark, joint when glued to the next mark. -/
  | punct (c : Char) (joint : Bool)
  /-- A literal as written, suffix included. -/
  | literal (repr : String)
  deriving Repr, Inhabited

/-- The opening and closing text of a delimiter. -/
def Delimiter.marks : Delimiter → String × String
  | .paren => ("(", ")")
  | .bracket => ("[", "]")
  | .brace => ("\x7b ", "\x7d")

mutual

/-- The text of one token tree. -/
def TokenTree.render : TokenTree → String
  | .group d body =>
    let (o, c) := d.marks
    let inner := renderList body
    o ++ inner ++ (if d == .brace && !body.isEmpty then " " else "") ++ c
  | .ident s => s
  | .punct c _ => c.toString
  | .literal r => r

/-- The text of a stream: a space after each tree but the last, unless it is a joint mark. -/
def renderList : List TokenTree → String
  | [] => ""
  | t :: rest =>
    let joint := match t with
      | .punct _ j => j
      | _ => false
    t.render ++ (if rest.isEmpty || joint then "" else " ") ++ renderList rest

end

/-- The text of a token stream. -/
def renderStream (ts : List TokenTree) : String := renderList ts

mutual

/-- Counts a tree and the trees inside it. -/
def TokenTree.count : TokenTree → Nat
  | .group _ body => 1 + countList body
  | _ => 1

/-- Counts the trees of a stream, those inside groups included. -/
def countList : List TokenTree → Nat
  | [] => 0
  | t :: rest => t.count + countList rest

end

end Rust

end ApiSpec
