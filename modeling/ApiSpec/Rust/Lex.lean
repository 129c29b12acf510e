import ApiSpec.Rust.Token
import ApiSpec.Text.Ident
import ApiSpec.Text.Blank

/-!
# Reading Rust source into token trees

The reader skips blanks and comments, turns doc comments (`///`, `//!`, `/** */`, `/*! */`)
into `#[doc = "..."]` attributes (`#![doc = ...]` for inner ones), and reads each token with
the first rule that accepts it: a literal, then a punctuation mark, then an identifier.
Block comments nest. Delimiters must balance.

Each reader takes the remaining characters and answers the characters after what it read,
or `none` when it does not apply. Anything no rule accepts makes the whole text unreadable;
the one message for that is `cannot parse string into token stream`.

Literals follow the rules of the language closely enough to find where they end: strings with
their escapes and line continuations, raw strings with their `#` fences, byte and C strings,
characters and bytes, integers in four bases and floats, each with an optional suffix. A
quote that does not start a character literal starts a lifetime: a joint `'` and the name.
-/

namespace ApiSpec

namespace Rust

/-- The message for text that is not a token stream. -/
def lexErrorMessage : String := "cannot parse string into token stream"

namespace Lexer

/-- Whether a character starts an identifier: `_` or XID_Start. -/
def isIdentHead (c : Char) : Bool := c == '_' || Text.isIdentStart c

/-- Whether a character continues an identifier (XID_Continue). -/
def isIdentTail (c : Char) : Bool := Text.isIdentContinue c

/-- Whether the text starts with the characters of `p`. -/
def startsWith (p : String) (cs : List Char) : Bool := p.toList.isPrefixOf cs

/-- Whether a character is blank for the reader: White_Space and the two direction marks. -/
def isSpaceChar (c : Char) : Bool :=
  c == ' ' || (c.toNat ≥ 9 && c.toNat ≤ 13) || Text.isBlank c || c.toNat == 0x200E || c.toNat == 0x200F

/-- The value of a hexadecimal digit. -/
def hexValue (c : Char) : Option Nat :=
  if c ≥ '0' && c ≤ '9' then some (c.toNat - '0'.toNat)
  else if c ≥ 'a' && c ≤ 'f' then some (c.toNat - 'a'.toNat + 10)
  else if c ≥ 'A' && c ≤ 'F' then some (c.toNat - 'A'.toNat + 10)
  else none

/-- Whether a number is the code of a character (not a surrogate, at most `0x10FFFF`). -/
def isScalarValue (n : Nat) : Bool := n < 0xD800 || (0xE000 ≤ n && n ≤ 0x10FFFF)

/-! ### Identifiers -/

/-- A plain identifier at the head: its characters and the rest. -/
def identNotRaw : List Char → Option (List Char × List Char)
  | c :: rest =>
    if isIdentHead c then some (c :: rest.takeWhile isIdentTail, rest.dropWhile isIdentTail) else none
  | [] => none

/-- An identifier, raw (`r#name`) or not; `_`, `super`, `self`, `Self` and `crate` cannot be raw. -/
def identAny (cs : List Char) : Option (String × List Char) :=
  let raw := startsWith "r#" cs
  match identNotRaw (if raw then cs.drop 2 else cs) with
  | none => none
  | some (sym, rest) =>
    let s := String.ofList sym
    if !raw then some (s, rest)
    else if ["_", "super", "self", "Self", "crate"].contains s then none
    else some ("r#" ++ s, rest)

/-- An identifier token; text that starts a string, byte or raw literal is not one. -/
def identToken (cs : List Char) : Option (String × List Char) :=
  let literalHeads := ["r\"", "r#\"", "r##", "b\"", "b\x27", "br\"", "br#", "c\"", "cr\"", "cr#"]
  if literalHeads.any fun p => startsWith p cs then none else identAny cs

/-- Skips the suffix of a literal: an identifier, when one follows. -/
def literalSuffix (cs : List Char) : List Char :=
  match identNotRaw cs with
  | some (_, rest) => rest
  | none => cs

/-! ### Escapes -/

/-- `\x` with a first digit up to 7 and a second hexadecimal digit (in characters and strings). -/
def hexEscapeChar : List Char → Option (List Char)
  | a :: b :: rest => if a ≥ '0' && a ≤ '7' && (hexValue b).isSome then some rest else none
  | _ => none

/-- `\x` with two hexadecimal digits (in bytes and byte strings). -/
def hexEscapeByte : List Char → Option (List Char)
  | a :: b :: rest => if (hexValue a).isSome && (hexValue b).isSome then some rest else none
  | _ => none

/-- `\x` with two hexadecimal digits, not both zero (in C strings). -/
def hexEscapeNonzero : List Char → Option (List Char)
  | a :: b :: rest =>
    match hexValue a, hexValue b with
    | some x, some y => if x == 0 && y == 0 then none else some rest
    | _, _ => none
  | _ => none

/-- The digits of a `\u{...}` escape after the brace: at most six, `_` after the first. -/
def unicodeDigits (value len : Nat) : List Char → Option (Char × List Char)
  | c :: rest =>
    if c == '_' && len > 0 then unicodeDigits value len rest
    else if c == '\x7d' && len > 0 then
      if isScalarValue value then some (Char.ofNat value, rest) else none
    else match hexValue c with
      | some d => if len == 6 then none else unicodeDigits (value * 16 + d) (len + 1) rest
      | none => none
  | [] => none

/-- A `\u{...}` escape after the `u`: the character and the rest. -/
def unicodeEscape : List Char → Option (Char × List Char)
  | '\x7b' :: rest => unicodeDigits 0 0 rest
  | _ => none

/-- The blanks after a backslash and a line break in a string, `last` being the break. -/
def continuation (last : Char) : List Char → Option (List Char)
  | [] => none
  | c :: rest =>
    let blank (d : Char) := d == ' ' || d == '\t' || d == '\n' || d == '\r'
    if last == '\r' then
      if c != '\n' then none
      else match rest with
        | [] => none
        | d :: rest' => if blank d then continuation d rest' else some (d :: rest')
    else if blank c then continuation c rest
    else some (c :: rest)

/-! ### Strings -/

/-- The rest of a string after its opening quote, up to and past the closing one. -/
def cookedString : Nat → List Char → Option (List Char)
  | 0, _ => none
  | n + 1, cs =>
    match cs with
    | '"' :: rest => some (literalSuffix rest)
    | '\r' :: '\n' :: rest => cookedString n rest
    | '\r' :: _ => none
    | '\\' :: 'x' :: rest => (hexEscapeChar rest).bind (cookedString n)
    | '\\' :: 'u' :: rest => (unicodeEscape rest).bind fun (_, r) => cookedString n r
    | '\\' :: c :: rest =>
      if "nrt\\\x270\"".contains c then cookedString n rest
      else if c == '\n' || c == '\r' then (continuation c rest).bind (cookedString n)
      else none
    | _ :: rest => cookedString n rest
    | [] => none

/-- The rest of a byte string after its opening quote: ASCII only. -/
def cookedByteString : Nat → List Char → Option (List Char)
  | 0, _ => none
  | n + 1, cs =>
    match cs with
    | '"' :: rest => some (literalSuffix rest)
    | '\r' :: '\n' :: rest => cookedByteString n rest
    | '\r' :: _ => none
    | '\\' :: 'x' :: rest => (hexEscapeByte rest).bind (cookedByteString n)
    | '\\' :: c :: rest =>
      if "nrt\\0\x27\"".contains c then cookedByteString n rest
      else if c == '\n' || c == '\r' then (continuation c rest).bind (cookedByteString n)
      else none
    | c :: rest => if c.toNat < 128 then cookedByteString n rest else none
    | [] => none

/-- The rest of a C string after its opening quote: no NUL, written or escaped. -/
def cookedCString : Nat → List Char → Option (List Char)
  | 0, _ => none
  | n + 1, cs =>
    match cs with
    | '"' :: rest => some (literalSuffix rest)
    | '\r' :: '\n' :: rest => cookedCString n rest
    | '\r' :: _ => none
    | '\\' :: 'x' :: rest => (hexEscapeNonzero rest).bind (cookedCString n)
    | '\\' :: 'u' :: rest =>
      (unicodeEscape rest).bind fun (c, r) => if c == '\x00' then none else cookedCString n r
    | '\\' :: c :: rest =>
      if "nrt\\\x27\"".contains c then cookedCString n rest
      else if c == '\n' || c == '\r' then (continuation c rest).bind (cookedCString n)
      else none
    | c :: rest => if c == '\x00' then none else cookedCString n rest
    | [] => none

/-- The fence of a raw string: the number of `#` before the quote (at most 255) and the rest. -/
def rawFence (cs : List Char) : Option (Nat × List Char) :=
  let hashes := cs.takeWhile (· == '#')
  match cs.dropWhile (· == '#') with
  | '"' :: rest => if hashes.length > 255 then none else some (hashes.length, rest)
  | _ => none

/-- Which characters a raw literal refuses. -/
inductive RawKind where
  | text
  | bytes
  | cText
  deriving DecidableEq

/-- The body of a raw literal after its opening quote, up to the quote and fence that close it. -/
def rawBody (fence : Nat) (kind : RawKind) : List Char → Option (List Char)
  | '"' :: rest =>
    if (List.replicate fence '#').isPrefixOf rest then some (literalSuffix (rest.drop fence))
    else rawBody fence kind rest
  | '\r' :: rest =>
    match rest with
    | '\n' :: rest' => rawBody fence kind rest'
    | _ => none
  | c :: rest =>
    if kind == .bytes && c.toNat ≥ 128 then none
    else if kind == .cText && c == '\x00' then none
    else rawBody fence kind rest
  | [] => none

/-- A raw literal after its prefix letters. -/
def rawLiteral (kind : RawKind) (cs : List Char) : Option (List Char) :=
  (rawFence cs).bind fun (fence, rest) => rawBody fence kind rest

/-- A string literal: `"..."` or `r"..."`. -/
def stringLiteral (cs : List Char) : Option (List Char) :=
  match cs with
  | '"' :: rest => cookedString (rest.length + 1) rest
  | 'r' :: rest => rawLiteral .text rest
  | _ => none

/-- A byte string literal: `b"..."` or `br"..."`. -/
def byteStringLiteral (cs : List Char) : Option (List Char) :=
  match cs with
  | 'b' :: '"' :: rest => cookedByteString (rest.length + 1) rest
  | 'b' :: 'r' :: rest => rawLiteral .bytes rest
  | _ => none

/-- A C string literal: `c"..."` or `cr"..."`. -/
def cStringLiteral (cs : List Char) : Option (List Char) :=
  match cs with
  | 'c' :: '"' :: rest => cookedCString (rest.length + 1) rest
  | 'c' :: 'r' :: rest => rawLiteral .cText rest
  | _ => none

/-- A closing quote and a suffix. -/
def closingQuote : List Char → Option (List Char)
  | '\x27' :: rest => some (literalSuffix rest)
  | _ => none

/-- A byte literal: `b'x'`, one ASCII character or an escape. -/
def byteLiteral : List Char → Option (List Char)
  | 'b' :: '\x27' :: rest =>
    match rest with
    | '\\' :: 'x' :: r => (hexEscapeByte r).bind closingQuote
    | '\\' :: c :: r => if "nrt\\0\x27\"".contains c then closingQuote r else none
    | c :: r => if c.toNat < 128 then closingQuote r else none
    | [] => none
  | _ => none

/-- A character literal: `'x'`, one character or an escape. -/
def charLiteral : List Char → Option (List Char)
  | '\x27' :: rest =>
    match rest with
    | '\\' :: 'x' :: r => (hexEscapeChar r).bind closingQuote
    | '\\' :: 'u' :: r => (unicodeEscape r).bind fun (_, r') => closingQuote r'
    | '\\' :: c :: r => if "nrt\\0\x27\"".contains c then closingQuote r else none
    | _ :: r => closingQuote r
    | [] => none
  | _ => none

/-! ### Numbers -/

/-- Refuses a number glued to a following identifier character. -/
def wordBreak (cs : List Char) : Option (List Char) :=
  match cs with
  | c :: _ => if isIdentTail c then none else some cs
  | [] => some cs

/-- A suffix, then a word break. -/
def numberEnd (cs : List Char) : Option (List Char) :=
  match cs with
  | c :: _ =>
    if isIdentHead c then (identNotRaw cs).bind fun (_, rest) => wordBreak rest else wordBreak cs
  | [] => wordBreak cs

/-- The digits of an integer in a base, `_` allowed (not first in base ten). -/
def intDigits (base : Nat) (empty : Bool) : List Char → Option (List Char)
  | [] => if empty then none else some []
  | c :: rest =>
    if c ≥ '0' && c ≤ '9' then
      if c.toNat - '0'.toNat ≥ base then none else intDigits base false rest
    else if (c ≥ 'a' && c ≤ 'f') || (c ≥ 'A' && c ≤ 'F') then
      if base ≤ 10 then (if empty then none else some (c :: rest)) else intDigits base false rest
    else if c == '_' then
      if empty && base == 10 then none else intDigits base empty rest
    else if empty then none else some (c :: rest)

/-- The digits of an integer literal with its base prefix. -/
def digits (cs : List Char) : Option (List Char) :=
  match cs with
  | '0' :: 'x' :: rest => intDigits 16 true rest
  | '0' :: 'o' :: rest => intDigits 8 true rest
  | '0' :: 'b' :: rest => intDigits 2 true rest
  | _ => intDigits 10 true cs

/-- An integer literal. -/
def intLiteral (cs : List Char) : Option (List Char) := (digits cs).bind numberEnd

/-- The exponent digits of a float: a sign (once, before any digit), digits and `_`. -/
def exponentDigits (sign digit : Bool) : List Char → Option (List Char × Bool) × Bool
  | c :: rest =>
    if c == '+' || c == '-' then
      if digit then (some (c :: rest, true), false)
      else if sign then (none, true)
      else exponentDigits true digit rest
    else if c ≥ '0' && c ≤ '9' then exponentDigits sign true rest
    else if c == '_' then exponentDigits sign digit rest
    else (some (c :: rest, digit), false)
  | [] => (some ([], digit), false)

/-- The mantissa of a float after its first digit: digits, `_`, one dot and an `e`. -/
def mantissa (dot : Bool) (count : Nat) : List Char → Nat × Bool × Bool × List Char ⊕ Unit
  | c :: rest =>
    if (c ≥ '0' && c ≤ '9') || c == '_' then mantissa dot (count + 1) rest
    else if c == '.' then
      if dot then .inl (count, dot, false, c :: rest)
      else match rest with
        | d :: _ => if d == '.' || isIdentHead d then .inr () else mantissa true (count + 1) rest
        | [] => mantissa true (count + 1) rest
    else if c == 'e' || c == 'E' then .inl (count + 1, dot, true, rest)
    else .inl (count, dot, false, c :: rest)
  | [] => .inl (count, dot, false, [])

/-- The digits of a float literal: the rest after them. -/
def floatDigits (cs : List Char) : Option (List Char) :=
  match cs with
  | c :: rest =>
    if !(c ≥ '0' && c ≤ '9') then none
    else match mantissa false 1 rest with
      | .inr () => none
      | .inl (count, dot, exp, after) =>
        if !(dot || exp) then none
        else if !exp then some (cs.drop count)
        else
          -- Without exponent digits the float ends before the `e`, if it has a dot.
          let before := if dot then some (cs.drop (count - 1)) else none
          match exponentDigits false false after with
          | (some (r, true), _) => some r
          | (some (_, false), _) => before
          | (none, _) => before
  | [] => none

/-- A float literal. -/
def floatLiteral (cs : List Char) : Option (List Char) := (floatDigits cs).bind numberEnd

/-- The end of the literal at the head, trying each kind in turn. -/
def literalEnd (cs : List Char) : Option (List Char) :=
  (stringLiteral cs).orElse fun _ =>
  (byteStringLiteral cs).orElse fun _ =>
  (cStringLiteral cs).orElse fun _ =>
  (byteLiteral cs).orElse fun _ =>
  (charLiteral cs).orElse fun _ =>
  (floatLiteral cs).orElse fun _ =>
  intLiteral cs

/-! ### Punctuation, comments and blanks -/

/-- The punctuation mark at the head; the slash of a comment is not one. -/
def punctChar (cs : List Char) : Option (Char × List Char) :=
  if startsWith "//" cs || startsWith "/*" cs then none
  else match cs with
    | c :: rest => if "~!@#$%^&*-=+|;:,<.>/?\x27".contains c then some (c, rest) else none
    | [] => none

/-- A punctuation mark token; a quote must start a lifetime name (not a character). -/
def punctToken (cs : List Char) : Option (TokenTree × List Char) :=
  match punctChar cs with
  | none => none
  | some (c, rest) =>
    if c == '\x27' then
      match identAny rest with
      | some (_, after) => if startsWith "\x27" after then none else some (.punct c true, rest)
      | none => none
    else some (.punct c (punctChar rest).isSome, rest)

/-- The text up to a line break (not included, nor a CR before it) and the rest from it. -/
def untilNewline : List Char → List Char × List Char
  | [] => ([], [])
  | '\n' :: rest => ([], '\n' :: rest)
  | '\r' :: '\n' :: rest => ([], '\n' :: rest)
  | c :: rest => let (a, b) := untilNewline rest; (c :: a, b)

/-- A block comment after its opening: nested comments counted by `depth`. -/
def blockTail (depth : Nat) (acc : List Char) : List Char → Option (List Char × List Char)
  | '/' :: '*' :: rest => blockTail (depth + 1) ('*' :: '/' :: acc) rest
  | '*' :: '/' :: rest =>
    if depth ≤ 1 then some (('/' :: '*' :: acc).reverse, rest)
    else blockTail (depth - 1) ('/' :: '*' :: acc) rest
  | c :: rest => blockTail depth (c :: acc) rest
  | [] => none

/-- A whole block comment at the head: its text, delimiters included, and the rest. -/
def blockComment (cs : List Char) : Option (List Char × List Char) :=
  match cs with
  | '/' :: '*' :: rest => (blockTail 1 [] rest).map fun (body, r) => ('/' :: '*' :: body, r)
  | _ => none

/-- Skips blanks and comments that are not doc comments; an unclosed block comment stays. -/
def skipBlank : Nat → List Char → List Char
  | 0, cs => cs
  | n + 1, cs =>
    if startsWith "//" cs && (!startsWith "///" cs || startsWith "////" cs) && !startsWith "//!" cs then
      skipBlank n (untilNewline cs).2
    else if startsWith "/**/" cs then skipBlank n (cs.drop 4)
    else if startsWith "/*" cs && (!startsWith "/**" cs || startsWith "/***" cs) && !startsWith "/*!" cs then
      match blockComment cs with
      | some (_, rest) => skipBlank n rest
      | none => cs
    else match cs with
      | c :: rest => if isSpaceChar c then skipBlank n rest else cs
      | [] => cs

/-- The text of a string literal holding `s`, escaped the way a token is printed. -/
def stringRepr (s : String) : String :=
  let rec go : List Char → String
    | [] => ""
    | c :: rest =>
      let piece :=
        if c == '\x00' then
          match rest with
          | d :: _ => if d ≥ '0' && d ≤ '7' then "\\x00" else "\\0"
          | [] => "\\0"
        else if c == '\x27' then c.toString
        else Text.debugEscape c
      piece ++ go rest
  "\"" ++ go s.toList ++ "\""

/-- A doc comment at the head: its text, whether it is inner, and the rest. -/
def docCommentText (cs : List Char) : Option (List Char × Bool × List Char) :=
  let inside (s : List Char) := (s.drop 3).take (s.length - 5)
  if startsWith "//!" cs then
    let (s, rest) := untilNewline (cs.drop 3)
    some (s, true, rest)
  else if startsWith "/*!" cs then
    (blockComment cs).map fun (s, rest) => (inside s, true, rest)
  else if startsWith "///" cs then
    if startsWith "////" cs then none
    else
      let (s, rest) := untilNewline (cs.drop 3)
      some (s, false, rest)
  else if startsWith "/**" cs && !startsWith "/***" cs then
    (blockComment cs).map fun (s, rest) => (inside s, false, rest)
  else none

/-- Whether every CR of a text comes before a line feed. -/
def noBareCr : List Char → Bool
  | '\r' :: '\n' :: rest => noBareCr rest
  | '\r' :: _ => false
  | _ :: rest => noBareCr rest
  | [] => true

/-- A doc comment at the head as the tokens of its attribute, and the rest. -/
def docComment (cs : List Char) : Option (List TokenTree × List Char) :=
  match docCommentText cs with
  | none => none
  | some (text, inner, rest) =>
    if !noBareCr text then none
    else
      let attr := TokenTree.group .bracket
        [.ident "doc", .punct '=' false, .literal (stringRepr (String.ofList text))]
      some ((if inner then [.punct '#' false, .punct '!' false] else [.punct '#' false]) ++ [attr], rest)

/-- The token at the head that is not a delimiter: a literal, a mark or an identifier. -/
def leafToken (cs : List Char) : Option (TokenTree × List Char) :=
  match literalEnd cs with
  | some rest => some (.literal (String.ofList (cs.take (cs.length - rest.length))), rest)
  | none =>
    match punctToken cs with
    | some r => some r
    | none => (identToken cs).map fun (s, rest) => (.ident s, rest)

/-- The text a compiler writes in place of code it could not print: read as one literal
token, not as a group. -/
def errorMark : String := "(/*ERROR*/)"

/-- The delimiter a character opens. -/
def opening : Char → Option Delimiter
  | '(' => some .paren
  | '[' => some .bracket
  | '\x7b' => some .brace
  | _ => none

/-- The delimiter a character closes. -/
def closing : Char → Option Delimiter
  | ')' => some .paren
  | ']' => some .bracket
  | '\x7d' => some .brace
  | _ => none

/-- Reads tokens into `acc` (reversed), with the open groups and their outer tokens on `stack`. -/
def lexLoop : Nat → List Char → List (Delimiter × List TokenTree) → List TokenTree →
    Option (List TokenTree)
  | 0, _, _, _ => none
  | n + 1, cs, stack, acc =>
    let cs := skipBlank (cs.length + 1) cs
    match docComment cs with
    | some (toks, rest) => lexLoop n rest stack (toks.reverse ++ acc)
    | none =>
      match cs with
      | [] => if stack.isEmpty then some acc.reverse else none
      | c :: rest =>
        if startsWith errorMark cs then lexLoop n (cs.drop errorMark.length) stack (.literal errorMark :: acc)
        else
          match opening c with
          | some d => lexLoop n rest ((d, acc) :: stack) []
          | none =>
            match closing c with
            | some d =>
              match stack with
              | (d', outer) :: stack' =>
                if d == d' then lexLoop n rest stack' (.group d acc.reverse :: outer) else none
              | [] => none
            | none =>
              match leafToken cs with
              | some (t, rest') => lexLoop n rest' stack (t :: acc)
              | none => none

end Lexer

/-- Reads a text into token trees, after a byte order mark if there is one. -/
def lex (s : String) : Except String (List TokenTree) :=
  let cs := match s.toList with
    | '\uFEFF' :: rest => rest
    | cs => cs
  match Lexer.lexLoop (cs.length + 1) cs [] [] with
  | some ts => .ok ts
  | none => .error lexErrorMessage

end Rust

end ApiSpec
