/-!
# Paths as text

A path is the text the user wrote, and messages show it as written. Its meaning is read off
the text the usual way for Unix paths:

* a leading `/` is the root; a relative path that starts with `.` followed by `/` (or is `.`)
  starts at the current directory;
* after that come pieces between separators; an empty piece (`a//b`) and a `.` piece say
  nothing, `..` is the parent, and any other piece is a name.

The parent of a path is the text before its last component, without the separators and `.`
pieces that end it; the extension is the part of the last name after its last dot, unless the
name is `..` or its only dot starts it.
-/

namespace ApiSpec

namespace PathText

/-- A component of a path. -/
inductive Component where
  | root
  | current
  | parent
  | normal (name : String)
  deriving DecidableEq, Repr, Inhabited

/-- How many characters stand before the pieces: the root, or the leading `.` of a relative
path. -/
def leadLength : List Char → Nat
  | '/' :: _ => 1
  | ['.'] => 1
  | '.' :: '/' :: _ => 1
  | _ => 0

/-- The component a leading part stands for. -/
def leadComponent : List Char → Option Component
  | '/' :: _ => some .root
  | ['.'] => some .current
  | '.' :: '/' :: _ => some .current
  | _ => none

/-- The pieces of a text between separators, in order. -/
def pieces (cs : List Char) : List (List Char) :=
  (cs.foldr (fun c acc =>
    if c = '/' then [] :: acc
    else match acc with
      | p :: rest => (c :: p) :: rest
      | [] => [[c]]) [[]])

/-- What a piece says: nothing for an empty piece or `.`. -/
def pieceComponent (p : List Char) : Option Component :=
  if p.isEmpty || p == ['.'] then none
  else if p == ['.', '.'] then some .parent
  else some (.normal (String.ofList p))

/-- The pieces of the part after the lead. -/
def bodyPieces (cs : List Char) : List (List Char) :=
  let body := cs.drop (leadLength cs)
  if body.isEmpty then [] else pieces body

/-- The components of a path, in order. -/
def components (s : String) : List Component :=
  let cs := s.toList
  (leadComponent cs).toList ++ (bodyPieces cs).filterMap pieceComponent

/-- Drops the pieces that say nothing from the end. -/
def trimEnd (ps : List (List Char)) : List (List Char) :=
  (ps.reverse.dropWhile fun p => (pieceComponent p).isNone).reverse

/-- The last component and the pieces before it, looking back from the end. -/
def popLast (ps : List (List Char)) : Option (List (List Char) × Component) :=
  match (trimEnd ps).reverse with
  | p :: before =>
    match pieceComponent p with
    | some c => some (before.reverse, c)
    | none => none
  | [] => none

/-- The text of a lead and pieces. -/
def render (lead : List Char) (ps : List (List Char)) : String :=
  String.ofList lead ++ "/".intercalate (ps.map String.ofList)

/-- The last component of a path, if it has one. -/
def last? (s : String) : Option Component :=
  let cs := s.toList
  match popLast (bodyPieces cs) with
  | some (_, c) => some c
  | none => leadComponent cs

/-- The parent of a path: none for the root and for the empty path. -/
def parent? (s : String) : Option String :=
  let cs := s.toList
  let lead := cs.take (leadLength cs)
  match popLast (bodyPieces cs) with
  | some (before, _) =>
    let kept := trimEnd before
    some (render lead kept)
  | none =>
    match leadComponent cs with
    | some .current => some ""
    | _ => none

/-- The last name of a path, if its last component is a name. -/
def fileName? (s : String) : Option String :=
  match last? s with
  | some (.normal n) => some n
  | _ => none

/-- The extension of a name: after its last dot, unless the name is `..` or its only dot is
its first character. -/
def nameExtension? (name : String) : Option String :=
  if name == ".." then none
  else
    let cs := name.toList
    let after := (cs.reverse.takeWhile (· != '.')).reverse
    if after.length = cs.length then none
    else if after.length + 1 = cs.length then none
    else some (String.ofList after)

/-- The extension of a path's last name. -/
def extension? (s : String) : Option String := (fileName? s).bind nameExtension?

/-- A name joined onto a path: a separator goes between them unless the path is empty or
already ends with one; an absolute name replaces the path. -/
def join (base name : String) : String :=
  if name.startsWith "/" then name
  else if base.isEmpty || base.endsWith "/" then base ++ name
  else base ++ "/" ++ name

/-- The rest of a path after the components of `base`, when they start it: the text after
those components, without the separators and `.` pieces around it. -/
def stripPrefix? (s base : String) : Option String :=
  let cs := s.toList
  let mine := components s
  let theirs := components base
  if theirs.isPrefixOf mine then
    let leadCount := (leadComponent cs).toList.length
    let bodyTaken := theirs.length - leadCount
    let rec dropNamed : Nat → List (List Char) → List (List Char)
      | 0, ps => ps
      | n + 1, p :: ps => if (pieceComponent p).isSome then dropNamed n ps else dropNamed (n + 1) ps
      | _ + 1, [] => []
    let rest := dropNamed bodyTaken (bodyPieces cs)
    let rest := trimEnd (rest.dropWhile fun p => (pieceComponent p).isNone)
    some ("/".intercalate (rest.map String.ofList))
  else none

end PathText

end ApiSpec
