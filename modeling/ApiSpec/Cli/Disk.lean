import ApiSpec.Cli.Host

/-!
# A directory tree in memory

A `Disk` is a tree of files and directories below a top directory, which stands for the
working directory of a command. A path is followed piece by piece, as a kernel does:

* every piece but the last must lead to a directory (a file there is `notDirectory`, nothing
  there is `notFound`); an empty piece and `.` stay, `..` goes up;
* a relative path starts at the top; an absolute one starts above it, in the part of the
  world the disk does not hold: directories there are known to exist, nothing below them.

Reading a directory as a file is `isDirectory`; making a directory where something is, is
`alreadyExists`; writing to a directory, or to a path ending in `/`, is `isDirectory`.
-/

namespace ApiSpec

/-- What a place of the tree holds. -/
inductive Entry where
  | file (text : String)
  | directory
  deriving DecidableEq, Repr, Inhabited

/-- A directory tree: each place, by its names from the top, with what it holds. The top
itself is a directory. -/
structure Disk where
  places : List (List String × Entry)
  deriving Repr, Inhabited

/-- Where a path leads. -/
inductive Location where
  /-- A place of the tree. -/
  | inside (names : List String)
  /-- A directory above the tree, whose entries are not known. -/
  | above
  /-- Something below a directory above the tree: it is not there. -/
  | unknown
  deriving DecidableEq, Repr, Inhabited

namespace Location

/-- The location one level up. -/
def up : Location → Location
  | .inside [] => .above
  | .inside names => .inside names.dropLast
  | _ => .above

/-- The location of a name inside a directory. -/
def child (loc : Location) (name : String) : Location :=
  match loc with
  | .inside names => .inside (names ++ [name])
  | _ => .unknown

end Location

namespace Disk

/-- A disk with nothing in it. -/
def empty : Disk := ⟨[]⟩

/-- What a location holds. -/
def at? (d : Disk) : Location → Option Entry
  | .inside [] => some .directory
  | .inside names => (d.places.find? (·.1 == names)).map (·.2)
  | .above => some .directory
  | .unknown => none

/-- Puts an entry at a place, replacing what was there. -/
def put (d : Disk) (names : List String) (e : Entry) : Disk :=
  ⟨(d.places.filter (·.1 != names)) ++ [(names, e)]⟩

/-- Puts a directory at a place and at each place above it that holds nothing. -/
def putDirs (d : Disk) (names : List String) : Disk :=
  ((List.range names.length).map fun i => names.take (i + 1)).foldl
    (fun acc p => if (acc.at? (.inside p)).isSome then acc else acc.put p .directory) d

/-- Puts a file at a place, with the directories above it. -/
def putFile (d : Disk) (names : List String) (text : String) : Disk :=
  (d.putDirs names.dropLast).put names (.file text)

/-- Follows pieces of a path from a location: each piece is looked up inside what the
location holds, which must be a directory. -/
def follow (d : Disk) : Location → List (List Char) → Except OsError Location
  | loc, [] => .ok loc
  | loc, p :: rest =>
    match d.at? loc with
    | none => .error .notFound
    | some (.file _) => .error .notDirectory
    | some .directory =>
      let next :=
        if p.isEmpty || p == ['.'] then loc
        else if p == ['.', '.'] then loc.up
        else loc.child (String.ofList p)
      follow d next rest

/-- Where a path leads. -/
def resolve (d : Disk) (path : String) : Except OsError Location :=
  let cs := path.toList
  match cs with
  | '/' :: rest => d.follow .above (PathText.pieces rest)
  | _ => if cs.isEmpty then .error .notFound else d.follow (.inside []) (PathText.pieces cs)

/-- The path without the separators that end it (a path of separators only stays). -/
def withoutTrailingSlash (path : String) : String :=
  let cs := (path.toList.reverse.dropWhile (· == '/')).reverse
  if cs.isEmpty then path else String.ofList cs

/-- What a path names. -/
def kindOf (d : Disk) (path : String) : Except OsError EntryKind := do
  match d.at? (← d.resolve path) with
  | none => .error .notFound
  | some (.file _) => .ok .file
  | some .directory => .ok .directory

/-- The text of a file. -/
def readText (d : Disk) (path : String) : Except OsError String := do
  match d.at? (← d.resolve path) with
  | none => .error .notFound
  | some (.file t) => .ok t
  | some .directory => .error .isDirectory

/-- The entries of a directory, with what each names. -/
def entries (d : Disk) (path : String) : Except OsError (List (String × EntryKind)) := do
  let loc ← d.resolve path
  match d.at? loc with
  | none => .error .notFound
  | some (.file _) => .error .notDirectory
  | some .directory =>
    match loc with
    | .inside names =>
      .ok (d.places.filterMap fun (p, e) =>
        if p.dropLast == names && p.length == names.length + 1 then
          p.getLast?.map fun n => (n, match e with
            | .file _ => EntryKind.file
            | .directory => .directory)
        else none)
    | _ => .ok []

/-- Makes a directory. -/
def makeDir (d : Disk) (path : String) : Except OsError Disk := do
  let loc ← d.resolve (withoutTrailingSlash path)
  match d.at? loc with
  | some _ => .error .alreadyExists
  | none =>
    match loc with
    | .inside names => .ok (d.put names .directory)
    | _ => .error .permissionDenied

/-- Writes a file. -/
def writeText (d : Disk) (path : String) (text : String) : Except OsError Disk := do
  let loc ← d.resolve (withoutTrailingSlash path)
  match d.at? loc with
  | some .directory => .error .isDirectory
  | some (.file _) =>
    if path.endsWith "/" then .error .notDirectory
    else match loc with
      | .inside names => .ok (d.put names (.file text))
      | _ => .error .permissionDenied
  | none =>
    if path.endsWith "/" then .error .isDirectory
    else match loc with
      | .inside names => .ok (d.put names (.file text))
      | _ => .error .permissionDenied

/-- The disk as the file system of a command whose state it is. -/
def fileSystem : FileSystem (StateM Disk) where
  kindOf p := do return (← get).kindOf p
  readText p := do return (← get).readText p
  entries p := do return (← get).entries p
  makeDir p := do
    match (← get).makeDir p with
    | .ok d => set d; return .ok ()
    | .error e => return .error e
  writeText p t := do
    match (← get).writeText p t with
    | .ok d => set d; return .ok ()
    | .error e => return .error e

/-- The files of a disk, by their paths, in path order. -/
def files (d : Disk) : List (String × String) :=
  (d.places.filterMap fun (p, e) => match e with
    | .file t => some ("/".intercalate p, t)
    | .directory => none).mergeSort fun a b => decide (a.1 ≤ b.1)

/-- The files of `after` that `before` did not hold with the same text, in path order. -/
def written (before after : Disk) : List (String × String) :=
  after.files.filter fun (p, t) => !(before.files.contains (p, t))

end Disk

end ApiSpec
