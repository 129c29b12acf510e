import ApiSpec.Cli.PathText

/-!
# The file system a command sees

The command reads and writes files through a `FileSystem`: a record of operations in some
monad, each naming a path by its text. A test runs it over a directory tree held in memory;
the program runs it over the real one.

Two procedures are built from the operations:

* `createDirAll` makes a directory and the missing ones above it: it tries the directory,
  goes up only when what is missing is the parent, and accepts a directory that is already
  there;
* `walk` lists a tree depth first, each directory's entries sorted by name, and skips the
  directories a filter refuses with all under them (the starting directory is always entered).
-/

namespace ApiSpec

/-- An error of the operating system. -/
inductive OsError where
  | notFound
  | isDirectory
  | notDirectory
  | alreadyExists
  | permissionDenied
  | other (message : String)
  deriving DecidableEq, Repr, Inhabited

/-- The message of an error, with its number. -/
def OsError.message : OsError → String
  | .notFound => "No such file or directory (os error 2)"
  | .isDirectory => "Is a directory (os error 21)"
  | .notDirectory => "Not a directory (os error 20)"
  | .alreadyExists => "File exists (os error 17)"
  | .permissionDenied => "Permission denied (os error 13)"
  | .other m => m

/-- What a path names. -/
inductive EntryKind where
  | file
  | directory
  | other
  deriving DecidableEq, Repr, Inhabited

/-- The file operations a command needs, in a monad `m`. -/
structure FileSystem (m : Type → Type) where
  /-- What a path names, following links. -/
  kindOf : String → m (Except OsError EntryKind)
  /-- The text of a file. -/
  readText : String → m (Except OsError String)
  /-- The entries of a directory: each name with what it names, not following links. -/
  entries : String → m (Except OsError (List (String × EntryKind)))
  /-- Makes one directory. -/
  makeDir : String → m (Except OsError Unit)
  /-- Writes a file, making it or emptying it first. -/
  writeText : String → String → m (Except OsError Unit)

namespace FileSystem

variable {m : Type → Type} [Monad m]

/-- Whether a path names a directory. -/
def isDir (fs : FileSystem m) (p : String) : m Bool := do
  return match ← fs.kindOf p with
    | .ok .directory => true
    | _ => false

/-- Whether a path names a file. -/
def isFile (fs : FileSystem m) (p : String) : m Bool := do
  return match ← fs.kindOf p with
    | .ok .file => true
    | _ => false

/-- The message when no directory above a path could be made. -/
def wholeTree : OsError := .other "failed to create whole tree"

/-- Makes a directory and the missing ones above it, going up at most `fuel` levels. -/
def createDirAll (fs : FileSystem m) : Nat → String → m (Except OsError Unit)
  | 0, _ => pure (.error wholeTree)
  | fuel + 1, p => do
    if p.isEmpty then return .ok ()
    match ← fs.makeDir p with
    | .ok () => return .ok ()
    | .error e =>
      if e != .notFound then
        if ← fs.isDir p then return .ok () else return .error e
      match PathText.parent? p with
      | none => return .error wholeTree
      | some q =>
        match ← createDirAll fs fuel q with
        | .error e => return .error e
        | .ok () =>
          match ← fs.makeDir p with
          | .ok () => return .ok ()
          | .error e => if ← fs.isDir p then return .ok () else return .error e

/-- An entry met by a walk, or the error of a directory it could not list. -/
inductive Visit where
  | entry (path : String)
  | failed (path : String) (error : OsError)
  deriving Repr, Inhabited

mutual

/-- The visits of a directory's entries, depth first, at most `fuel` levels down. A directory
that `keep` refuses (by name) is skipped, with everything under it. -/
def walkDir (fs : FileSystem m) (keep : String → Bool) : Nat → String → m (List Visit)
  | 0, _ => pure []
  | fuel + 1, dir => do
    match ← fs.entries dir with
    | .error e => return [.failed dir e]
    | .ok es =>
      let sorted := es.mergeSort fun a b => decide (a.1 ≤ b.1)
      walkEntries fs keep fuel dir sorted

/-- The visits of the given entries of a directory and of what is under them. -/
def walkEntries (fs : FileSystem m) (keep : String → Bool) (fuel : Nat) (dir : String) :
    List (String × EntryKind) → m (List Visit)
  | [] => pure []
  | (name, kind) :: rest => do
    let path := PathText.join dir name
    let below ← if kind == .directory then
        if keep name then walkDir fs keep fuel path else pure []
      else pure []
    let later ← walkEntries fs keep fuel dir rest
    return if kind == .directory && !keep name then later else .entry path :: below ++ later

end

/-- The visits of a walk from a directory: the directory itself first. -/
def walk (fs : FileSystem m) (keep : String → Bool) (fuel : Nat) (root : String) : m (List Visit) := do
  return .entry root :: (← walkDir fs keep fuel root)

end FileSystem

end ApiSpec
