import ApiSpec.Cli.Run

/-!
# The program

The command run over the real file system: its operations are the host's, each error of the
host told as the operating system names it. The program prints what the run printed, then
its warnings and any error to standard error, and exits with the run's status.
-/

namespace ApiSpec

namespace Host

/-- The operating system's error behind a failure of the host. -/
def osErrorOf (e : IO.Error) : OsError :=
  match e with
  | .noFileOrDirectory .. => .notFound
  | .alreadyExists .. => .alreadyExists
  | .permissionDenied .. => .permissionDenied
  | .inappropriateType _ code _ =>
    if code == 21 then .isDirectory else if code == 20 then .notDirectory else .other (toString e)
  | _ => .other (toString e)

/-- Runs a host operation, keeping its error. -/
def attempt {α : Type} (x : IO α) : IO (Except OsError α) := do
  try return .ok (← x) catch e => return .error (osErrorOf e)

/-- What the host says a path names. -/
def kindOfType : IO.FS.FileType → EntryKind
  | .dir => .directory
  | .file => .file
  | _ => .other

/-- The real file system. -/
def fileSystem : FileSystem IO where
  kindOf p := attempt do return kindOfType (← (System.mkFilePath [p]).metadata).type
  readText p := attempt (IO.FS.readFile (System.mkFilePath [p]))
  entries p := attempt do
    let es ← (System.mkFilePath [p]).readDir
    es.toList.mapM fun e => do
      let kind ← try pure (kindOfType (← e.path.symlinkMetadata).type) catch _ => pure EntryKind.other
      return (e.fileName, kind)
  makeDir p := attempt (IO.FS.createDir (System.mkFilePath [p]))
  writeText p t := attempt (IO.FS.writeFile (System.mkFilePath [p]) t)

end Host

end ApiSpec

/-- Runs the program on its arguments. -/
def main (args : List String) : IO UInt32 := do
  let r ← ApiSpec.Cli.runProgram ApiSpec.Host.fileSystem args
  let out ← IO.getStdout
  out.putStr r.stdout
  out.flush
  let err ← IO.getStderr
  for line in r.stderr do err.putStrLn line
  return r.code
