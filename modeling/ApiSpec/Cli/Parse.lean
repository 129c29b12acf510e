import ApiSpec.Cli.Args
import ApiSpec.Number.Binary64

/-!
# Reading the command line

The words of a command line are read from left to right:

* `--` makes every later word positional;
* `--name` or `--name=value` is a long argument, `-abc` a cluster of short ones, in which an
  option takes the rest of the cluster (after an optional `=`) as its value;
* an option given without a value waits for the next word; any other word is the project
  directory, and a second one is an error.

A value is checked when the next argument starts or the words end, so a missing or wrong value
is reported there. An unknown argument is reported even when the value before it is wrong. An
argument given twice is an error, and so is a missing project directory, checked last. Help and
version stop the reading as soon as they are met.

A message names the arguments as usage lines do, and a message about an unknown or surplus
argument ends with a usage line built from the arguments given so far. A word close to a known
long name, or to a possible value, brings the suggestion of that name: close means a Jaro
similarity above 0.7.
-/

namespace ApiSpec

namespace Cli

/-- What stopped the reading of a command line. -/
inductive ArgsErrorKind where
  | missingRequiredArgument
  | unknownArgument
  | invalidValue
  | argumentConflict
  | tooManyValues
  | displayHelp
  | displayVersion
  deriving DecidableEq, Repr, Inhabited

/-- The name of a kind, as reports give it. -/
def ArgsErrorKind.name : ArgsErrorKind → String
  | .missingRequiredArgument => "MissingRequiredArgument"
  | .unknownArgument => "UnknownArgument"
  | .invalidValue => "InvalidValue"
  | .argumentConflict => "ArgumentConflict"
  | .tooManyValues => "TooManyValues"
  | .displayHelp => "DisplayHelp"
  | .displayVersion => "DisplayVersion"

/-- A failure, or the help or version asked for, with its full text. -/
structure ArgsError where
  kind : ArgsErrorKind
  message : String
  deriving Repr, Inhabited

namespace ArgsError

/-- Whether the text is an answer (help, version) rather than an error. -/
def isAnswer (e : ArgsError) : Bool := e.kind == .displayHelp || e.kind == .displayVersion

/-- The exit status: success for an answer, usage error otherwise. -/
def exitCode (e : ArgsError) : UInt32 := if e.isAnswer then 0 else 2

/-- An error's text: its message, a tip, a usage line, and where to find help. -/
def errorText (body : String) (tip usage : Option String) : String :=
  "error: " ++ body ++ (match tip with
    | some t => "\n\n  tip: " ++ t
    | none => "") ++ (match usage with
    | some u => "\n\nUsage: " ++ u
    | none => "") ++ "\n\nFor more information, try \x27--help\x27.\n"

/-- The line of possible values of an argument that has them. -/
def possibleLine (id : ArgId) : String :=
  if id.spec.possible.isEmpty then "" else "\n  " ++ id.spec.possibleList

/-- An argument given without its value. -/
def emptyValue (id : ArgId) : ArgsError :=
  ⟨.invalidValue, errorText ("a value is required for \x27" ++ id.spec.display ++
    "\x27 but none was supplied" ++ possibleLine id) none none⟩

/-- A value that is not one of the possible ones. -/
def invalidValue (id : ArgId) (v : String) (similar : Option String) : ArgsError :=
  ⟨.invalidValue, errorText ("invalid value \x27" ++ v ++ "\x27 for \x27" ++ id.spec.display ++
    "\x27" ++ possibleLine id) (similar.map fun s => "a similar value exists: \x27" ++ s ++ "\x27") none⟩

/-- An argument given twice. -/
def conflict (id : ArgId) : ArgsError :=
  ⟨.argumentConflict, errorText ("the argument \x27" ++ id.spec.display ++
    "\x27 cannot be used multiple times") none (some fullUsage)⟩

/-- A value given to a flag, with the usage line of the arguments taken so far. -/
def tooManyValues (v : String) (id : ArgId) (usage : String) : ArgsError :=
  ⟨.tooManyValues, errorText ("unexpected value \x27" ++ v ++ "\x27 for \x27" ++ id.spec.display ++
    "\x27 found; no more were expected") none (some usage)⟩

/-- A word that is no argument. -/
def unknown (word : String) (tip : Option String) (usage : String) : ArgsError :=
  ⟨.unknownArgument, errorText ("unexpected argument \x27" ++ word ++ "\x27 found") tip (some usage)⟩

/-- The tip for a word that looks like an argument. -/
def asValueTip (word : String) : String :=
  "to pass \x27" ++ word ++ "\x27 as a value, use \x27-- " ++ word ++ "\x27"

/-- The project directory was not given. -/
def missing (used : List ArgId) : ArgsError :=
  ⟨.missingRequiredArgument, errorText
    "the following required arguments were not provided:\n  <PROJECT_PATH>" none (some (usageFor used))⟩

end ArgsError

/-! ### Similar words -/

/-- Pairs the characters of `a` with those of `b`, as the Jaro similarity does: each
character of `a`, in order, takes the first equal character of `b` not yet taken and at most
`window` places away. The flags tell which characters of each word were taken. -/
def jaroFlags (a b : List Char) (window : Nat) : List Bool × List Bool :=
  let step := fun (acc : List Bool × List Bool × Nat) (c : Char) =>
    let (aFlags, bFlags, i) := acc
    let lo := i - window
    let hi := i + window + 1
    let pick := (List.range b.length).find? fun j =>
      lo ≤ j && j < hi && b[j]? == some c && bFlags[j]? == some false
    match pick with
    | some j => (aFlags ++ [true], bFlags.set j true, i + 1)
    | none => (aFlags ++ [false], bFlags, i + 1)
  let (aFlags, bFlags, _) := a.foldl step ([], List.replicate b.length false, 0)
  (aFlags, bFlags)

/-- The Jaro similarity of two words, computed in binary64 as the similarity search does:
`(m / |a| + m / |b| + (m - t) / m) / 3` for `m` paired characters and `t` transpositions. -/
def jaro (a b : List Char) : Binary64 :=
  if a.isEmpty && b.isEmpty then Binary64.ofNat 1
  else if a.isEmpty || b.isEmpty then Binary64.ofNat 0
  else
    let window := max a.length b.length / 2 - 1
    let (aFlags, bFlags) := jaroFlags a b window
    let aTaken := (a.zip aFlags).filterMap fun (c, f) => if f then some c else none
    let bTaken := (b.zip bFlags).filterMap fun (c, f) => if f then some c else none
    let m := aTaken.length
    if m = 0 then Binary64.ofNat 0
    else
      let t := ((aTaken.zip bTaken).filter fun (x, y) => x != y).length / 2
      let mf := Binary64.ofNat m
      let sum := ((mf.div (Binary64.ofNat a.length)).add (mf.div (Binary64.ofNat b.length))).add
        ((Binary64.ofNat (m - t)).div mf)
      sum.div (Binary64.ofNat 3)

/-- The threshold of similarity, the binary64 nearest `0.7`. -/
def similarityThreshold : Binary64 := Binary64.ofDecimal false 7 (-1)

/-- The candidate most similar to a word, among those more similar than 0.7; of equally
similar ones, the last. -/
def mostSimilar (word : String) (candidates : List String) : Option String :=
  let scored := candidates.filterMap fun c =>
    let s := jaro word.toList c.toList
    if similarityThreshold.lt s then some (c, s) else none
  (scored.foldl (fun best (c, s) => match best with
    | some (_, bs) => if !(s.lt bs) then some (c, s) else best
    | none => some (c, s)) none).map (·.1)

/-! ### The reader -/

/-- How an argument was named. -/
inductive Ident where
  | short
  | long
  | index
  deriving DecidableEq, Repr, Inhabited

/-- An argument whose values are still being gathered. -/
structure Pending where
  id : ArgId
  ident : Ident
  values : List String
  deriving Inhabited

/-- Where the reading stands. -/
structure ParseState where
  /-- The arguments taken so far, in the order taken, with their values. -/
  matched : List (ArgId × List String)
  pending : Option Pending
  /-- Whether the project directory has been given. -/
  positionalDone : Bool
  /-- Whether `--` has been seen. -/
  trailing : Bool
  /-- The option waiting for its value. -/
  awaiting : Option ArgId
  deriving Inhabited

/-- The state before the first word. -/
def ParseState.start : ParseState := ⟨[], none, false, false, none⟩

/-- Reading a command line: a failure keeps the state it left. -/
abbrev ArgsM := EStateM ArgsError ParseState

/-- The argument of a long name. -/
def longArg? (name : String) : Option ArgId :=
  (argSpecs.find? (·.long == some name)).map (·.id)

/-- The argument of a short name. -/
def shortArg? (c : Char) : Option ArgId :=
  (argSpecs.find? (·.short == some c)).map (·.id)

/-- The long names, in order. -/
def longNames : List String := argSpecs.filterMap (·.long)

/-- Checks a value of an argument. -/
def checkValue (id : ArgId) (v : String) : Except ArgsError Unit :=
  match id with
  | .projectPath | .config | .manifest | .output =>
    if v.isEmpty then .error (.emptyValue id) else .ok ()
  | .format =>
    let names := id.spec.possible.map (·.1)
    if names.contains v then .ok ()
    else if v.isEmpty then .error (.emptyValue id)
    else .error (.invalidValue id v (mostSimilar v names))
  | _ => .ok ()

/-- Takes an argument with its values, once no other is pending. -/
def takeArg (ident : Ident) (id : ArgId) (values : List String) : ArgsM Unit := do
  if id.spec.takesValue && values.isEmpty then throw (.emptyValue id)
  if id == .help then throw ⟨.displayHelp, helpText (ident != .short)⟩
  if id == .version then throw ⟨.displayVersion, versionText⟩
  let st ← get
  if st.matched.any (·.1 == id) then
    set { st with matched := st.matched.filter (·.1 != id) }
    throw (.conflict id)
  set { st with matched := st.matched ++ [(id, [])] }
  for v in values do
    match checkValue id v with
    | .error e => throw e
    | .ok () =>
      modify fun st => { st with matched := st.matched.map fun (i, vs) =>
        if i == id then (i, vs ++ [v]) else (i, vs) }

/-- Takes the pending argument, if there is one. -/
def resolvePending : ArgsM Unit := do
  match (← get).pending with
  | none => pure ()
  | some p =>
    modify fun st => { st with pending := none }
    takeArg p.ident p.id p.values

/-- Takes the pending argument, then this one. -/
def react (ident : Ident) (id : ArgId) (values : List String) : ArgsM Unit := do
  resolvePending
  takeArg ident id values

/-- Takes the pending argument, ignoring a failure of it. -/
def settlePending : ArgsM Unit := tryCatch resolvePending fun _ => pure ()

/-- The arguments taken so far. -/
def usedArgs : ArgsM (List ArgId) := do return (← get).matched.map (·.1)

/-- Starts an option that waits for its value. -/
def awaitValue (ident : Ident) (id : ArgId) : ArgsM Unit := do
  resolvePending
  modify fun st => { st with pending := some ⟨id, ident, []⟩, awaiting := some id }

/-- An unknown long name: the suggestion of a similar one, else the tip to pass it as a value. -/
def unknownLong (name : String) : ArgsM Unit := do
  settlePending
  let word := "--" ++ name
  match mostSimilar name longNames with
  | some similar =>
    match longArg? similar with
    | some id =>
      if !((← get).matched.any (·.1 == id)) then
        modify fun st => { st with matched := st.matched ++ [(id, [])] }
    | none => pure ()
    throw (.unknown word (some ("a similar argument exists: \x27--" ++ similar ++ "\x27"))
      (usageFor (← usedArgs)))
  | none => throw (.unknown word (some (ArgsError.asValueTip word)) (usageFor (← usedArgs)))

/-- A long argument, with the value written after `=` if any. -/
def longWord (name : String) (value : Option String) : ArgsM Unit := do
  modify fun st => { st with awaiting := none }
  match longArg? name with
  | none => unknownLong name
  | some id =>
    if id.spec.takesValue then
      match value with
      | some v => react .long id [v]
      | none => awaitValue .long id
    else
      match value with
      | some v =>
        let taken ← usedArgs
        let used := taken.filter (· != .projectPath) ++ [id]
        settlePending
        throw (.tooManyValues v id (if taken.any (·.inGroup) then groupUsageFor used else usageFor used))
      | none => react .long id []

/-- A cluster of short arguments. -/
def shortCluster : List Char → ArgsM Unit
  | [] => pure ()
  | c :: more => do
    match shortArg? c with
    | none =>
      settlePending
      let word := "-" ++ c.toString
      throw (.unknown word (some (ArgsError.asValueTip word)) fullUsage)
    | some id =>
      if !id.spec.takesValue then
        react .short id []
        shortCluster more
      else
        let rest := String.ofList more
        if rest.startsWith "=" then react .short id [String.ofList (more.drop 1)]
        else if rest.isEmpty then awaitValue .short id
        else react .short id [rest]

/-- A word that is a value: of the waiting option, else the project directory. -/
def valueWord (word : String) : ArgsM Unit := do
  let st ← get
  match st.awaiting, st.trailing with
  | some id, false =>
    set { st with awaiting := none, pending := st.pending.map fun (p : Pending) =>
      if p.id == id then { p with values := p.values ++ [word] } else p }
  | _, _ =>
    if !st.positionalDone then
      resolvePending
      let p : Pending := ⟨.projectPath, .index, [word]⟩
      modify fun st => { st with pending := some p, positionalDone := true, awaiting := none }
    else
      settlePending
      throw (.unknown word none fullUsage)

/-- Reads one word. -/
def readWord (word : String) : ArgsM Unit := do
  if (← get).trailing then valueWord word
  else if word == "--" then modify fun st => { st with trailing := true }
  else if word.startsWith "--" then
    let body := (word.toList.drop 2)
    let name := String.ofList (body.takeWhile (· != '='))
    let value := if body.contains '=' then some (String.ofList ((body.dropWhile (· != '=')).drop 1))
      else none
    longWord name value
  else if word.startsWith "-" && word != "-" then
    modify fun st => { st with awaiting := none }
    shortCluster (word.toList.drop 1)
  else valueWord word

/-- Reads the words, then takes what is pending and checks the project directory. -/
def readWords (words : List String) : ArgsM Unit := do
  for w in words do readWord w
  resolvePending
  if !((← get).matched.any (·.1 == .projectPath)) then
    throw (.missing ((← usedArgs) ++ [.projectPath]))

/-- The arguments a finished reading took. -/
def ParseState.toArgs (st : ParseState) : CliArgs :=
  let value := fun (id : ArgId) => (st.matched.find? (·.1 == id)).bind (·.2.head?)
  { projectPath := (value .projectPath).getD ""
    configPath := value .config
    manifestPath := value .manifest
    format := (value .format).bind fun v =>
      if v == "json" then some .json else if v == "yaml" then some .yaml else none
    outputPath := value .output
    title := value .title
    apiVersion := value .apiVersion
    globalPrefix := value .globalPrefix
    verbose := st.matched.any (·.1 == .verbose) }

/-- Reads a command line (the words after the program's name). -/
def parseCommandLine (words : List String) : Except ArgsError CliArgs :=
  match (readWords words).run ParseState.start with
  | .ok () st => .ok st.toArgs
  | .error e _ => .error e

end Cli

end ApiSpec
