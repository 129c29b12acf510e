import ApiSpec.Text.Basic
import ApiSpec.Text.Letter

/-!
# Route paths

`combinePaths` joins path segments with one `/` between the non-empty ones: each segment is
trimmed of white space and then of slashes, empty ones are dropped, and the result starts with
`/` (the root path when nothing is left). `convertPathFormat` rewrites each `:name` segment
(with a non-empty name) into the `{name}` form of a path template. `inferVersion` finds the
first `/vN/` segment of a location (`N` decimal digits of any script), after writing `\` as
`/` and putting a `/` in front.
-/

namespace ApiSpec

/-- One segment as it enters a path: trimmed of white space, then of slashes. -/
def pathPart (segment : String) : String := Text.trimBy (· == '/') (Text.trim segment)

/-- Joins segments into a path. -/
def combinePaths (segments : List String) : String :=
  "/" ++ "/".intercalate ((segments.map pathPart).filter (· ≠ ""))

/-- One segment of a template: `:name` becomes `{name}`. -/
def templateSegment (segment : String) : String :=
  match segment.toList with
  | ':' :: name@(_ :: _) => "\x7b" ++ String.ofList name ++ "\x7d"
  | _ => segment

/-- Rewrites `:name` segments into `{name}`. -/
def convertPathFormat (path : String) : String :=
  "/".intercalate ((Text.splitBy (· == '/') path).map templateSegment)

/-- `v`, decimal digits and `/` at the start: the version text and the text after the `/`. -/
def versionSegment? : List Char → Option (List Char × List Char)
  | 'v' :: rest =>
    let ds := rest.takeWhile Text.isDecimalDigit
    match rest.dropWhile Text.isDecimalDigit with
    | '/' :: after => if ds.isEmpty then none else some ('v' :: ds, after)
    | _ => none
  | _ => none

/-- The first `/vN/` of a character list: the version text and the text after it. -/
def findVersion? : List Char → Option (List Char × List Char)
  | [] => none
  | c :: rest =>
    match (if c = '/' then versionSegment? rest else none) with
    | some r => some r
    | none => findVersion? rest

/-- A location with `\` written as `/`. -/
def slashed (location : String) : String := String.ofList (location.toList.map fun c => if c = '\\' then '/' else c)

/-- The version of a source location: its first `/vN/` segment. -/
def inferVersion (location : String) : Option String :=
  (findVersion? ('/' :: (slashed location).toList)).map fun (v, _) => String.ofList v

end ApiSpec
