import ApiSpec.Text.Words
import ApiSpec.Route.Path

/-!
# Categories

A controller's category is the humanized name of its owning module, or else is read off its
file location by a `PathHeuristic`:

1. the configured source root is cut off, through its first occurrence at a segment boundary;
2. then everything through the first `vN/` segment, or else through the first of the anchors
   `src/modules/`, `src/api/`, `src/` that occurs at a segment boundary;
3. of the remaining segments the file name and the artifact directories (such as
   `controllers`) are dropped, the others are humanized, and each one equal, up to case, blanks,
   `-` and `_`, to the one kept before it is dropped;
4. the rest is joined with ` - `, or is `Uncategorized` when empty.

Cutting through an anchor searches its occurrences from the left; after an occurrence that is
not at a segment boundary the search goes on one byte further, which lands inside a character
when the anchor starts with a character of several bytes: that search fails (`StripFault`).

A configured mapping then replaces categories: an exact key first, then the first key equal up
to case, blanks, `-` and `_`, then the first non-empty such key that starts the category.
-/

namespace ApiSpec

/-- The label of controllers without a category. -/
def uncategorized : String := "Uncategorized"

/-- Directory names that tell the kind of artifact, not its domain. -/
def defaultArtifactDirs : List String := ["controllers", "controller", "handlers", "routes"]

/-- `user-profile` and `user_profile` become `User Profile`: words split at `-`, `_` and
space, each with its first character upper-cased. -/
def humanize (segment : String) : String :=
  " ".intercalate (((Text.splitBy (fun c => c = '-' ∨ c = '_' ∨ c = ' ') segment).filter (· ≠ "")).map
    fun w => match w.toList with
      | [] => ""
      | c :: rest => String.ofList (Text.upperChar c ++ rest))

/-- The category of a module: `AdminPanelModule` becomes `Admin Panel`. -/
def moduleCategory (moduleName : String) : String :=
  Text.titleCase ((Text.stripSuffix? moduleName "Module").getD moduleName)

/-- The form in which categories compare: no white space, `-` or `_`, lower-cased. -/
def normalizeCategory (category : String) : String :=
  String.ofList ((category.toList.filter fun c => !Text.isBlank c && c != '-' && c != '_').flatMap Text.lowerChar)

/-- The search through an anchor stepped into the middle of a character. -/
structure StripFault where
  deriving Repr

/-- Searches `anchor` in `loc` from character `i` on, at most `fuel` times: the text after the
first occurrence at a segment boundary. -/
def stripThroughFrom (anchor : List Char) : Nat → List Char → Nat → Except StripFault (Option (List Char))
  | 0, _, _ => .ok none
  | fuel + 1, loc, i =>
    match Text.findListFrom anchor (loc.drop i) i with
    | none => .ok none
    | some start =>
      if start = 0 ∨ loc[start - 1]? = some '/' then .ok (some (loc.drop (start + anchor.length)))
      else
        match anchor.head? with
        | some c => if c.utf8Size > 1 then .error {} else stripThroughFrom anchor fuel loc (start + 1)
        | none => .ok none

/-- The text after the first occurrence of `anchor` at a segment boundary. -/
def stripThrough (loc anchor : String) : Except StripFault (Option String) :=
  (stripThroughFrom anchor.toList (loc.length + 1) loc.toList 0).map (·.map String.ofList)

/-- The first `vN/` at the start or after a `/`: the text after it. -/
def afterVersionAnchor? (loc : List Char) : Option (List Char) :=
  match versionSegment? loc with
  | some (_, after) => some after
  | none => (findVersion? loc).map (·.2)

/-- Generic source anchors, most specific first. -/
def sourceAnchors : List String := ["src/modules/", "src/api/", "src/"]

/-- Drops each entry equal, in normalized form, to the one kept before it. -/
def collapseDuplicates : List String → List String
  | [] => []
  | s :: rest => s :: collapseAfter s rest
where
  collapseAfter (prev : String) : List String → List String
    | [] => []
    | t :: more =>
      if normalizeCategory prev == normalizeCategory t then collapseAfter prev more
      else t :: collapseAfter t more

/-- Reads categories off file locations. -/
structure PathHeuristic where
  sourceRoot : Option String
  artifactDirs : List String
  deriving Repr, Inhabited

namespace PathHeuristic

/-- A heuristic with a source root (written with `/`, without outer slashes, none if empty). -/
def make (root : Option String) (artifactDirs : List String) : PathHeuristic :=
  ⟨(root.map fun r => Text.trimBy (· == '/') (slashed r)).filter (· ≠ ""), artifactDirs⟩

/-- Whether a segment names an artifact directory, ignoring ASCII case. -/
def isArtifactDir (h : PathHeuristic) (segment : String) : Bool :=
  h.artifactDirs.any fun d => d.toList.map Char.toLower == segment.toList.map Char.toLower

/-- The first anchor the location can be cut through. -/
def throughAnchors (loc : String) : List String → Except StripFault (Option String)
  | [] => .ok none
  | a :: rest =>
    match stripThrough loc a with
    | .ok (some r) => .ok (some r)
    | .ok none => throughAnchors loc rest
    | .error e => .error e

/-- The category of a controller declared at `path`. -/
def infer (h : PathHeuristic) (path : String) : Except StripFault String := do
  let loc := slashed path
  let rooted ← match h.sourceRoot with
    | some root => (stripThrough loc (root ++ "/")).map (·.getD loc)
    | none => pure loc
  let anchored ← match afterVersionAnchor? rooted.toList with
    | some after => pure (String.ofList after)
    | none => (throughAnchors rooted sourceAnchors).map (·.getD rooted)
  let segments := (Text.splitBy (· == '/') anchored).filter (· ≠ "")
  let dirs := segments.dropLast
  let kept := ((dirs.filter fun s => !h.isArtifactDir s).map humanize).filter (· ≠ "")
  let category := " - ".intercalate (collapseDuplicates kept)
  pure (if category.isEmpty then uncategorized else category)

end PathHeuristic

/-- A category mapping, in the order written. -/
abbrev CategoryMapping := List (String × String)

/-- The mapped category: exact key, then normalized key, then normalized key prefix. -/
def CategoryMapping.lookup (mapping : CategoryMapping) (category : String) : Option String :=
  match mapping.find? (·.1 == category) with
  | some (_, v) => some v
  | none =>
    let n := normalizeCategory category
    match mapping.find? (fun (k, _) => normalizeCategory k == n) with
    | some (_, v) => some v
    | none =>
      (mapping.find? fun (k, _) =>
        let nk := normalizeCategory k
        nk ≠ "" && Text.startsWith n nk).map (·.2)

/-- The category after mapping: mapped when a key matches, else unchanged. -/
def CategoryMapping.apply (mapping : CategoryMapping) (category : String) : String :=
  if mapping.isEmpty then category else (mapping.lookup category).getD category

/-- Inserts into a sorted list of distinct strings. -/
def insertSorted (s : String) : List String → List String
  | [] => [s]
  | t :: rest => if s == t then t :: rest else if s < t then s :: t :: rest else t :: insertSorted s rest

/-- Sorted distinct non-empty categories. -/
def sortedCategories (categories : List String) : List String :=
  (categories.filter (· ≠ "")).foldl (fun acc c => insertSorted c acc) []

/-- Names grouped by category, categories sorted, an empty category counted as
`Uncategorized`; names keep their order within a group. -/
def groupByCategory (items : List (String × String)) : List (String × List String) :=
  let key := fun (c : String) => if c.isEmpty then uncategorized else c
  let keys := (items.map fun (_, c) => key c).foldl (fun acc c => insertSorted c acc) []
  keys.map fun k => (k, (items.filter fun (_, c) => key c == k).map (·.1))

end ApiSpec
