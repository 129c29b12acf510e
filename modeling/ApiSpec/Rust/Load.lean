import ApiSpec.Rust.Parse.File
import ApiSpec.Source.Basic
import ApiSpec.Role
import ApiSpec.Log
import ApiSpec.Text.Words
import ApiSpec.Text.Case
import ApiSpec.Text.Basic

/-!
# From Rust files to a source model

Each parsed file becomes a unit. Walking its items, each before the items declared inside it
(in modules, function bodies, traits, attribute values, types, ...; not in `impl` blocks, nor
in items kept as text):

* a struct becomes a class: its doc comment, annotations, type parameters and, for named
  fields, properties. A struct with an attribute playing the module role also declares a
  module, whose controllers are read from `controllers = [...]` or `controllers(...)`;
* an enum becomes an enumeration: unit variants give values, variants with one unnamed field
  give member types;
* an inherent `impl` block gives methods (its functions with bodies) and annotations to merge.

After all files, each `impl` block is merged into the first class of its name, looked for in
its own unit, then in a unit of the same directory, then in any unit; without one, a class
of its own is added to its unit.

Attributes named `doc`, `derive`, `serde`, `allow`, `warn`, `deny`, `cfg`, `cfg_attr`,
`inline`, `must_use`, `non_exhaustive` and `repr` are not annotations. The arguments of an
annotation are its list's expressions (string literals by value, others printed); a list that
is not expressions is kept as one printed argument.

`serde` attributes rename fields and unit variants (`rename`, or a `rename_all` rule of the
container), skip them (`skip`, `skip_serializing`), and mark defaults (`default`). They are read
from the printed tokens of the attribute's list, as patterns over the text.
-/

namespace ApiSpec

namespace Rust

/-! ### Patterns over attribute text -/

/-- Skips white space. -/
def skipSpace (cs : List Char) : List Char := cs.dropWhile Text.isBlank

/-- The text after the word `w`, when it comes first. -/
def afterWord (w : String) (cs : List Char) : Option (List Char) :=
  if w.toList.isPrefixOf cs then some (cs.drop w.length) else none

/-- The starts of a pattern anchored at the beginning or after a comma, in order. -/
def commaStarts (cs : List Char) : List (List Char) :=
  cs :: go cs
where
  /-- The texts after each comma. -/
  go : List Char → List (List Char)
    | [] => []
    | c :: rest => if c == ',' then rest :: go rest else go rest

/-- The suffixes of a text, longest first. -/
def suffixes : List Char → List (List Char)
  | [] => [[]]
  | c :: rest => (c :: rest) :: suffixes rest

/-- `key\s*=\s*"([^"]*)"` at the start of a text: the quoted value. -/
def quotedValue (key : String) (cs : List Char) : Option String := do
  let r ← afterWord key cs
  let r ← afterWord "=" (skipSpace r)
  match skipSpace r with
  | '"' :: body =>
    let value := body.takeWhile (· != '"')
    if (body.dropWhile (· != '"')).isEmpty then none else some (String.ofList value)
  | _ => none

/-- The value of `rename = "..."` at the start of the text or after a comma. -/
def renameValue (s : String) : Option String :=
  (commaStarts s.toList).findSome? fun start => quotedValue "rename" (skipSpace start)

/-- The value of `rename_all = "..."` anywhere in the text. -/
def renameAllValue (s : String) : Option String :=
  (suffixes s.toList).findSome? (quotedValue "rename_all")

/-- Whether a comma or the end follows after white space. -/
def flagEnds (cs : List Char) (alsoEq : Bool) : Bool :=
  match skipSpace cs with
  | [] => true
  | c :: _ => c == ',' || (alsoEq && c == '=')

/-- Whether the text has `skip` or `skip_serializing` as one entry. -/
def hasSkip (s : String) : Bool :=
  (commaStarts s.toList).any fun start =>
    match afterWord "skip" (skipSpace start) with
    | some r =>
      (match afterWord "_serializing" r with
        | some r' => flagEnds r' false
        | none => false) || flagEnds r false
    | none => false

/-- Whether the text has `default` as one entry (or `default = ...`). -/
def hasDefault (s : String) : Bool :=
  (commaStarts s.toList).any fun start =>
    match afterWord "default" (skipSpace start) with
    | some r => flagEnds r true
    | none => false

/-- The list after `controllers = [` or `controllers(`, up to a closing bracket. -/
def controllersList (s : String) : Option String :=
  (suffixes s.toList).findSome? fun start => do
    let r ← afterWord "controllers" start
    let r := skipSpace r
    let body ← match r with
      | '=' :: rest =>
        match skipSpace rest with
        | '[' :: b => some b
        | _ => none
      | '(' :: b => some b
      | _ => none
    return String.ofList (body.takeWhile fun c => c != ']' && c != ')')

/-! ### Serde attributes -/

/-- What `serde` attributes say about a container, field or variant. -/
structure SerdeAttrs where
  rename : Option String
  renameAll : Option String
  skip : Bool
  default : Bool
  deriving Inhabited

/-- Adds what one attribute says, when it is a `serde` list; a later rename overrides. -/
def SerdeAttrs.absorb (acc : SerdeAttrs) (a : Attribute) : SerdeAttrs :=
  if !a.isNamed "serde" then acc
  else match a.content with
    | .list tokens =>
      let text := renderStream tokens
      { rename := (renameValue text).orElse fun _ => acc.rename
        renameAll := (renameAllValue text).orElse fun _ => acc.renameAll
        skip := acc.skip || hasSkip text
        default := acc.default || hasDefault text }
    | _ => acc

/-- The `serde` attributes among `attrs`, later ones overriding earlier renames. -/
def SerdeAttrs.ofAttrs (attrs : List Attribute) : SerdeAttrs :=
  attrs.foldl SerdeAttrs.absorb ⟨none, none, false, false⟩

/-- A name under a `rename_all` rule; an unknown rule keeps the name, with a warning. -/
def applyRenameAll (name : String) : Option String → String × List Notice
  | none => (name, [])
  | some "lowercase" => (Text.lower name, [])
  | some "UPPERCASE" => (Text.upper name, [])
  | some "camelCase" => (Text.camelCase name, [])
  | some "PascalCase" => (Text.pascalCase name, [])
  | some "snake_case" => (Text.snakeCase name, [])
  | some "SCREAMING_SNAKE_CASE" => (Text.shoutySnakeCase name, [])
  | some "kebab-case" => (Text.kebabCase name, [])
  | some "SCREAMING-KEBAB-CASE" => (Text.shoutyKebabCase name, [])
  | some other => (name, [.unknownRenameRule other])

/-! ### Docs and annotations -/

/-- The attributes that are never annotations. -/
def plumbingAttributes : List String :=
  ["doc", "derive", "serde", "allow", "warn", "deny", "cfg", "cfg_attr", "inline", "must_use",
   "non_exhaustive", "repr"]

/-- The doc comment of `attrs`: its lines trimmed and joined, when not blank. -/
def docText (attrs : List Attribute) : Option String :=
  let lines := attrs.filterMap fun a =>
    if !a.isNamed "doc" then none
    else match a.content with
      | .nameValue (.str s) => some (Text.trim s)
      | _ => none
  let text := Text.trim ("\n".intercalate lines)
  if text.isEmpty then none else some text

/-- An annotation argument from a value. -/
def MetaValue.toArg : MetaValue → AnnotationArg
  | .str s => .literal s
  | .text t => .expr t

/-- The arguments of an attribute. -/
def annotationArgs (a : Attribute) : List AnnotationArg :=
  match a.content with
  | .path => []
  | .nameValue v => [v.toArg]
  | .list tokens =>
    match attributeArgs tokens with
    | .ok vs => vs.map MetaValue.toArg
    | .error _ =>
      let raw := renderStream tokens
      if Text.trim raw == "" then [] else [.expr raw]

/-- The annotations among `attrs`. -/
def annotationsOf (attrs : List Attribute) : List Annotation :=
  attrs.filterMap fun a =>
    match a.path.getLast? with
    | some name => if plumbingAttributes.contains name then none else some ⟨name, annotationArgs a⟩
    | none => none

/-! ### Types and patterns -/

mutual

/-- The type expression of a type. -/
def Ty.toTypeExpr : Ty → TypeExpr
  | .path _ p => p.toTypeExpr
  | .reference e => e.toTypeExpr
  | .slice e => .array e.toTypeExpr
  | .array e => .array e.toTypeExpr
  | .tuple es => .tuple (tyListExpr es)
  | .paren e => e.toTypeExpr
  | .traitObject _ bs _ text => (boundsExpr bs).getD (.unknown text)
  | .implTrait bs text => (boundsExpr bs).getD (.unknown text)
  | .other text => .unknown text

/-- The type expressions of types. -/
def tyListExpr : List Ty → List TypeExpr
  | [] => []
  | t :: rest => t.toTypeExpr :: tyListExpr rest

/-- The type expression of a path: its last segment. -/
def Path.toTypeExpr : Path → TypeExpr
  | .mk _ segs => (lastSegmentExpr segs).getD (.unknown "")

/-- The type expression of the last of some segments. -/
def lastSegmentExpr : List Segment → Option TypeExpr
  | [] => none
  | [s] => some s.toTypeExpr
  | _ :: rest => lastSegmentExpr rest

/-- The type expression of a segment: its name and its type arguments. -/
def Segment.toTypeExpr : Segment → TypeExpr
  | .mk name args => .named name args.typeArgs

/-- The type arguments of a segment: types and associated types. -/
def PathArgs.typeArgs : PathArgs → List TypeExpr
  | .angle args => genericArgsExpr args
  | _ => []

/-- The type expressions of generic arguments that are types. -/
def genericArgsExpr : List GenericArg → List TypeExpr
  | [] => []
  | a :: rest => a.typeExpr? ++ genericArgsExpr rest

/-- The type expression of a generic argument that is a type. -/
def GenericArg.typeExpr? : GenericArg → List TypeExpr
  | .type t => [t.toTypeExpr]
  | .assocType t => [t.toTypeExpr]
  | .other => []

/-- The path of the first trait bound. -/
def boundsExpr : List Bound → Option TypeExpr
  | [] => none
  | b :: rest => b.traitExpr?.orElse fun _ => boundsExpr rest

/-- The type expression of a trait bound. -/
def Bound.traitExpr? : Bound → Option TypeExpr
  | .trait p => some p.toTypeExpr
  | _ => none

end

/-- The name of a path type: its last segment. -/
def Ty.name? : Ty → Option String
  | .path _ p => p.segments.getLast?.map (·.ident)
  | _ => none

/-- Whether a type is an `Option`. -/
def Ty.isOption (t : Ty) : Bool := t.name? == some "Option"

/-- The binding name of a parameter pattern; in `Path(id)` the inner binding. -/
def Pat.bindingName : Pat → Option String
  | .ident n => some n
  | .tupleStruct ps => firstBinding ps
  | .struct ps => firstBinding ps
  | .reference p => p.bindingName
  | .typed p => p.bindingName
  | _ => none
where
  /-- The first binding name among patterns. -/
  firstBinding : List Pat → Option String
    | [] => none
    | p :: more => p.bindingName.orElse fun _ => firstBinding more

/-! ### Declarations -/

/-- The property of a named field, unless serde skips it. -/
def propertyOf (name : String) (f : Field) (renameAll : Option String) :
    Option PropertyDecl × List Notice :=
  let serde := SerdeAttrs.ofAttrs f.attrs
  if serde.skip then (none, [])
  else
    let (shown, notes) := match serde.rename with
      | some r => (r, [])
      | none => applyRenameAll name renameAll
    let prop : PropertyDecl :=
      { name := shown, type := f.ty.toTypeExpr, optional := f.ty.isOption,
        hasDefault := serde.default, docs := docText f.attrs, annotations := annotationsOf f.attrs }
    (some prop, notes)

/-- The method of a function in an `impl` block; an unnamed parameter is `arg<position>`. -/
def ImplFn.toMethod (f : ImplFn) : MethodDecl :=
  let params := (List.range f.inputs.length).zip f.inputs |>.filterMap fun (i, input) =>
    match input with
    | .receiver => none
    | .typed attrs pat ty =>
      let param : ParamDecl :=
        { name := pat.bindingName.getD ("arg" ++ toString i), type := ty.toTypeExpr,
          optional := ty.isOption, annotations := annotationsOf attrs }
      some param
  { name := f.name, docs := docText f.attrs, annotations := annotationsOf f.attrs, params,
    returns := f.output.map Ty.toTypeExpr }

/-- The module a struct declares, when one of its attributes plays the module role. -/
def moduleOf (c : Classifier) (name : String) (attrs : List Attribute) : Option ModuleDecl :=
  (attrs.find? fun a => match a.path.getLast? with
    | some n => c.plays n .module
    | none => false).map fun a =>
    let tokens := match a.content with
      | .list ts => renderStream ts
      | _ => ""
    let controllers := match controllersList tokens with
      | some list =>
        (Text.splitOn "," list).filterMap fun item =>
          let last := ((Text.splitOn "::" item).getLast?.map Text.trim).getD ""
          if last.isEmpty then none else some last
      | none => []
    ⟨name, controllers⟩

/-! ### Walking a file -/

/-- The methods and annotations of an inherent `impl` block. -/
structure ImplBlock where
  selfTy : String
  annotations : List Annotation
  methods : List MethodDecl
  deriving Inhabited

/-- What the walk of one file collects. -/
structure Collected where
  classes : List ClassDecl
  enums : List EnumDecl
  modules : List ModuleDecl
  impls : List ImplBlock
  notices : List Notice
  deriving Inhabited

/-- Nothing collected. -/
def Collected.empty : Collected := ⟨[], [], [], [], []⟩

/-- The properties of named fields, in order, with the warnings their names raise. -/
def fieldProperties (renameAll : Option String) : List Field → List PropertyDecl × List Notice
  | [] => ([], [])
  | f :: more =>
    let (ps, ns) := fieldProperties renameAll more
    match f.name with
    | some n =>
      let (p, notes) := propertyOf n f renameAll
      (p.toList ++ ps, notes ++ ns)
    | none => (ps, ns)

/-- Collects a struct. -/
def Collected.addStruct (c : Classifier) (acc : Collected) (attrs : List Attribute) (name : String)
    (params : List String) (fields : Fields) : Collected :=
  let container := SerdeAttrs.ofAttrs attrs
  let (props, notes) := match fields with
    | .named fs => fieldProperties container.renameAll fs
    | _ => ([], [])
  let modules := acc.modules ++ (moduleOf c name attrs).toList
  let cls : ClassDecl :=
    { name, docs := docText attrs, annotations := annotationsOf attrs, typeParams := params,
      properties := props, methods := [] }
  { acc with classes := acc.classes ++ [cls], modules, notices := acc.notices ++ notes }

/-- The values of unit variants and the member types of one-field variants, in order, with
the warnings the values' names raise. Variants that serde skips are left out. -/
def variantEntries (renameAll : Option String) :
    List Variant → List String × List TypeExpr × List Notice
  | [] => ([], [], [])
  | v :: more =>
    let (vs, ms, ns) := variantEntries renameAll more
    let serde := SerdeAttrs.ofAttrs v.attrs
    if serde.skip then (vs, ms, ns)
    else match v.fields with
      | .unit =>
        let (value, notes) := match serde.rename with
          | some r => (r, [])
          | none => applyRenameAll v.name renameAll
        (value :: vs, ms, notes ++ ns)
      | .unnamed [f] => (vs, f.ty.toTypeExpr :: ms, ns)
      | _ => (vs, ms, ns)

/-- Collects an enum. -/
def Collected.addEnum (acc : Collected) (attrs : List Attribute) (name : String)
    (variants : List Variant) : Collected :=
  let container := SerdeAttrs.ofAttrs attrs
  let (values, members, notes) := variantEntries container.renameAll variants
  { acc with enums := acc.enums ++ [⟨name, values, members⟩], notices := acc.notices ++ notes }

mutual

/-- Walks an item. -/
def walkItem (c : Classifier) (acc : Collected) : Item → Collected
  | .struct attrs name params fields nested => walkItems c (acc.addStruct c attrs name params fields) nested
  | .enum attrs name variants nested => walkItems c (acc.addEnum attrs name variants) nested
  | .impl attrs ofTrait selfTy fns =>
    if ofTrait then acc
    else match selfTy.name? with
      | some n => { acc with impls := acc.impls ++ [⟨n, annotationsOf attrs, fns.map ImplFn.toMethod⟩] }
      | none => acc
  | .other nested => walkItems c acc nested
  | .verbatim => acc

/-- Walks items in order. -/
def walkItems (c : Classifier) (acc : Collected) : List Item → Collected
  | [] => acc
  | i :: rest => walkItems c (walkItem c acc i) rest

end

/-! ### Merging `impl` blocks -/

/-- The components of a path: no empty parts, no `.` after the first. -/
def pathComponents (p : String) : List String :=
  let parts := Text.splitOn "/" p
  let absolute := p.startsWith "/"
  let kept := parts.zip (List.range parts.length) |>.filterMap fun (s, i) =>
    if s.isEmpty then none
    else if s == "." && (i > 0 || absolute) then none
    else some s
  (if absolute then ["/"] else []) ++ kept

/-- The parent of a path, as components; none for the root or the empty path. -/
def pathParent (p : String) : Option (List String) :=
  match (pathComponents p).reverse with
  | [] => none
  | "/" :: _ => none
  | _ :: rest => some rest.reverse

/-- Whether a unit declares a class. -/
def declaresClass (u : SourceFile) (name : String) : Bool := u.classes.any (·.name == name)

/-- The unit declaring a class for an `impl` block of unit `idx`: its own, one in the same
directory, or any. -/
def declaringUnit (units : List SourceFile) (idx : Nat) (name : String) : Option Nat :=
  match units[idx]? with
  | none => none
  | some own =>
    if declaresClass own name then some idx
    else
      let dir := pathParent own.path
      (units.findIdx? fun u => pathParent u.path == dir && declaresClass u name).orElse
        fun _ => units.findIdx? fun u => declaresClass u name

/-- Adds an `impl` block's annotations and methods to the first class of its name. -/
def absorbImpl (classes : List ClassDecl) (b : ImplBlock) : List ClassDecl :=
  match classes with
  | [] => []
  | cls :: rest =>
    if cls.name == b.selfTy then
      { cls with annotations := cls.annotations ++ b.annotations, methods := cls.methods ++ b.methods } :: rest
    else cls :: absorbImpl rest b

/-- Merges an `impl` block of unit `idx` into the units. -/
def mergeImpl (units : List SourceFile) (idx : Nat) (b : ImplBlock) : List SourceFile :=
  match declaringUnit units idx b.selfTy with
  | some owner => units.modify owner fun u => { u with classes := absorbImpl u.classes b }
  | none =>
    units.modify idx fun u =>
      let cls : ClassDecl :=
        { name := b.selfTy, docs := none, annotations := b.annotations, typeParams := [],
          properties := [], methods := b.methods }
      { u with classes := u.classes ++ [cls] }

/-- Merges `impl` blocks, each with the index of its unit, in order. -/
def mergeImpls (units : List SourceFile) (pending : List (Nat × ImplBlock)) : List SourceFile :=
  pending.foldl (fun us p => mergeImpl us p.1 p.2) units

/-- Walks each parsed file, keeping its path. -/
def walkFiles (c : Classifier) (files : List (String × File)) : List (String × Collected) :=
  files.map fun f => (f.1, walkItems c Collected.empty f.2.items)

/-- The units of walked files, before any `impl` block is merged. -/
def unitsOf (walked : List (String × Collected)) : List SourceFile :=
  walked.map fun w => ⟨w.1, w.2.classes, w.2.enums, w.2.modules⟩

/-- The `impl` blocks of walked files, in file order, each with the index of its unit. -/
def pendingImpls (walked : List (String × Collected)) : List (Nat × ImplBlock) :=
  (List.range walked.length).zip walked |>.flatMap fun w => w.2.2.impls.map fun b => (w.1, b)

/-- The source model of parsed files, with the warnings raised reading them. -/
def loadFiles (c : Classifier) (files : List (String × File)) : Manifest × List Notice :=
  let walked := walkFiles c files
  (⟨mergeImpls (unitsOf walked) (pendingImpls walked)⟩, walked.flatMap fun w => w.2.notices)

/-- Parses source files, keeping the paths of those that do not parse. -/
def parseSources : List (String × String) → List (String × File) × List (String × String)
  | [] => ([], [])
  | (path, code) :: more =>
    let (ok, bad) := parseSources more
    match parseFile code with
    | .ok f => ((path, f) :: ok, bad)
    | .error e => (ok, (path, e) :: bad)

end Rust

end ApiSpec
