import ApiSpec.Yaml.Parse
import ApiSpec.Data.Node

/-!
# Reading a YAML document

The first document of a YAML stream becomes a `Node`. The events are read up to the first
fault, and the nodes they make are kept: where the events stop, the rest of the document is
a `broken` node holding the fault. A decoder thus reports whichever comes first in reading
order, a value of the wrong shape or the fault, as a loader of events does.

* A scalar is text; it remembers whether it was plain, which decides whether it may read as
  a boolean, a null or a number.
* A tag starting with `!` names an enumeration variant and wraps the node; other tags (such
  as `!!str`) are left out.
* An alias stands for the node of its anchor; an alias to no anchor stops the document with
  `unknown anchor`.
* A stream without a document reads as an empty plain scalar: an empty record or sequence,
  or no value.

After the first document, anything but the end of the stream means more than one document,
which is an error once the first one has been read.
-/

namespace ApiSpec

namespace Yaml

/-- A place as messages tell it: line and column from one. -/
def Pos.toMark (p : Pos) : Mark := ⟨p.line + 1, p.column + 1⟩

/-- The first document of a stream: its node, the fault that stopped the events right after
it, and whether more than one document is there. -/
structure Document where
  root : Node
  trailing : Option String
  more : Bool
  deriving Inhabited

/-- The message for an empty stream. -/
def endOfInput : String := "EOF while parsing a value"

/-- The message when a stream holds more than one document. -/
def moreDocuments : String := "deserializing from YAML containing more than one document is not supported"

/-- The named nodes seen so far. -/
abbrev Anchors := List (String × Node)

/-- Names a node when it has an anchor. -/
def Anchors.add (a : Anchors) (anchor : Option String) (n : Node) : Anchors :=
  match anchor with
  | some name => (name, n) :: a
  | none => a

/-- Wraps a node in its tag when the tag names a variant. -/
def tagged (tag : Option String) (n : Node) (p : Pos) : Node :=
  match tag with
  | some t => if t.startsWith "!" then .tagged t n p.toMark else n
  | none => n

mutual

/-- The node of the events at the head, with the events after it. -/
def buildNode (stop : Fault) : Nat → Anchors → List (Event × Pos) → Node × List (Event × Pos) × Anchors
  | 0, a, evs => (.broken stop, evs, a)
  | _ + 1, a, [] => (.broken stop, [], a)
  | fuel + 1, a, (ev, p) :: rest =>
    match ev with
    | .scalar anchor tag text style =>
      let n := tagged tag (.scalar (.text text (style == .plain)) p.toMark p.toMark) p
      (n, rest, a.add anchor n)
    | .alias name => (((a.find? (·.1 == name)).map (·.2)).getD (.broken stop), rest, a)
    | .sequenceStart anchor tag =>
      let (items, rest, a) := buildItems stop fuel a rest
      let n := tagged tag (.seq items p.toMark p.toMark) p
      (n, rest, a.add anchor n)
    | .mappingStart anchor tag =>
      let (entries, rest, a) := buildEntries stop fuel a rest
      let n := tagged tag (.map entries p.toMark p.toMark) p
      (n, rest, a.add anchor n)
    | _ => (.broken stop, rest, a)

/-- The items of a sequence up to its end. -/
def buildItems (stop : Fault) : Nat → Anchors → List (Event × Pos) → List Node × List (Event × Pos) × Anchors
  | 0, a, evs => ([.broken stop], evs, a)
  | _ + 1, a, [] => ([.broken stop], [], a)
  | _ + 1, a, (.sequenceEnd, _) :: rest => ([], rest, a)
  | fuel + 1, a, evs =>
    let (n, rest, a) := buildNode stop fuel a evs
    let (ns, rest, a) := buildItems stop fuel a rest
    (n :: ns, rest, a)

/-- The entries of a mapping up to its end. -/
def buildEntries (stop : Fault) : Nat → Anchors → List (Event × Pos) →
    List (Node × Node) × List (Event × Pos) × Anchors
  | 0, a, evs => ([(.broken stop, .broken stop)], evs, a)
  | _ + 1, a, [] => ([(.broken stop, .broken stop)], [], a)
  | _ + 1, a, (.mappingEnd, _) :: rest => ([], rest, a)
  | fuel + 1, a, evs =>
    let (k, rest, a) := buildNode stop fuel a evs
    let (v, rest, a) := buildNode stop fuel a rest
    let (es, rest, a) := buildEntries stop fuel a rest
    ((k, v) :: es, rest, a)

end

/-- The events of the first document, up to its end (not included) or to where the events
stop, checking that every alias names an anchor seen before it. The second part is the
loader's fault, and the third the events after the document's end, when it ends. -/
def documentEvents : List (Event × Pos) → List String →
    List (Event × Pos) × Option String × Option (List (Event × Pos))
  | [], _ => ([], none, none)
  | (.documentEnd, _) :: rest, _ => ([], none, some rest)
  | (.alias name, p) :: rest, names =>
    if names.contains name then
      let (evs, f, after) := documentEvents rest names
      ((.alias name, p) :: evs, f, after)
    else ([], some ("unknown anchor at " ++ p.text), none)
  | (ev, p) :: rest, names =>
    let names := match ev with
      | .scalar (some a) .. => a :: names
      | .sequenceStart (some a) _ => a :: names
      | .mappingStart (some a) _ => a :: names
      | _ => names
    let (evs, f, after) := documentEvents rest names
    ((ev, p) :: evs, f, after)

/-- Reads the first document of a YAML text. -/
def read (text : String) : Document :=
  let (evs, problem) := events text
  let parseFault := problem.map Problem.message
  let evs := match evs with
    | (.streamStart, _) :: rest => rest
    | rest => rest
  match evs with
  | (.streamEnd, p) :: _ => ⟨.scalar (.text "" true) p.toMark p.toMark, none, false⟩
  | _ =>
    let evs := match evs with
      | (.documentStart, _) :: rest => rest
      | rest => rest
    let (body, loaderFault, after) := documentEvents evs []
    let fault := loaderFault.orElse fun _ => if after.isSome then none else parseFault
    let stop : Fault := ⟨fault.getD endOfInput, ⟨1, 1⟩⟩
    let (root, rest, _) := buildNode stop (body.length + 1) [] body
    let trailing := if rest.isEmpty then fault else none
    let more := match after with
      | some ((.streamEnd, _) :: _) => false
      | some [] => parseFault.isSome
      | some _ => true
      | none => false
    ⟨root, trailing, more⟩

end Yaml

end ApiSpec
