import ApiSpec.Schema.Basic
import ApiSpec.Schema.Component
import ApiSpec.Resolve.Descriptor
import ApiSpec.Log

/-!
# Schemas of descriptors

`SchemaGen.generate` writes the schema of a descriptor: a primitive is its type and format, an
array has `items`, an enumeration is a string schema with `enum` and an object has
`properties` and `required`. Every named type becomes a component, built once and referred to
by `$ref`; a reference resolves through the arena. The schema of a property that is not a
reference carries the property's constraints, docs and example.

A component is named after the identity of its type (`componentName`); when two identities
give the same name, the later one takes the first free `name_2`, `name_3`, … and a warning
says so. A component is built at most once: while it is being built, a reference to it is only
a `$ref`.

The recursion is bounded by a budget that outgrows the number of components times the size of
the largest descriptor; past it a schema is the free object.
-/

namespace ApiSpec

/-- What the generator keeps: the components built (sorted by name), those being built, the
component of each identity, and the warnings so far. -/
structure SchemaState where
  schemas : List (String × Schema)
  inProgress : List String
  names : List (String × String)
  notices : List Notice
  deriving Inhabited

/-- A generator with nothing built. -/
def SchemaState.initial : SchemaState := ⟨[], [], [], []⟩

/-- A computation of the generator. -/
abbrev SchemaM := StateM SchemaState

namespace SchemaGen

/-- Inserts a component into a list sorted by name; a name present is replaced. -/
def insertSorted (name : String) (s : Schema) : List (String × Schema) → List (String × Schema)
  | [] => [(name, s)]
  | (k, v) :: rest =>
    if name < k then (name, s) :: (k, v) :: rest
    else if name == k then (name, s) :: rest
    else (k, v) :: insertSorted name s rest

/-- Sets a key of an ordered list: a key present keeps its place and takes the new value. -/
def setKey {α : Type} (key : String) (v : α) (l : List (String × α)) : List (String × α) :=
  if l.any (·.1 == key) then l.map fun (k, w) => if k == key then (k, v) else (k, w)
  else l ++ [(key, v)]

/-- The `i`-th candidate name for `base`: `base`, then `base_2`, `base_3`, … -/
def candidate (base : String) : Nat → String
  | 0 => base
  | i + 1 => base ++ "_" ++ toString (i + 2)

/-- The first candidate name not taken. -/
def freeName (base : String) (taken : List String) : String :=
  (((List.range (taken.length + 1)).map (candidate base)).find? fun c => !taken.contains c).getD base

/-- Records a warning. -/
def warn (n : Notice) : SchemaM Unit := modify fun s => { s with notices := s.notices ++ [n] }

/-- The component of an identity, chosen the first time it is asked for. -/
def componentFor (identity : String) : SchemaM String := do
  let st ← get
  match st.names.find? (·.1 == identity) with
  | some (_, c) => return c
  | none =>
    let base := componentName identity
    let c := freeName base (st.names.map (·.2))
    if c != base then warn (.componentNameTaken base c identity)
    modify fun s => { s with names := s.names ++ [(identity, c)] }
    return c

/-- A `$ref` to the component of `identity`, building it with `build` unless it is built or
being built. -/
def ensure (identity : String) (build : SchemaM Schema) : SchemaM Schema := do
  let c ← componentFor identity
  let st ← get
  if st.schemas.any (·.1 == c) || st.inProgress.contains c then return Schema.refTo c
  else
    modify fun s => { s with inProgress := c :: s.inProgress }
    let schema ← build
    modify fun s => { s with inProgress := s.inProgress.erase c, schemas := insertSorted c schema s.schemas }
    return Schema.refTo c

/-- The schema of an enumeration's values. -/
def enumSchema (values : List String) : Schema := { Schema.ofType "string" with enumValues := some values }

/-- The schema of a property, given the schema of its type. -/
def propertySchema (f : Field) (s : Schema) : Schema :=
  match s.ref with
  | some _ => s
  | none => { s.constrain f.constraints with description := f.docs, sample := f.sample }

mutual

/-- The schema of a descriptor, within the budget `fuel`. -/
def generateWith (arena : Arena) : Nat → Descriptor → SchemaM Schema
  | 0, _ => return Schema.ofType "object"
  | fuel + 1, d =>
    match d with
    | .primitive k f => return { Schema.ofType k.name with format := f }
    | .array elem => do
      let items ← generateWith arena fuel elem
      return { Schema.ofType "array" with items := some items }
    | .enumeration none values => return enumSchema values
    | .enumeration (some identity) values => ensure identity (pure (enumSchema values))
    | .object none fields => objectWith arena fuel fields
    | .object (some identity) fields => ensure identity (objectWith arena fuel fields)
    | .reference identity => referenceWith arena fuel identity

/-- The schema of an object's fields. -/
def objectWith (arena : Arena) : Nat → List Field → SchemaM Schema
  | 0, _ => return Schema.ofType "object"
  | fuel + 1, fields => do
    let members ← fields.foldlM (fun acc f => do
      let s ← generateWith arena fuel f.type
      return setKey f.name (propertySchema f s) acc) []
    let required := (fields.filter (·.required)).map (·.name)
    return { Schema.ofType "object" with
      properties := some members, required := if required.isEmpty then none else some required }

/-- The schema of a reference, through the arena. -/
def referenceWith (arena : Arena) : Nat → String → SchemaM Schema
  | 0, _ => return Schema.ofType "object"
  | fuel + 1, identity =>
    match arena.get? identity with
    | some (.object (some n) fields) =>
      if n == identity then ensure identity (objectWith arena fuel fields)
      else generateWith arena fuel (.object (some n) fields)
    | some (.enumeration (some n) values) =>
      if n == identity then ensure identity (pure (enumSchema values))
      else generateWith arena fuel (.enumeration (some n) values)
    | some d => ensure identity (generateWith arena fuel d)
    | none => do
      warn (.danglingReference identity)
      ensure identity (pure (Schema.ofType "object"))

end

mutual

/-- The number of nodes of a descriptor. -/
def size : Descriptor → Nat
  | .primitive .. => 1
  | .array elem => size elem + 1
  | .enumeration .. => 1
  | .object _ fields => sizeFields fields + 1
  | .reference _ => 1

/-- The sizes of the fields' types, summed. -/
def sizeFields : List Field → Nat
  | [] => 0
  | f :: rest => size f.type + sizeFields rest

end

/-- The budget for one descriptor over an arena. -/
def budget (arena : Arena) (d : Descriptor) : Nat :=
  let w := (arena.entries.map fun (_, e) => size e + 1).foldr (· + ·) 0 + size d + 3
  w * w

/-- The schema of a descriptor; named types become components. -/
def generate (arena : Arena) (d : Descriptor) : SchemaM Schema :=
  generateWith arena (budget arena d) d

end SchemaGen

end ApiSpec
