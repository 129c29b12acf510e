import ApiSpec.Resolve.Descriptor
import ApiSpec.Example
import ApiSpec.Log

/-!
# Resolving type references

`Resolver.resolve` turns a type expression into a descriptor, against a source model:

* void and null resolve to nothing, a primitive to its descriptor, an array to an array of its
  element (a free object when the element resolves to nothing);
* an enumeration of values is recorded in the arena under its name;
* a declared class is resolved once per identity (the text of its substituted type
  expression): its type parameters are bound to its arguments for the time its properties are
  resolved, and the finished object is recorded in the arena; met again while it is being
  described, it resolves to a reference (with a warning);
* a union picks one member: null and void members are left out, a single remaining member is
  taken as it is, and otherwise the first member that resolves to a named object, a reference,
  a named enumeration or a non-empty object wins; a reference back to the enumeration that owns
  the union never wins, and a declared enumeration with payloads is recorded under its name
  with the member it narrowed to;
* a configured wrapper stands for its first argument; any other generic of unknown head, and
  any unknown name, resolves to nothing.

Every type expression is first rewritten by the innermost binding of type parameters; the
members of a union are rewritten again before they are resolved.

`Resolver.parameterDescriptor` describes a route parameter shallowly: a primitive, an array
or an enumeration, the first non-null member of a union, and the plain string for anything else
or for a type met again while describing itself.

The recursion is the resolver's own, with no bound besides the cycle guard, which stops a class
only when it is met again at the same identity. A class that instantiates itself at ever larger
arguments (`A<T>` with a property of type `A<Vec<T>>`) is met at a new identity each time, and
its resolution never ends. The resolver passes its state explicitly, from call to call, and
counts the nested steps it takes: past `Resolver.budget` of them it gives up with no result
(`none`), a depth that no run reaches before its stack runs out, so `none` stands for a
resolution that never ends. `ResolveM` is the same computation for the resolver's callers.
-/

namespace ApiSpec

/-- What a resolver works against: the model, the wrapper names, and whether properties get
examples. -/
structure ResolverEnv where
  model : Manifest
  wrappers : List String
  examples : Bool
  deriving Inhabited

/-- What a resolver keeps: the arena, the identities being described, the bindings of type
parameters (innermost first), and the warnings so far. -/
structure ResolverState where
  arena : Arena
  stack : List String
  scopes : List (List (String × TypeExpr))
  notices : List Notice
  deriving Inhabited

/-- A fresh resolver: nothing recorded, nothing being described. -/
def ResolverState.initial : ResolverState := ⟨Arena.empty, [], [], []⟩

/-- A computation of the resolver; `none` is a resolution that never ends. -/
abbrev ResolveM := StateT ResolverState Option

namespace TypeExpr

mutual

/-- Rewrites bare names bound in `scope` to their arguments, once, everywhere but inside inline
objects and unknown text. -/
def substituteIn (scope : List (String × TypeExpr)) : TypeExpr → TypeExpr
  | .named name [] =>
    match scope.find? (·.1 == name) with
    | some (_, arg) => arg
    | none => .named name []
  | .named name args => .named name (substituteList scope args)
  | .array elem => .array (substituteIn scope elem)
  | .union members => .union (substituteList scope members)
  | .tuple items => .tuple (substituteList scope items)
  | .inline props => .inline props
  | .unknown text => .unknown text

/-- Rewrites each expression of a list. -/
def substituteList (scope : List (String × TypeExpr)) : List TypeExpr → List TypeExpr
  | [] => []
  | t :: rest => substituteIn scope t :: substituteList scope rest

end

mutual

/-- The number of nodes of a type expression, inline members included. -/
def size : TypeExpr → Nat
  | .named _ args => sizeList args + 1
  | .array elem => size elem + 1
  | .union members => sizeList members + 1
  | .tuple items => sizeList items + 1
  | .inline props => sizeProps props + 1
  | .unknown _ => 1

/-- The sizes of a list of expressions, summed. -/
def sizeList : List TypeExpr → Nat
  | [] => 0
  | t :: rest => size t + sizeList rest

/-- The sizes of the types of properties, summed. -/
def sizeProps : List PropertyDecl → Nat
  | [] => 0
  | p :: rest => size p.type + sizeProps rest

end

end TypeExpr

/-- The total size of the type expressions of a model. -/
def Manifest.size (m : Manifest) : Nat :=
  let ofClass := fun (c : ClassDecl) =>
    TypeExpr.sizeProps c.properties + c.typeParams.length +
      (c.methods.map fun md => TypeExpr.sizeList (md.params.map (·.type)) +
        (md.returns.map TypeExpr.size).getD 0).foldr (· + ·) 0
  let ofEnum := fun (e : EnumDecl) => TypeExpr.sizeList e.members + 1
  (m.classes.map ofClass).foldr (· + ·) 0 + (m.enums.map ofEnum).foldr (· + ·) 0 + m.units.length

namespace ResolverState

/-- The rewrite of a type expression by the innermost bindings of type parameters. -/
def rewrite (s : ResolverState) (t : TypeExpr) : TypeExpr :=
  match s.scopes with
  | scope :: _ => t.substituteIn scope
  | [] => t

/-- Records the descriptor of a named type. -/
def record (s : ResolverState) (identity : String) (d : Descriptor) : ResolverState :=
  { s with arena := s.arena.insert identity d }

/-- Starts describing a named type: it goes on the stack of types being described. -/
def enter (s : ResolverState) (identity : String) : ResolverState :=
  { s with stack := identity :: s.stack }

/-- Ends describing a named type. -/
def leave (s : ResolverState) (identity : String) : ResolverState :=
  { s with stack := s.stack.erase identity }

/-- Binds the type parameters of a declaration, innermost. -/
def withScope (s : ResolverState) (scope : List (String × TypeExpr)) : ResolverState :=
  { s with scopes := scope :: s.scopes }

/-- Drops the innermost bindings. -/
def dropScope (s : ResolverState) : ResolverState :=
  { s with scopes := s.scopes.drop 1 }

/-- Records a descriptor under a name, when there is one. -/
def recordAs (s : ResolverState) (name : Option String) (d : Descriptor) : ResolverState :=
  match name with
  | some n => s.record n d
  | none => s

/-- Records what an enumeration with payloads narrowed to, unless it narrowed to nothing or
to a reference. -/
def keep (s : ResolverState) (identity : String) : Option Descriptor → ResolverState
  | some (.reference _) => s
  | none => s
  | some d => s.record identity d

/-- Adds a warning. -/
def note (s : ResolverState) (n : Notice) : ResolverState :=
  { s with notices := s.notices ++ [n] }

end ResolverState

namespace Resolver

/-- Whether a shape is void or null. -/
def isVoidShape : Shape → Bool
  | .void | .null => true
  | _ => false

/-- Records a warning. -/
def warn (n : Notice) : ResolveM Unit := modify (·.note n)

/-- The members of a union that take part in narrowing: each rewritten by the innermost
bindings, void and null left out. -/
def candidates (env : ResolverEnv) (s : ResolverState) (members : List TypeExpr) : List TypeExpr :=
  (members.map s.rewrite).filter fun m => !isVoidShape (env.model.shapeOf m)

/-- The field of an object for one property declaration, its type resolved to `ty`. -/
def fieldFor (env : ResolverEnv) (p : PropertyDecl) (ty : Option Descriptor) : Field :=
  let constraints := extractConstraints p.annotations
  let ty := ty.getD Descriptor.freeObject
  { name := p.name, type := ty, required := isRequired p.optional p.hasDefault constraints,
    docs := p.docs, constraints, sample := if env.examples then exampleFor p.name ty else none }

/-- What a union member's resolution gives the union: a named object, a reference, a named
enumeration or a non-empty object wins; a reference back to the enumeration `owner` that owns
the union never does. -/
def winner (owner : Option String) : Option Descriptor → Option Descriptor
  | some (.reference id) => if owner == some id then none else some (.reference id)
  | some (.object (some n) fs) => some (.object (some n) fs)
  | some (.enumeration (some n) vs) => some (.enumeration (some n) vs)
  | some (.object none fs) => if fs.isEmpty then none else some (.object none fs)
  | _ => none

/-- The one element of a list of length one. -/
def onlyOne? {α : Type} : List α → Option α
  | [a] => some a
  | _ => none

/-- A single union member's resolution, less a reference back to the owner. -/
def notOwner (owner : Option String) : Option Descriptor → Option Descriptor
  | some (.reference id) => if owner == some id then none else some (.reference id)
  | d => d

/-- The fields of an object for its property declarations, in order, each type resolved by
`r`. -/
def fieldsBy (env : ResolverEnv) (r : TypeExpr → ResolverState → Option (Option Descriptor × ResolverState)) :
    List PropertyDecl → ResolverState → Option (List Field × ResolverState)
  | [], s => some ([], s)
  | p :: rest, s => do
    let (ty, s₁) ← r p.type s
    let (fs, s₂) ← fieldsBy env r rest s₁
    return (fieldFor env p ty :: fs, s₂)

/-- Resolves the union candidates in order by `r` until one wins. -/
def firstWinningBy (r : TypeExpr → ResolverState → Option (Option Descriptor × ResolverState))
    (owner : Option String) :
    List TypeExpr → ResolverState → Option (Option Descriptor × ResolverState)
  | [], s => some (none, s)
  | m :: rest, s => do
    let (d, s₁) ← r m s
    match winner owner d with
    | some w => return (some w, s₁)
    | none => firstWinningBy r owner rest s₁

mutual

/-- Resolves a type expression from a state, to its descriptor and the state after it, within
`fuel` nested steps (`none` when they run out). -/
def resolveWith (env : ResolverEnv) :
    Nat → TypeExpr → ResolverState → Option (Option Descriptor × ResolverState)
  | 0, _, _ => none
  | fuel + 1, t0, s =>
    let t := s.rewrite t0
    match env.model.shapeOf t with
    | .void | .null => some (none, s)
    | .primitive name => some (Descriptor.ofPrimitiveName? name, s)
    | .array elem => do
      let (d, s') ← resolveWith env fuel elem s
      return (some (.array (d.getD Descriptor.freeObject)), s')
    | .enumeration name values =>
      let d := Descriptor.enumeration name values
      some (some d, s.recordAs name d)
    | .union (some name) members => namedUnionWith env fuel name members s
    | .union none members => narrowWith env fuel members none s
    | .generic name args =>
      if env.wrappers.contains name then
        match args with
        | a :: _ => resolveWith env fuel a s
        | [] => some (none, s)
      else some (none, s)
    | .object (some _) bindings props => namedObjectWith env fuel t.display bindings props s
    | .object none _ props =>
      if props.isEmpty then some (none, s)
      else do
        let (fs, s') ← fieldsBy env (resolveWith env fuel) props s
        return (some (.object none fs), s')
    | .unknown _ => some (none, s)

/-- Resolves a declared class at its identity, once. -/
def namedObjectWith (env : ResolverEnv) :
    Nat → String → List (String × TypeExpr) → List PropertyDecl → ResolverState →
      Option (Option Descriptor × ResolverState)
  | 0, _, _, _, _ => none
  | fuel + 1, identity, bindings, props, s =>
    match s.arena.get? identity with
    | some d => some (some d, s)
    | none =>
      if s.stack.contains identity then
        some (some (.reference identity), s.note (.circularReference identity))
      else do
        let bound := bindings.map fun (param, arg) => (param, s.rewrite arg)
        let (fs, s') ←
          fieldsBy env (resolveWith env fuel) props ((s.enter identity).withScope bound)
        let d := Descriptor.object (some identity) fs
        return (some d, (s'.dropScope.leave identity).record identity d)

/-- Resolves a declared enumeration with payloads, once. -/
def namedUnionWith (env : ResolverEnv) :
    Nat → String → List TypeExpr → ResolverState → Option (Option Descriptor × ResolverState)
  | 0, _, _, _ => none
  | fuel + 1, identity, members, s =>
    match s.arena.get? identity with
    | some d => some (some d, s)
    | none =>
      if s.stack.contains identity then
        some (some (.reference identity), s.note (.circularReference identity))
      else do
        let (narrowed, s') ← narrowWith env fuel members (some identity) (s.enter identity)
        return (narrowed, (s'.leave identity).keep identity narrowed)

/-- Picks one member of a union; `owner` is the enumeration that owns it. -/
def narrowWith (env : ResolverEnv) :
    Nat → List TypeExpr → Option String → ResolverState → Option (Option Descriptor × ResolverState)
  | 0, _, _, _ => none
  | fuel + 1, members, owner, s =>
    let cs := candidates env s members
    match onlyOne? cs with
    | some single => do
      let (d, s') ← resolveWith env fuel single s
      return (notOwner owner d, s')
    | none => firstWinningBy (resolveWith env fuel) owner cs s

end

/-- The nested steps a resolution of `t` may take: beyond any depth a run reaches before its
stack runs out, and, in a model whose classes declare no type parameters, provably enough for
every resolution (the identities it can enter, times the sizes of the types between two
entries, are both bounded by the sizes of the model and of `t`). -/
def budget (env : ResolverEnv) (t : TypeExpr) : Nat :=
  let w := env.model.size + t.size + 2
  18446744073709551616 + 3 * w * w

/-- Resolves a type expression from a state. -/
def resolve (env : ResolverEnv) (t : TypeExpr) (s : ResolverState) :
    Option (Option Descriptor × ResolverState) :=
  resolveWith env (budget env t) t s

/-- Resolves a request or response body: primitives are no bodies. -/
def resolveBody (env : ResolverEnv) (t : TypeExpr) : ResolveM (Option Descriptor) := fun s =>
  (resolve env t s).map fun (d, s') => (d.filter fun d => !d.isPrimitive, s')

/-- The shallow descriptor, `seen` holding the texts of types already on the way, at most
`fuel` steps. -/
def shallowWith (model : Manifest) : Nat → List String → TypeExpr → Descriptor
  | 0, _, _ => Descriptor.string
  | fuel + 1, seen, t =>
    let text := t.display
    if seen.contains text then Descriptor.string
    else
      let seen := text :: seen
      match model.shapeOf t with
      | .primitive name => (Descriptor.ofPrimitiveName? name).getD Descriptor.string
      | .array elem => .array (shallowWith model fuel seen elem)
      | .enumeration name values => .enumeration name values
      | .union _ members =>
        match members.find? fun m => !isVoidShape (model.shapeOf m) with
        | some m => shallowWith model fuel seen m
        | none => Descriptor.string
      | _ => Descriptor.string

/-- The descriptor of a route parameter: primitive, array or enumeration only. -/
def parameterDescriptor (model : Manifest) (t : TypeExpr) : Descriptor :=
  shallowWith model (model.size + t.size + 2) [] t

end Resolver

end ApiSpec
