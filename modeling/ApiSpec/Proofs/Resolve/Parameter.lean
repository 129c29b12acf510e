import ApiSpec.Proofs.Resolve.History

/-!
# Describing a route parameter

`Resolver.parameterDescriptor` describes a route parameter without the resolver: a primitive,
an array of the description of its element, an enumeration of values, the first member of a
union that is neither null nor void, and the plain string for anything else and for a type whose
text was met on the way down. The members of an enumeration with payloads come from the model,
not from the type, so the walk is not bounded by the type; it is bounded by the texts it meets,
each at most once, among the texts of the closure of the type.

* `Resolver.Shallow`: the walk as a relation, one rule for each branch, with no bound on its
  depth.
* `Resolver.shallow_shallowWith`: from a type of the closure of `t0`, the walk within a budget
  above the number of texts of the closure not met yet is a finished walk: each step meets a
  new text.
* `Resolver.Shallow.eventually`: a finished walk is what the walk computes with any larger
  budget, so there is one finished walk from each start.
* `parameterDescriptor_ends`: the description of every parameter is the one finished walk, and
  it is built from primitives, arrays and enumerations only.
-/

namespace ApiSpec

namespace Descriptor

/-- Built from primitives, arrays and enumerations only. -/
def IsShallow : Descriptor → Prop
  | .primitive .. => True
  | .array e => e.IsShallow
  | .enumeration .. => True
  | .object .. => False
  | .reference _ => False

@[simp] theorem isShallow_string : Descriptor.string.IsShallow := trivial

theorem isShallow_getD_ofPrimitiveName? (n : String) :
    ((ofPrimitiveName? n).getD Descriptor.string).IsShallow := by
  unfold ofPrimitiveName?
  cases primitiveOf? n <;> trivial

end Descriptor

namespace Shape

/-- The shapes the walk of a parameter looks into. -/
def walked : Shape → Bool
  | .primitive _ | .array _ | .enumeration .. | .union .. => true
  | _ => false

end Shape

namespace Resolver

open Descriptor

variable (m : Manifest)

/-- `Shallow m seen t d`: the walk that describes `t` as a parameter, with the texts `seen` met
above it, ends with `d`. -/
inductive Shallow : List String → TypeExpr → Descriptor → Prop
  | seen {seen t} : seen.contains t.display = true → Shallow seen t Descriptor.string
  | primitive {seen t n} : seen.contains t.display = false → m.shapeOf t = .primitive n →
      Shallow seen t ((ofPrimitiveName? n).getD Descriptor.string)
  | array {seen t e d} : seen.contains t.display = false → m.shapeOf t = .array e →
      Shallow (t.display :: seen) e d → Shallow seen t (.array d)
  | enumeration {seen t n vs} : seen.contains t.display = false →
      m.shapeOf t = .enumeration n vs → Shallow seen t (.enumeration n vs)
  | member {seen t o ms c d} : seen.contains t.display = false → m.shapeOf t = .union o ms →
      ms.find? (fun x => !isVoidShape (m.shapeOf x)) = some c → Shallow (t.display :: seen) c d →
      Shallow seen t d
  | noMember {seen t o ms} : seen.contains t.display = false → m.shapeOf t = .union o ms →
      ms.find? (fun x => !isVoidShape (m.shapeOf x)) = none → Shallow seen t Descriptor.string
  | other {seen t} : seen.contains t.display = false → (m.shapeOf t).walked = false →
      Shallow seen t Descriptor.string

variable {m}

/-- A finished walk describes a parameter by primitives, arrays and enumerations only. -/
theorem Shallow.isShallow {seen : List String} {t : TypeExpr} {d : Descriptor}
    (h : Shallow m seen t d) : d.IsShallow := by
  induction h with
  | seen => exact isShallow_string
  | primitive _ _ => exact isShallow_getD_ofPrimitiveName? _
  | array _ _ _ ih => exact ih
  | enumeration _ _ => trivial
  | member _ _ _ _ ih => exact ih
  | noMember _ _ _ => exact isShallow_string
  | other _ _ => exact isShallow_string

/-- A walk that ends with `d` at every successor budget from `n` on ends with `d` at every
budget from `n + 1` on. -/
theorem eventually_of_succ {seen : List String} {t : TypeExpr} {d : Descriptor} {n : Nat}
    (h : ∀ f, n ≤ f → shallowWith m (f + 1) seen t = d) :
    ∃ n, ∀ fuel, n ≤ fuel → shallowWith m fuel seen t = d := by
  refine ⟨n + 1, fun fuel hf => ?_⟩
  obtain ⟨f, rfl⟩ : ∃ f, fuel = f + 1 := ⟨fuel - 1, by omega⟩
  exact h f (by omega)

/-- A finished walk is what the walk computes with every budget from some point on. -/
theorem Shallow.eventually {seen : List String} {t : TypeExpr} {d : Descriptor}
    (h : Shallow m seen t d) : ∃ n, ∀ fuel, n ≤ fuel → shallowWith m fuel seen t = d := by
  induction h with
  | seen hs =>
    refine eventually_of_succ (n := 0) fun f _ => ?_
    simp only [shallowWith, hs, if_true]
  | primitive hs hsh =>
    refine eventually_of_succ (n := 0) fun f _ => ?_
    simp only [shallowWith, hs, hsh, Bool.false_eq_true, if_false]
  | array hs hsh _ ih =>
    obtain ⟨n, hn⟩ := ih
    refine eventually_of_succ (n := n) fun f hf => ?_
    simp only [shallowWith, hs, hsh, Bool.false_eq_true, if_false, hn f hf]
  | enumeration hs hsh =>
    refine eventually_of_succ (n := 0) fun f _ => ?_
    simp only [shallowWith, hs, hsh, Bool.false_eq_true, if_false]
  | member hs hsh hc _ ih =>
    obtain ⟨n, hn⟩ := ih
    refine eventually_of_succ (n := n) fun f hf => ?_
    simp only [shallowWith, hs, hsh, hc, Bool.false_eq_true, if_false, hn f hf]
  | noMember hs hsh hc =>
    refine eventually_of_succ (n := 0) fun f _ => ?_
    simp only [shallowWith, hs, hsh, hc, Bool.false_eq_true, if_false]
  | other hs hw =>
    refine eventually_of_succ (n := 0) fun f _ => ?_
    -- the shapes the walk does not look into all describe the plain string
    simp only [shallowWith, hs, Bool.false_eq_true, if_false]
    split <;> simp_all [Shape.walked]

/-- There is at most one finished walk from each start. -/
theorem Shallow.unique {seen : List String} {t : TypeExpr} {d₁ d₂ : Descriptor}
    (h₁ : Shallow m seen t d₁) (h₂ : Shallow m seen t d₂) : d₁ = d₂ := by
  obtain ⟨n₁, hn₁⟩ := h₁.eventually
  obtain ⟨n₂, hn₂⟩ := h₂.eventually
  rw [← hn₁ (max n₁ n₂) (Nat.le_max_left _ _), hn₂ (max n₁ n₂) (Nat.le_max_right _ _)]

/-- From a type of the closure of `t0`, the walk with a budget above the number of texts of the
closure not met yet is a finished walk. The induction is on the budget: a step that goes on
meets a text of the closure for the first time, and hands on a part of the type's shape, which
is in the closure again. -/
theorem shallow_shallowWith (t0 : TypeExpr) :
    ∀ fuel seen t, t ∈ m.closure t0 → (m.identities t0 \ seen.toFinset).card < fuel →
      Shallow m seen t (shallowWith m fuel seen t)
  | 0, _, _, _, hc => absurd hc (Nat.not_lt_zero _)
  | fuel + 1, seen, t, ht, hc => by
    rw [shallowWith]
    dsimp only
    split
    next hs => exact .seen hs
    next hs =>
      have hs : seen.contains t.display = false := by simpa using hs
      -- the text of `t` is one of the closure's, met for the first time
      have hmem : t.display ∈ m.identities t0 :=
        List.mem_toFinset.mpr (List.mem_append_left _ (List.mem_map_of_mem ht))
      have hlt := card_sdiff_enter_lt hmem (by simpa using hs)
      have next : ∀ v ∈ (m.shapeOf t).parts,
          Shallow m (t.display :: seen) v (shallowWith m fuel (t.display :: seen) v) :=
        fun v hv => shallow_shallowWith t0 fuel _ v (Manifest.parts_mem_closure ht hv) (by omega)
      split
      next n hsh => exact .primitive hs hsh
      next e hsh => exact .array hs hsh (next e (by simp [hsh, Shape.parts]))
      next n vs hsh => exact .enumeration hs hsh
      next o ms hsh =>
        split
        next c hfind =>
          exact .member hs hsh hfind (next c (by
            simpa [hsh, Shape.parts] using List.mem_of_find?_eq_some hfind))
        next hfind => exact .noMember hs hsh hfind
      next =>
        -- the shapes left are those the walk does not look into
        refine .other hs ?_
        cases hsh : m.shapeOf t <;> simp_all [Shape.walked]

end Resolver

open Resolver

/-- Describing a route parameter ends, also through enumerations whose payloads lead back to
themselves: the description is the one finished walk, and it is built from primitives, arrays and
enumerations only, never an object or a reference. -/
theorem parameterDescriptor_ends (m : Manifest) (t : TypeExpr) :
    Shallow m [] t (parameterDescriptor m t) ∧
      (∀ d, Shallow m [] t d → d = parameterDescriptor m t) ∧
      (parameterDescriptor m t).IsShallow := by
  -- the texts of the closure are fewer than the budget
  have hcard : (m.identities t \ ([] : List String).toFinset).card < m.size + t.size + 2 := by
    have hsize := Manifest.sum_size_declaredTypes_add_length_enums_le (m := m)
    have hlen := Manifest.length_closure (m := m) t
    have hid := Manifest.card_identities_le (m := m) t
    simp only [List.toFinset_nil, Finset.sdiff_empty]
    omega
  have h := shallow_shallowWith t _ [] t (Manifest.mem_closure_self t) hcard
  exact ⟨h, fun d hd => hd.unique h, h.isShallow⟩

/-- A model with an enumeration of values `Sort` and an enumeration `Tree` whose one payload is
a list of trees. -/
def sortTreeModel : Manifest :=
  ⟨[{ path := "src/params.rs", classes := [], modules := [],
      enums := [⟨"Sort", ["Asc", "Desc"], []⟩, ⟨"Tree", [], [.named "Vec" [.simple "Tree"]]⟩] }]⟩

/-- A `Tree` parameter is a list of strings: the inner `Tree` is met again. -/
example : parameterDescriptor sortTreeModel (.simple "Tree") = .array Descriptor.string := rfl

/-! ### Where the walk agrees with the resolver

The walk and the resolver part ways in three places. A configured wrapper is unwrapped by the
resolver and is a string to the walk; a union with several members that are neither null nor
void is narrowed by the resolver to the first member that resolves to a named type, and by the
walk to the first member; and the walk stops at a type whose text is that of a type above it,
while the resolver tells types apart (`(u32)`, a union of one member, has the text `u32`). Where
the walk meets none of these (`Resolver.Straight`), a resolution from a fresh resolver that
gives a descriptor of primitives, arrays and enumerations gives the walk's.
-/

namespace Shape

/-- The shapes whose resolution goes on to a part: arrays, unions, and generics whose head is one
of the wrappers `w`. -/
def descends (w : List String) : Shape → Bool
  | .array _ | .union .. => true
  | .generic n _ => w.contains n
  | _ => false

end Shape

namespace Resolver

open Descriptor ResolverState

variable (w : List String) (m : Manifest)

/-- `Straight w m seen t`: the walk that describes `t` as a parameter goes the resolver's way,
with the wrappers `w`: it meets no wrapper, each union it passes has one member that is neither
null nor void or has an enumeration of values first, and no type on it has the text of a type
above it (`seen`). -/
inductive Straight : List String → TypeExpr → Prop
  | stop {seen t} : seen.contains t.display = false → (m.shapeOf t).descends w = false →
      Straight seen t
  | array {seen t e} : seen.contains t.display = false → m.shapeOf t = .array e →
      Straight (t.display :: seen) e → Straight seen t
  | member {seen t o ms c cs} : seen.contains t.display = false → m.shapeOf t = .union o ms →
      ms.filter (fun x => !isVoidShape (m.shapeOf x)) = c :: cs →
      (cs = [] ∨ ∃ n vs, m.shapeOf c = .enumeration (some n) vs) →
      Straight (t.display :: seen) c → Straight seen t
  | noMember {seen t o ms} : seen.contains t.display = false → m.shapeOf t = .union o ms →
      ms.filter (fun x => !isVoidShape (m.shapeOf x)) = [] → Straight seen t

variable {w m}

theorem Straight.fresh {seen : List String} {t : TypeExpr} (h : Straight w m seen t) :
    seen.contains t.display = false := by
  cases h <;> assumption

theorem Straight.array_inv {seen : List String} {t e : TypeExpr} (h : Straight w m seen t)
    (hs : m.shapeOf t = .array e) : Straight w m (t.display :: seen) e := by
  cases h with
  | stop _ hd => simp [hs, Shape.descends] at hd
  | array _ hs' he => rwa [Shape.array.inj (hs'.symm.trans hs)] at he
  | member _ hs' => nomatch hs.symm.trans hs'
  | noMember _ hs' => nomatch hs.symm.trans hs'

/-- At a union, a straight walk goes on to the first member that is neither null nor void, the
only one or an enumeration of values, or finds none. -/
theorem Straight.union_inv {seen : List String} {t : TypeExpr} {o : Option String}
    {ms : List TypeExpr} (h : Straight w m seen t) (hs : m.shapeOf t = .union o ms) :
    (∃ c cs, ms.filter (fun x => !isVoidShape (m.shapeOf x)) = c :: cs ∧
      (cs = [] ∨ ∃ n vs, m.shapeOf c = .enumeration (some n) vs) ∧
      Straight w m (t.display :: seen) c) ∨
    ms.filter (fun x => !isVoidShape (m.shapeOf x)) = [] := by
  cases h with
  | stop _ hd => simp [hs, Shape.descends] at hd
  | array _ hs' => nomatch hs.symm.trans hs'
  | member _ hs' hf hc hc' =>
    obtain ⟨-, rfl⟩ := Shape.union.inj (hs'.symm.trans hs)
    exact .inl ⟨_, _, hf, hc, hc'⟩
  | noMember _ hs' hf =>
    obtain ⟨-, rfl⟩ := Shape.union.inj (hs'.symm.trans hs)
    exact .inr hf

theorem Straight.not_wrapper {seen : List String} {t : TypeExpr} {n : String}
    {as : List TypeExpr} (h : Straight w m seen t) (hs : m.shapeOf t = .generic n as)
    (hw : w.contains n = true) : False := by
  cases h with
  | stop _ hd => simp only [hs, Shape.descends, hw, Bool.true_eq_false] at hd
  | array _ hs' => nomatch hs.symm.trans hs'
  | member _ hs' => nomatch hs.symm.trans hs'
  | noMember _ hs' => nomatch hs.symm.trans hs'

theorem candidates_of_unbound {env : ResolverEnv} {s : ResolverState} (hs : s.Unbound)
    (ms : List TypeExpr) :
    candidates env s ms = ms.filter (fun x => !isVoidShape (env.model.shapeOf x)) := by
  have hid : s.rewrite = id := funext (rewrite_of_unbound hs)
  simp [candidates, hid]

theorem eq_of_notOwner_eq_some {o : Option String} {r : Option Descriptor} {d : Descriptor}
    (h : notOwner o r = some d) : r = some d := by
  unfold notOwner at h
  split at h
  · split at h
    · cases h
    · exact h
  · exact h

theorem onlyOne?_cons {α : Type} {c x : α} {cs : List α} (h : onlyOne? (c :: cs) = some x) :
    cs = [] ∧ x = c := by
  cases cs with
  | nil =>
    simp only [onlyOne?, Option.some.injEq] at h
    exact ⟨rfl, h.symm⟩
  | cons _ _ => simp [onlyOne?] at h

theorem unbound_initial : ResolverState.initial.Unbound := by
  simp [ResolverState.Unbound, ResolverState.initial]

variable {env : ResolverEnv}

mutual

/-- Along a straight walk, a resolution from a state with nothing recorded and nothing bound
that gives a descriptor of primitives, arrays and enumerations is the walk. The recursion is on
the derivation; a class, a reference and an object found in the arena are not shallow. -/
theorem Resolves.shallow {t : TypeExpr} {s : ResolverState} {r : Option Descriptor}
    {s' : ResolverState} :
    Resolves env t s r s' → s.arena = Arena.empty → s.Unbound →
      ∀ seen, Straight env.wrappers env.model seen t →
      ∀ d, r = some d → d.IsShallow → Shallow env.model seen t d
  | .void _, _, _, _, _, _, hr, _ => nomatch hr
  | .null _, _, _, _, _, _, hr, _ => nomatch hr
  | .primitive hs, _, hu, _, hst, _, hr, _ => by
    rw [rewrite_of_unbound hu] at hs
    have h := Shallow.primitive hst.fresh hs
    rwa [hr, Option.getD_some] at h
  | .array (d := d') hs hd, ha, hu, _, hst, _, hr, hsh => by
    rw [rewrite_of_unbound hu] at hs
    have ih := Resolves.shallow hd ha hu _ (hst.array_inv hs)
    cases hr
    -- an element that resolves to nothing is a free object, which is not shallow
    cases d' with
    | none => exact hsh.elim
    | some x => exact .array hst.fresh hs (ih x rfl hsh)
  | .enumeration hs, _, hu, _, hst, _, hr, _ => by
    rw [rewrite_of_unbound hu] at hs
    cases hr
    exact .enumeration hst.fresh hs
  | .namedUnion _ (.memo hget), ha, _, _, _, _, _, _ => by
    simp [ha, Arena.get?, Arena.empty] at hget
  | .namedUnion _ (.cycle _ _), _, _, _, _, _, hr, hsh => by
    cases hr
    exact hsh.elim
  | .namedUnion hs (.fresh _ _ hn), ha, hu, _, hst, _, hr, hsh => by
    rw [rewrite_of_unbound hu] at hs
    exact Narrows.shallow hn (by simpa using ha) hu.enter hs hst _ hr hsh
  | .union hs hn, ha, hu, _, hst, _, hr, hsh => by
    rw [rewrite_of_unbound hu] at hs
    exact Narrows.shallow hn ha hu hs hst _ hr hsh
  | .wrapper hs hw _, _, hu, _, hst, _, _, _ => by
    rw [rewrite_of_unbound hu] at hs
    exact (hst.not_wrapper hs hw).elim
  | .bareWrapper _ _, _, _, _, _, _, hr, _ => nomatch hr
  | .generic _ _, _, _, _, _, _, hr, _ => nomatch hr
  | .namedObject _ (.memo hget), ha, _, _, _, _, _, _ => by
    simp [ha, Arena.get?, Arena.empty] at hget
  | .namedObject _ (.cycle _ _), _, _, _, _, _, hr, hsh => by
    cases hr
    exact hsh.elim
  | .namedObject _ (.fresh _ _ _), _, _, _, _, _, hr, hsh => by
    cases hr
    exact hsh.elim
  | .emptyObject _, _, _, _, _, _, hr, _ => nomatch hr
  | .inlineObject _ _, _, _, _, _, _, hr, hsh => by
    cases hr
    exact hsh.elim
  | .unknown _, _, _, _, _, _, hr, _ => nomatch hr
termination_by structural h => h

/-- The same for the narrowing of a union that a straight walk passes. -/
theorem Narrows.shallow {ms : List TypeExpr} {o : Option String} {s : ResolverState}
    {r : Option Descriptor} {s' : ResolverState} :
    Narrows env ms o s r s' → s.arena = Arena.empty → s.Unbound →
      ∀ {seen : List String} {t : TypeExpr} {o' : Option String},
      env.model.shapeOf t = .union o' ms → Straight env.wrappers env.model seen t →
      ∀ d, r = some d → d.IsShallow → Shallow env.model seen t d
  | .single (c := x) hc hd, ha, hu, _, _, _, hs, hst, _, hr, hsh => by
    have ih := Resolves.shallow hd ha hu
    rw [candidates_of_unbound hu] at hc
    rcases hst.union_inv hs with ⟨c, cs, hf, -, hc'⟩ | hf
    · rw [hf] at hc
      obtain ⟨rfl, rfl⟩ := onlyOne?_cons hc
      have hfind : ms.find? (fun y => !isVoidShape (env.model.shapeOf y)) = some x := by
        rw [← List.head?_filter, hf]
        rfl
      exact .member hst.fresh hs hfind (ih _ hc' _ (eq_of_notOwner_eq_some hr) hsh)
    · rw [hf] at hc
      cases hc
  | .several hc hw, _, hu, _, _, _, hs, hst, _, hr, _ => by
    rw [candidates_of_unbound hu] at hc hw
    rcases hst.union_inv hs with ⟨c, cs, hf, hcs, hc'⟩ | hf
    · rw [hf] at hc hw
      rcases hcs with rfl | ⟨n, vs, hen⟩
      · cases hc
      · -- the first member is an enumeration of values: it resolves to itself, and wins
        have hfind : ms.find? (fun x => !isVoidShape (env.model.shapeOf x)) = some c := by
          rw [← List.head?_filter, hf]
          rfl
        have hres : ∀ {d' s₁}, Resolves env c s d' s₁ →
            d' = some (.enumeration (some n) vs) := fun hd => by
          have hinv := hd.inv
          simp only [ResolvesAt, rewrite_of_unbound hu, hen] at hinv
          exact hinv.1
        cases hw with
        | win hd hwin =>
          rw [hres hd] at hwin
          cases hwin
          cases hr
          exact .member hst.fresh hs hfind (.enumeration hc'.fresh hen)
        | skip hd hwin =>
          rw [hres hd] at hwin
          cases hwin
    · rw [hf] at hw
      cases hw
      nomatch hr
termination_by structural h => h

end

end Resolver

open Resolver

/-- Where the walk that describes a parameter meets no configured wrapper, no union whose first
member other than null and void is followed by others and is no enumeration of values, and no
type with the text of one above it, a resolution from a fresh resolver that gives a descriptor of
primitives, arrays and enumerations gives the parameter's descriptor. -/
theorem parameterDescriptor_eq_resolved {env : ResolverEnv} {t : TypeExpr} {d : Descriptor}
    {s' : ResolverState} (hst : Straight env.wrappers env.model [] t)
    (hres : resolve env t ResolverState.initial = some (some d, s')) (hd : d.IsShallow) :
    parameterDescriptor env.model t = d :=
  ((parameterDescriptor_ends env.model t).2.1 d
    (Resolves.shallow (resolves_of_eq_some hres) rfl unbound_initial _ hst d rfl hd)).symm

/-- An optional list of sorts: resolved, and described as a parameter, as a list of `Sort`. -/
theorem sortList_parameter_resolved :
    ∃ s', Straight defaultWrappers sortTreeModel []
        (.named "Option" [.named "Vec" [.simple "Sort"]]) ∧
      resolve (Config.standard.resolverEnv sortTreeModel)
        (.named "Option" [.named "Vec" [.simple "Sort"]]) ResolverState.initial =
        some (some (.array (.enumeration (some "Sort") ["Asc", "Desc"])), s') ∧
      Descriptor.IsShallow (.array (.enumeration (some "Sort") ["Asc", "Desc"])) ∧
      parameterDescriptor sortTreeModel (.named "Option" [.named "Vec" [.simple "Sort"]]) =
        .array (.enumeration (some "Sort") ["Asc", "Desc"]) := by
  have hst : Straight defaultWrappers sortTreeModel []
      (.named "Option" [.named "Vec" [.simple "Sort"]]) :=
    .member (by decide) rfl rfl (.inl rfl)
      (.array (by decide) rfl (.stop (by decide) rfl))
  have hres : resolve (Config.standard.resolverEnv sortTreeModel)
      (.named "Option" [.named "Vec" [.simple "Sort"]]) ResolverState.initial =
      some (some (.array (.enumeration (some "Sort") ["Asc", "Desc"])),
        ((resolve (Config.standard.resolverEnv sortTreeModel)
          (.named "Option" [.named "Vec" [.simple "Sort"]]) ResolverState.initial).map
            (·.2)).getD ResolverState.initial) := rfl
  exact ⟨_, hst, hres, trivial, parameterDescriptor_eq_resolved hst hres trivial⟩

/-- Without the walk's conditions the two part: a boxed count is unwrapped by the resolver and
described as a string, and a union of a string and `Sort` is narrowed to `Sort` but described by
its first member. -/
theorem parameterDescriptor_differs_from_resolution :
    (resolve (Config.standard.resolverEnv sortTreeModel) (.named "Box" [.simple "u32"])
        ResolverState.initial = some (some (.primitive .integer (some "int32")),
          ResolverState.initial) ∧
      parameterDescriptor sortTreeModel (.named "Box" [.simple "u32"]) = Descriptor.string) ∧
    (∃ s', resolve (Config.standard.resolverEnv sortTreeModel)
        (.union [.simple "String", .simple "Sort"]) ResolverState.initial =
          some (some (.enumeration (some "Sort") ["Asc", "Desc"]), s') ∧
      parameterDescriptor sortTreeModel (.union [.simple "String", .simple "Sort"]) =
        Descriptor.string) :=
  ⟨⟨rfl, rfl⟩, _, rfl, rfl⟩

end ApiSpec
