import ApiSpec.Proofs.Resolve.Semantics
import Mathlib.Data.Finset.Card
import Mathlib.Algebra.Order.BigOperators.Group.List
import Mathlib.Tactic.GCongr
import Mathlib.Tactic.Ring

/-!
# Resolutions that end

The cycle guard stops a class only when it is met again at the same identity, so it bounds the
resolver only while the identities it can meet are finitely many. That is so when no class
declares a type parameter: the bindings stay empty, every type the resolver meets is a part of
the type it started from or of a type the model declares (or the `null` that an option adds), a
class is entered at the text of such a type and an enumeration at its own name.

* `TypeExpr.substituteIn_nil`: empty bindings rewrite nothing.
* `Manifest.parts_mem_closure`: the closure of a type (its parts, the parts of the declared
  types, and `null`) holds every part of the shape of each of its members, and
  `Manifest.size_lt_of_mem_parts`: a part of a shape that carries no name is smaller.
* `Resolver.ends_of_mem_closure`: in a model without type parameters, every type of the closure
  resolves from every state that binds nothing, within `stepsFor` nested steps, and the
  resolution leaves the stack and the bindings as it found them. The induction is on the
  identities of the closure not yet on the stack and, inside, on the size of the type: entering
  a class or an enumeration takes its identity off that finite set, and between two entries the
  type gets smaller.
* `Resolver.resolve_ends_of_unbound`: the budget of `resolve` covers those steps, since the
  closure and its identities are no larger than the model and the type together.
-/

namespace ApiSpec

namespace TypeExpr

/-! ### Empty bindings -/

mutual

theorem substituteIn_nil : (t : TypeExpr) → t.substituteIn [] = t
  | .named _ [] => by simp [substituteIn]
  | .named _ (a :: as) => by rw [substituteIn, substituteList_nil (a :: as)]; simp
  | .array e => by rw [substituteIn, substituteIn_nil e]
  | .tuple items => by rw [substituteIn, substituteList_nil items]
  | .union ms => by rw [substituteIn, substituteList_nil ms]
  | .inline _ => by rw [substituteIn]
  | .unknown _ => by rw [substituteIn]

theorem substituteList_nil : (ts : List TypeExpr) → substituteList [] ts = ts
  | [] => by rw [substituteList]
  | t :: ts => by rw [substituteList, substituteIn_nil t, substituteList_nil ts]

end

/-! ### Sizes -/

theorem size_le_sizeList {u : TypeExpr} :
    {ts : List TypeExpr} → u ∈ ts → u.size ≤ sizeList ts
  | t :: ts, h => by
    rw [sizeList]
    rcases List.mem_cons.mp h with rfl | h
    · omega
    · have := size_le_sizeList h
      omega

theorem size_le_sizeProps {p : PropertyDecl} :
    {ps : List PropertyDecl} → p ∈ ps → p.type.size ≤ sizeProps ps
  | q :: ps, h => by
    rw [sizeProps]
    rcases List.mem_cons.mp h with rfl | h
    · omega
    · have := size_le_sizeProps h
      omega

theorem sizeList_eq_sum : (ts : List TypeExpr) → sizeList ts = (ts.map size).sum
  | [] => rfl
  | t :: ts => by rw [sizeList, sizeList_eq_sum ts, List.map_cons, List.sum_cons]

theorem sizeProps_eq_sum : (ps : List PropertyDecl) →
    sizeProps ps = ((ps.map (·.type)).map size).sum
  | [] => rfl
  | p :: ps => by rw [sizeProps, sizeProps_eq_sum ps]; simp

/-! ### Parts -/

mutual

/-- A type expression and every type expression inside it, inline members included. -/
def subterms : TypeExpr → List TypeExpr
  | t@(.named _ args) => t :: subtermsList args
  | t@(.array e) => t :: subterms e
  | t@(.tuple items) => t :: subtermsList items
  | t@(.union ms) => t :: subtermsList ms
  | t@(.inline props) => t :: subtermsProps props
  | t@(.unknown _) => [t]

/-- The parts of each expression of a list. -/
def subtermsList : List TypeExpr → List TypeExpr
  | [] => []
  | t :: ts => subterms t ++ subtermsList ts

/-- The parts of the types of property declarations. -/
def subtermsProps : List PropertyDecl → List TypeExpr
  | [] => []
  | p :: ps => subterms p.type ++ subtermsProps ps

end

theorem mem_subterms_self (t : TypeExpr) : t ∈ t.subterms := by
  cases t <;> simp [subterms]

theorem subterms_subset_subtermsList {u : TypeExpr} :
    {ts : List TypeExpr} → u ∈ ts → u.subterms ⊆ subtermsList ts
  | t :: ts, h => by
    rw [subtermsList]
    rcases List.mem_cons.mp h with rfl | h
    · exact List.subset_append_left _ _
    · exact List.Subset.trans (subterms_subset_subtermsList h) (List.subset_append_right _ _)

theorem subterms_subset_subtermsProps {p : PropertyDecl} :
    {ps : List PropertyDecl} → p ∈ ps → p.type.subterms ⊆ subtermsProps ps
  | q :: ps, h => by
    rw [subtermsProps]
    rcases List.mem_cons.mp h with rfl | h
    · exact List.subset_append_left _ _
    · exact List.Subset.trans (subterms_subset_subtermsProps h) (List.subset_append_right _ _)

mutual

/-- A part of a part is a part, and its parts stand in order among the parts of the whole. -/
theorem subterms_sublist_of_mem {u : TypeExpr} : (t : TypeExpr) → u ∈ t.subterms →
    List.Sublist u.subterms t.subterms
  | .named _ args, h => by
    rw [subterms] at h
    rcases List.mem_cons.mp h with rfl | h
    · exact List.Sublist.refl _
    · rw [subterms]
      exact (subtermsList_sublist_of_mem args h).trans (List.sublist_cons_self _ _)
  | .array e, h => by
    rw [subterms] at h
    rcases List.mem_cons.mp h with rfl | h
    · exact List.Sublist.refl _
    · rw [subterms]
      exact (subterms_sublist_of_mem e h).trans (List.sublist_cons_self _ _)
  | .tuple items, h => by
    rw [subterms] at h
    rcases List.mem_cons.mp h with rfl | h
    · exact List.Sublist.refl _
    · rw [subterms]
      exact (subtermsList_sublist_of_mem items h).trans (List.sublist_cons_self _ _)
  | .union ms, h => by
    rw [subterms] at h
    rcases List.mem_cons.mp h with rfl | h
    · exact List.Sublist.refl _
    · rw [subterms]
      exact (subtermsList_sublist_of_mem ms h).trans (List.sublist_cons_self _ _)
  | .inline props, h => by
    rw [subterms] at h
    rcases List.mem_cons.mp h with rfl | h
    · exact List.Sublist.refl _
    · rw [subterms]
      exact (subtermsProps_sublist_of_mem props h).trans (List.sublist_cons_self _ _)
  | .unknown _, h => by
    rw [subterms] at h
    rw [List.mem_singleton.mp h]

theorem subtermsList_sublist_of_mem {u : TypeExpr} : (ts : List TypeExpr) →
    u ∈ subtermsList ts → List.Sublist u.subterms (subtermsList ts)
  | t :: ts, h => by
    rw [subtermsList] at h ⊢
    rcases List.mem_append.mp h with h | h
    · exact (subterms_sublist_of_mem t h).trans (List.sublist_append_left _ _)
    · exact (subtermsList_sublist_of_mem ts h).trans (List.sublist_append_right _ _)

theorem subtermsProps_sublist_of_mem {u : TypeExpr} : (ps : List PropertyDecl) →
    u ∈ subtermsProps ps → List.Sublist u.subterms (subtermsProps ps)
  | p :: ps, h => by
    rw [subtermsProps] at h ⊢
    rcases List.mem_append.mp h with h | h
    · exact (subterms_sublist_of_mem p.type h).trans (List.sublist_append_left _ _)
    · exact (subtermsProps_sublist_of_mem ps h).trans (List.sublist_append_right _ _)

end

mutual

/-- A type expression has as many parts as nodes. -/
theorem length_subterms : (t : TypeExpr) → t.subterms.length = t.size
  | .named _ args => by rw [subterms, size, List.length_cons, length_subtermsList args]
  | .array e => by rw [subterms, size, List.length_cons, length_subterms e]
  | .tuple items => by rw [subterms, size, List.length_cons, length_subtermsList items]
  | .union ms => by rw [subterms, size, List.length_cons, length_subtermsList ms]
  | .inline props => by rw [subterms, size, List.length_cons, length_subtermsProps props]
  | .unknown _ => rfl

theorem length_subtermsList : (ts : List TypeExpr) → (subtermsList ts).length = sizeList ts
  | [] => rfl
  | t :: ts => by
    rw [subtermsList, sizeList, List.length_append, length_subterms t, length_subtermsList ts]

theorem length_subtermsProps : (ps : List PropertyDecl) →
    (subtermsProps ps).length = sizeProps ps
  | [] => rfl
  | p :: ps => by
    rw [subtermsProps, sizeProps, List.length_append, length_subterms p.type,
      length_subtermsProps ps]

end

end TypeExpr

/-! ### The parts of a shape -/

namespace Shape

/-- The type expressions a shape hands on to be resolved. -/
def parts : Shape → List TypeExpr
  | .array e => [e]
  | .union _ ms => ms
  | .generic _ args => args
  | .object _ _ ps => ps.map (·.type)
  | _ => []

/-- The name a shape carries: an enumeration's, a payload enumeration's or a class's. -/
def name? : Shape → Option String
  | .enumeration n _ => n
  | .union n _ => n
  | .object n _ _ => n
  | _ => none

end Shape

/-- The parts a built-in name hands on are among its arguments, or the `null` of an option. -/
theorem builtinShape?_parts {name : String} {args : List TypeExpr} {sh : Shape} {v : TypeExpr}
    (h : builtinShape? name args = some sh) (hv : v ∈ sh.parts) :
    v ∈ args.take 1 ∨ (v = .simple "null" ∧ args ≠ []) := by
  cases args with
  | nil =>
    simp only [builtinShape?] at h
    split_ifs at h <;> cases h <;> simp [Shape.parts] at hv
  | cons inner rest =>
    simp only [builtinShape?] at h
    split_ifs at h <;> cases h <;> simp_all [Shape.parts]

/-- A built-in name carries no name of the model. -/
theorem builtinShape?_name? {name : String} {args : List TypeExpr} {sh : Shape}
    (h : builtinShape? name args = some sh) : sh.name? = none := by
  cases args with
  | nil =>
    simp only [builtinShape?] at h
    split_ifs at h <;> cases h <;> rfl
  | cons inner rest =>
    simp only [builtinShape?] at h
    split_ifs at h <;> cases h <;> rfl

namespace Manifest

variable (m : Manifest)

/-- The type expressions a model declares: its classes' properties and its enumerations'
payloads. -/
def declaredTypes : List TypeExpr :=
  m.classes.flatMap (·.properties.map (·.type)) ++ m.enums.flatMap (·.members)

variable {m}

theorem mem_declaredTypes_of_class {c : ClassDecl} {p : PropertyDecl} (hc : c ∈ m.classes)
    (hp : p ∈ c.properties) : p.type ∈ m.declaredTypes :=
  List.mem_append_left _ (List.mem_flatMap.mpr ⟨c, hc, List.mem_map_of_mem hp⟩)

theorem mem_declaredTypes_of_enum {e : EnumDecl} {u : TypeExpr} (he : e ∈ m.enums)
    (hu : u ∈ e.members) : u ∈ m.declaredTypes :=
  List.mem_append_right _ (List.mem_flatMap.mpr ⟨e, he, hu⟩)

/-- What a class shape stands for: a class of the model at some arguments. -/
theorem shapeOf_eq_object_some {t : TypeExpr} {c : String} {b : List (String × TypeExpr)}
    {ps : List PropertyDecl} (h : m.shapeOf t = .object (some c) b ps) :
    ∃ cl ∈ m.classes, ∃ args, b = cl.typeParams.zip args ∧ ps = cl.properties := by
  cases t with
  | named name args =>
    simp only [shapeOf, namedShape] at h
    split at h
    next sh hb => cases h ▸ builtinShape?_name? hb
    next =>
      split at h
      next cl hcl =>
        cases h
        exact ⟨cl, List.mem_of_find?_eq_some hcl, args, rfl, rfl⟩
      next =>
        split at h
        next e _ => split at h <;> cases h
        next => split at h <;> cases h
  | tuple items => cases items <;> cases h
  | _ => cases h

/-- What a payload-enumeration shape stands for: an enumeration of the model with members, by
its name. -/
theorem shapeOf_eq_union_some {t : TypeExpr} {n : String} {ms : List TypeExpr}
    (h : m.shapeOf t = .union (some n) ms) :
    ∃ e ∈ m.enums, e.name = n ∧ e.members = ms ∧ e.members ≠ [] := by
  cases t with
  | named name args =>
    simp only [shapeOf, namedShape] at h
    split at h
    next sh hb => cases h ▸ builtinShape?_name? hb
    next =>
      split at h
      next => cases h
      next =>
        split at h
        next e he =>
          split at h
          next => cases h
          next hne =>
            cases h
            exact ⟨e, List.mem_of_find?_eq_some he, rfl, rfl, by simpa using hne⟩
        next => split at h <;> cases h
  | tuple items => cases items <;> cases h
  | _ => cases h

/-- Each part of the shape of `t` is inside `t`, the `null` of an option, or a declared type. -/
theorem mem_parts_shapeOf {t v : TypeExpr} (hv : v ∈ (m.shapeOf t).parts) :
    v.subterms ⊆ t.subterms ∨ v = .simple "null" ∨ v ∈ m.declaredTypes := by
  cases t with
  | named name args =>
    have harg : v ∈ args → v.subterms ⊆ (TypeExpr.named name args).subterms := fun h =>
      List.Subset.trans (TypeExpr.subterms_subset_subtermsList h) (by rw [TypeExpr.subterms]; simp)
    simp only [shapeOf, namedShape] at hv
    split at hv
    next sh hb =>
      rcases builtinShape?_parts hb hv with h | ⟨rfl, -⟩
      · exact .inl (harg (List.mem_of_mem_take h))
      · exact .inr (.inl rfl)
    next =>
      split at hv
      next cl hcl =>
        simp only [Shape.parts, List.mem_map] at hv
        obtain ⟨p, hp, rfl⟩ := hv
        exact .inr (.inr (mem_declaredTypes_of_class (List.mem_of_find?_eq_some hcl) hp))
      next =>
        split at hv
        next e he =>
          split at hv
          next => simp [Shape.parts] at hv
          next => exact .inr (.inr (mem_declaredTypes_of_enum (List.mem_of_find?_eq_some he) hv))
        next =>
          split at hv
          next => simp [Shape.parts] at hv
          next => exact .inl (harg hv)
  | array e =>
    simp only [shapeOf, Shape.parts, List.mem_singleton] at hv
    subst hv
    exact .inl (by rw [TypeExpr.subterms]; exact List.subset_cons_self _ _)
  | tuple items => cases items <;> simp [shapeOf, Shape.parts] at hv
  | union ms =>
    simp only [shapeOf, Shape.parts] at hv
    exact .inl (List.Subset.trans (TypeExpr.subterms_subset_subtermsList hv)
      (by rw [TypeExpr.subterms]; simp))
  | inline props =>
    simp only [shapeOf, Shape.parts, List.mem_map] at hv
    obtain ⟨p, hp, rfl⟩ := hv
    exact .inl (List.Subset.trans (TypeExpr.subterms_subset_subtermsProps hp)
      (by rw [TypeExpr.subterms]; simp))
  | unknown x => simp [shapeOf, Shape.parts] at hv

/-- A part of a shape that carries no name is smaller than the type. -/
theorem size_lt_of_mem_parts {t v : TypeExpr} (hv : v ∈ (m.shapeOf t).parts)
    (hn : (m.shapeOf t).name? = none) : v.size < t.size := by
  cases t with
  | named name args =>
    simp only [shapeOf, namedShape] at hv hn
    rw [TypeExpr.size]
    split at hv
    next sh hb =>
      rcases builtinShape?_parts hb hv with h | ⟨rfl, hne⟩
      · have := TypeExpr.size_le_sizeList (List.mem_of_mem_take h)
        omega
      · -- the `null` of an option has size one, below the option of any argument
        obtain ⟨a, as, rfl⟩ := List.exists_cons_of_ne_nil hne
        have : 0 < a.size := by cases a <;> simp [TypeExpr.size]
        simp only [TypeExpr.simple, TypeExpr.size, TypeExpr.sizeList]
        omega
    next =>
      split at hv
      next => simp_all [Shape.name?]
      next =>
        split at hv
        next e _ => split at hv <;> simp_all [Shape.name?]
        next =>
          split at hv
          next => simp [Shape.parts] at hv
          next =>
            simp only [Shape.parts] at hv
            have := TypeExpr.size_le_sizeList hv
            omega
  | array e =>
    simp only [shapeOf, Shape.parts, List.mem_singleton] at hv
    subst hv
    rw [TypeExpr.size]
    omega
  | tuple items => cases items <;> simp [shapeOf, Shape.parts] at hv
  | union ms =>
    simp only [shapeOf, Shape.parts] at hv
    have := TypeExpr.size_le_sizeList hv
    rw [TypeExpr.size]
    omega
  | inline props =>
    simp only [shapeOf, Shape.parts, List.mem_map] at hv
    obtain ⟨p, hp, rfl⟩ := hv
    have := TypeExpr.size_le_sizeProps hp
    rw [TypeExpr.size]
    omega
  | unknown x => simp [shapeOf, Shape.parts] at hv

variable (m)

/-- The types a resolution of `t0` can meet: the parts of `t0` and of the declared types, and
the `null` of an option. -/
def closure (t0 : TypeExpr) : List TypeExpr :=
  (t0 :: m.declaredTypes).flatMap TypeExpr.subterms ++ [.simple "null"]

/-- The identities a resolution of `t0` can enter: the texts of the types of its closure, and
the names of the enumerations. -/
def identities (t0 : TypeExpr) : Finset String :=
  ((m.closure t0).map TypeExpr.display ++ m.enums.map (·.name)).toFinset

variable {m}

theorem mem_closure_of_mem_subterms {t0 r u : TypeExpr} (hr : r ∈ t0 :: m.declaredTypes)
    (hu : u ∈ r.subterms) : u ∈ m.closure t0 :=
  List.mem_append_left _ (List.mem_flatMap.mpr ⟨r, hr, hu⟩)

theorem mem_closure_of_declared {t0 u : TypeExpr} (hu : u ∈ m.declaredTypes) :
    u ∈ m.closure t0 :=
  mem_closure_of_mem_subterms (List.mem_cons_of_mem _ hu) (TypeExpr.mem_subterms_self u)

theorem mem_closure_self (t0 : TypeExpr) : t0 ∈ m.closure t0 :=
  mem_closure_of_mem_subterms (List.mem_cons_self) (TypeExpr.mem_subterms_self t0)

/-- The closure holds the parts of the shapes of its members. -/
theorem parts_mem_closure {t0 t v : TypeExpr} (ht : t ∈ m.closure t0)
    (hv : v ∈ (m.shapeOf t).parts) : v ∈ m.closure t0 := by
  rcases List.mem_append.mp ht with ht | ht
  · obtain ⟨r, hr, htr⟩ := List.mem_flatMap.mp ht
    rcases mem_parts_shapeOf hv with hsub | rfl | hdecl
    · exact mem_closure_of_mem_subterms hr
        ((TypeExpr.subterms_sublist_of_mem r htr).subset (hsub (TypeExpr.mem_subterms_self v)))
    · exact List.mem_append_right _ (List.mem_singleton_self _)
    · exact mem_closure_of_declared hdecl
  · -- `null` hands on nothing
    rw [List.mem_singleton.mp ht, show m.shapeOf (.simple "null") = .null from rfl] at hv
    simp [Shape.parts] at hv

/-! ### How large the closure is -/

/-- The declared types, with one more for each enumeration, are no larger than the model. -/
theorem sum_size_declaredTypes_add_length_enums_le :
    (m.declaredTypes.map TypeExpr.size).sum + m.enums.length ≤ m.size := by
  -- a class counts its properties and more, an enumeration its members and one
  have hclass : ((m.classes.flatMap (·.properties.map (·.type))).map TypeExpr.size).sum ≤
      (m.classes.map fun c => TypeExpr.sizeProps c.properties + c.typeParams.length +
        (c.methods.map fun md => TypeExpr.sizeList (md.params.map (·.type)) +
          (md.returns.map TypeExpr.size).getD 0).sum).sum := by
    simp only [List.flatMap, List.map_flatten, List.sum_flatten, List.map_map]
    apply List.sum_le_sum
    intro c _
    show ((c.properties.map (·.type)).map TypeExpr.size).sum ≤ _
    rw [← TypeExpr.sizeProps_eq_sum]
    omega
  have henum : ((m.enums.flatMap (·.members)).map TypeExpr.size).sum + m.enums.length =
      (m.enums.map fun e => TypeExpr.sizeList e.members + 1).sum := by
    simp [List.flatMap, List.map_flatten, List.sum_flatten, Function.comp_def,
      TypeExpr.sizeList_eq_sum, List.sum_map_add]
  unfold size declaredTypes
  simp only [← List.sum_eq_foldr, List.map_append, List.sum_append]
  omega

theorem length_closure (t0 : TypeExpr) :
    (m.closure t0).length = t0.size + (m.declaredTypes.map TypeExpr.size).sum + 1 := by
  simp [closure, List.length_flatMap, TypeExpr.length_subterms, Nat.add_assoc]

/-- No type of the closure has more nodes than the closure has members. -/
theorem size_le_length_closure {t0 u : TypeExpr} (hu : u ∈ m.closure t0) :
    u.size ≤ (m.closure t0).length := by
  rcases List.mem_append.mp hu with hu | hu
  · obtain ⟨r, hr, hur⟩ := List.mem_flatMap.mp hu
    calc u.size = u.subterms.length := (TypeExpr.length_subterms u).symm
      _ ≤ r.subterms.length := (TypeExpr.subterms_sublist_of_mem r hur).length_le
      _ ≤ ((t0 :: m.declaredTypes).flatMap TypeExpr.subterms).length := by
        rw [List.length_flatMap]
        exact List.le_sum_of_mem (List.mem_map_of_mem hr)
      _ ≤ (m.closure t0).length := by simp [closure]
  · rw [List.mem_singleton.mp hu, show (TypeExpr.simple "null").size = 1 from rfl, closure,
      List.length_append, List.length_singleton]
    omega

theorem card_identities_le (t0 : TypeExpr) :
    (m.identities t0).card ≤ (m.closure t0).length + m.enums.length :=
  calc (m.identities t0).card
      ≤ ((m.closure t0).map TypeExpr.display ++ m.enums.map (·.name)).length :=
        List.toFinset_card_le _
    _ = (m.closure t0).length + m.enums.length := by simp

end Manifest

/-! ### The resolver without bindings -/

namespace ResolverState

/-- A state that binds no type parameter. -/
def Unbound (s : ResolverState) : Prop := ∀ sc ∈ s.scopes, sc = []

/-- Two states that describe the same types under the same bindings. -/
def SameFrame (s s' : ResolverState) : Prop := s'.stack = s.stack ∧ s'.scopes = s.scopes

variable {s s₁ s₂ : ResolverState}

theorem SameFrame.refl (s : ResolverState) : s.SameFrame s := ⟨rfl, rfl⟩

theorem SameFrame.trans (h₁ : s.SameFrame s₁) (h₂ : s₁.SameFrame s₂) : s.SameFrame s₂ :=
  ⟨h₂.1.trans h₁.1, h₂.2.trans h₁.2⟩

theorem Unbound.of_scopes (hs : s.Unbound) (h : s₁.scopes = s.scopes) : s₁.Unbound := by
  intro sc hsc
  exact hs sc (h ▸ hsc)

theorem Unbound.of_sameFrame (hs : s.Unbound) (h : s.SameFrame s₁) : s₁.Unbound :=
  hs.of_scopes h.2

theorem Unbound.enter (hs : s.Unbound) {id : String} : (s.enter id).Unbound := hs

theorem rewrite_of_unbound (hs : s.Unbound) (t : TypeExpr) : s.rewrite t = t := by
  unfold rewrite
  split
  next sc _ hsc => rw [hs sc (by simp [hsc]), TypeExpr.substituteIn_nil]
  next => rfl

end ResolverState

namespace Resolver

open ResolverState

variable {env : ResolverEnv}

/-- `g` resolves `t` from `s`, in a state of the same frame. -/
def EndsBy (g : TypeExpr → ResolverState → Option (Option Descriptor × ResolverState))
    (t : TypeExpr) (s : ResolverState) : Prop :=
  ∃ r s', g t s = some (r, s') ∧ s.SameFrame s'

theorem mem_of_mem_candidates {s : ResolverState} {ms : List TypeExpr} {c : TypeExpr}
    (hs : s.Unbound) (hc : c ∈ candidates env s ms) : c ∈ ms := by
  simp only [candidates, List.mem_filter, List.mem_map, rewrite_of_unbound hs] at hc
  obtain ⟨⟨u, hu, rfl⟩, -⟩ := hc
  exact hu

/-! ### Sequencing: each step of a list ends, so the list does -/

section Sequencing

variable (env) {s : ResolverState}
  {g : TypeExpr → ResolverState → Option (Option Descriptor × ResolverState)}

theorem fieldsBy_ends {ps : List PropertyDecl}
    (h : ∀ p ∈ ps, ∀ s₁, s.SameFrame s₁ → EndsBy g p.type s₁) :
    ∃ fs s', fieldsBy env g ps s = some (fs, s') ∧ s.SameFrame s' := by
  induction ps generalizing s with
  | nil => exact ⟨[], s, rfl, SameFrame.refl s⟩
  | cons p ps ih =>
    obtain ⟨d, s₁, hd, hf₁⟩ := h p List.mem_cons_self s (SameFrame.refl s)
    obtain ⟨fs, s₂, hfs, hf₂⟩ := ih (s := s₁) fun q hq s' hf =>
      h q (List.mem_cons_of_mem _ hq) s' (hf₁.trans hf)
    exact ⟨fieldFor env p d :: fs, s₂, by simp [fieldsBy, hd, hfs], hf₁.trans hf₂⟩

theorem firstWinningBy_ends {o : Option String} {ms : List TypeExpr}
    (h : ∀ m ∈ ms, ∀ s₁, s.SameFrame s₁ → EndsBy g m s₁) :
    ∃ r s', firstWinningBy g o ms s = some (r, s') ∧ s.SameFrame s' := by
  induction ms generalizing s with
  | nil => exact ⟨none, s, rfl, SameFrame.refl s⟩
  | cons m ms ih =>
    obtain ⟨d, s₁, hd, hf₁⟩ := h m List.mem_cons_self s (SameFrame.refl s)
    cases hw : winner o d with
    | some w => exact ⟨some w, s₁, by simp [firstWinningBy, hd, hw], hf₁⟩
    | none =>
      obtain ⟨r, s₂, hr, hf₂⟩ := ih (s := s₁) fun q hq s' hf =>
        h q (List.mem_cons_of_mem _ hq) s' (hf₁.trans hf)
      exact ⟨r, s₂, by simp [firstWinningBy, hd, hw, hr], hf₁.trans hf₂⟩

end Sequencing

/-! ### One step of each kind -/

section Steps

variable {f : Nat} {s : ResolverState}

theorem narrowWith_ends {o : Option String} {ms : List TypeExpr}
    (h : ∀ c ∈ candidates env s ms, ∀ s₁, s.SameFrame s₁ →
      EndsBy (resolveWith env f) c s₁) :
    ∃ r s', narrowWith env (f + 1) ms o s = some (r, s') ∧ s.SameFrame s' := by
  cases hc : onlyOne? (candidates env s ms) with
  | some c =>
    have hmem : c ∈ candidates env s ms := by
      unfold onlyOne? at hc
      split at hc <;> simp_all
    obtain ⟨d, s', hd, hf⟩ := h c hmem s (SameFrame.refl s)
    exact ⟨notOwner o d, s', by simp [narrowWith, hc, hd], hf⟩
  | none =>
    obtain ⟨r, s', hr, hf⟩ := firstWinningBy_ends (o := o) h
    exact ⟨r, s', by simp [narrowWith, hc, hr], hf⟩

/-- A class that binds nothing resolves once each of its properties resolves with the class on
the stack. -/
theorem namedObjectWith_ends {id : String} {ps : List PropertyDecl}
    (h : id ∉ s.stack → ∀ p ∈ ps, ∀ s₁ : ResolverState, s₁.stack = id :: s.stack →
      s₁.scopes = [] :: s.scopes → EndsBy (resolveWith env f) p.type s₁) :
    ∃ r s', namedObjectWith env (f + 1) id [] ps s = some (r, s') ∧ s.SameFrame s' := by
  cases ha : s.arena.get? id with
  | some d => exact ⟨some d, s, by simp [namedObjectWith, ha], SameFrame.refl s⟩
  | none =>
    cases hc : s.stack.contains id with
    | true =>
      have hin : id ∈ s.stack := by simpa using hc
      exact ⟨some (.reference id), s.note (.circularReference id),
        by simp [namedObjectWith, ha, hin], by simp [SameFrame]⟩
    | false =>
      have hnot : id ∉ s.stack := by simpa using hc
      obtain ⟨fs, s', hfs, hf⟩ := fieldsBy_ends env (s := (s.enter id).withScope [])
        fun p hp s₁ hf₁ => h hnot p hp s₁ (by simp [hf₁.1]) (by simp [hf₁.2])
      let d := Descriptor.object (some id) fs
      exact ⟨some d, (s'.dropScope.leave id).record id d,
        by simp [d, namedObjectWith, ha, hnot, hfs], by simp [SameFrame, hf.1, hf.2]⟩

/-- An enumeration with payloads resolves once each of its candidates resolves with the
enumeration on the stack. -/
theorem namedUnionWith_ends {id : String} {ms : List TypeExpr}
    (h : id ∉ s.stack → ∀ c ∈ candidates env (s.enter id) ms, ∀ s₁ : ResolverState,
      s₁.stack = id :: s.stack → s₁.scopes = s.scopes → EndsBy (resolveWith env f) c s₁) :
    ∃ r s', namedUnionWith env (f + 2) id ms s = some (r, s') ∧ s.SameFrame s' := by
  cases ha : s.arena.get? id with
  | some d => exact ⟨some d, s, by simp [namedUnionWith, ha], SameFrame.refl s⟩
  | none =>
    cases hc : s.stack.contains id with
    | true =>
      have hin : id ∈ s.stack := by simpa using hc
      exact ⟨some (.reference id), s.note (.circularReference id),
        by simp [namedUnionWith, ha, hin], by simp [SameFrame]⟩
    | false =>
      have hnot : id ∉ s.stack := by simpa using hc
      obtain ⟨r, s', hr, hf⟩ := narrowWith_ends (s := s.enter id) (o := some id)
        fun c hcand s₁ hf₁ => h hnot c hcand s₁ (by simp [hf₁.1]) (by simp [hf₁.2])
      exact ⟨r, (s'.leave id).keep id r, by simp [namedUnionWith, ha, hnot, hr],
        by simp [SameFrame, hf.1, hf.2]⟩

end Steps

/-! ### Enough steps -/

/-- The nested steps that resolve a type of size `k` with `n` identities left to enter, when no
type met on the way has more than `K` nodes: every entry costs three steps and at most `K + 1`
in between. -/
def stepsFor (K n k : Nat) : Nat := 3 * (n * (K + 1) + k + 1)

theorem stepsFor_of_size_lt {K n k k' : Nat} (h : k' < k) :
    stepsFor K n k' + 2 ≤ stepsFor K n k := by
  unfold stepsFor
  omega

theorem stepsFor_of_enter {K n n' k k' : Nat} (hn : n' < n) (hk : k' ≤ K) :
    stepsFor K n' k' + 3 ≤ stepsFor K n k := by
  have : (n' + 1) * (K + 1) ≤ n * (K + 1) := Nat.mul_le_mul_right _ hn
  rw [Nat.succ_mul] at this
  unfold stepsFor
  omega

/-- Entering an identity of a finite set that is not on the stack leaves fewer of them to
enter. -/
theorem card_sdiff_enter_lt {I : Finset String} {stack : List String} {id : String}
    (hid : id ∈ I) (hnot : id ∉ stack) :
    (I \ (id :: stack).toFinset).card < (I \ stack.toFinset).card := by
  rw [List.toFinset_cons, Finset.sdiff_insert]
  exact Finset.card_erase_lt_of_mem (Finset.mem_sdiff.mpr ⟨hid, by simpa using hnot⟩)

/-- In a model without type parameters, every type of the closure of `t0` resolves from every
state that binds nothing, within `stepsFor` steps, in a state of the same frame. -/
theorem ends_of_mem_closure (hng : ∀ c ∈ env.model.classes, c.typeParams = [])
    (t0 : TypeExpr) (n k : Nat) :
    ∀ s t, (env.model.identities t0 \ s.stack.toFinset).card = n → s.Unbound →
      t.size = k → t ∈ env.model.closure t0 → ∀ f,
        stepsFor (env.model.closure t0).length n k ≤ f → EndsBy (resolveWith env f) t s := by
  induction n using Nat.strong_induction_on generalizing k with
  | _ n ihn =>
  induction k using Nat.strong_induction_on with
  | _ k ihk =>
  intro s t hn hs hk ht f hf
  -- every step of the resolution is paid for: at least three are left
  obtain ⟨f, rfl⟩ : ∃ f', f = f' + 2 + 1 := ⟨f - 3, by unfold stepsFor at hf; omega⟩
  have hrw : s.rewrite t = t := rewrite_of_unbound hs t
  -- a part of a shape without a name is smaller, and resolves in the same frame
  have smaller : ∀ v ∈ (env.model.shapeOf t).parts, (env.model.shapeOf t).name? = none →
      ∀ s₁, s.SameFrame s₁ → ∀ g, f + 1 ≤ g → EndsBy (resolveWith env g) v s₁ :=
    fun v hv hname s₁ hf₁ g hg => by
      have hlt : v.size < k := hk ▸ Manifest.size_lt_of_mem_parts hv hname
      have hsteps := stepsFor_of_size_lt (K := (env.model.closure t0).length) (n := n) hlt
      exact ihk v.size hlt s₁ v (hf₁.1 ▸ hn) (hs.of_sameFrame hf₁) rfl
        (Manifest.parts_mem_closure ht hv) g (by omega)
  -- once a new identity of the closure is entered, every type of the closure resolves
  have entered : ∀ id ∈ env.model.identities t0, id ∉ s.stack → ∀ s₁ : ResolverState,
      s₁.stack = id :: s.stack → s₁.Unbound → ∀ v ∈ env.model.closure t0,
        ∀ g, f ≤ g → EndsBy (resolveWith env g) v s₁ :=
    fun id hid hnot s₁ hst hu v hv g hg => by
      have hlt := hn ▸ hst ▸ card_sdiff_enter_lt hid hnot
      have hsteps := stepsFor_of_enter (k := k) hlt (Manifest.size_le_length_closure hv)
      exact ihn _ hlt v.size s₁ v rfl hu rfl hv g (by omega)
  unfold EndsBy
  rw [resolveWith]
  dsimp only
  rw [hrw]
  cases hsh : env.model.shapeOf t with
  | void => exact ⟨none, s, rfl, SameFrame.refl s⟩
  | null => exact ⟨none, s, rfl, SameFrame.refl s⟩
  | primitive name => exact ⟨_, s, rfl, SameFrame.refl s⟩
  | array e =>
    obtain ⟨d, s', hd, hf⟩ := smaller e (by simp [hsh, Shape.parts])
      (by simp [hsh, Shape.name?]) s (SameFrame.refl s) (f + 2) (by omega)
    exact ⟨some (.array (d.getD Descriptor.freeObject)), s', by simp [hd], hf⟩
  | enumeration name vs => exact ⟨_, _, rfl, by simp [SameFrame]⟩
  | union name ms =>
    cases name with
    | none =>
      obtain ⟨r, s', hr, hf⟩ := narrowWith_ends (f := f + 1) (o := none) fun c hc s₁ hf₁ =>
        smaller c (by simpa [hsh, Shape.parts] using mem_of_mem_candidates hs hc)
          (by simp [hsh, Shape.name?]) s₁ hf₁ (f + 1) le_rfl
      exact ⟨r, s', hr, hf⟩
    | some id =>
      obtain ⟨e, he, rfl, rfl, -⟩ := Manifest.shapeOf_eq_union_some hsh
      have hid : e.name ∈ env.model.identities t0 := by
        simp only [Manifest.identities, List.mem_toFinset, List.mem_append, List.mem_map]
        exact .inr ⟨e, he, rfl⟩
      -- the members are declared, so each resolves once the enumeration is entered
      exact namedUnionWith_ends fun hnot c hcand s₁ hst hsc =>
        entered e.name hid hnot s₁ hst (hs.of_scopes hsc) c
          (Manifest.mem_closure_of_declared (Manifest.mem_declaredTypes_of_enum he
            (mem_of_mem_candidates hs.enter hcand))) f le_rfl
  | generic name args =>
    by_cases hw : name ∈ env.wrappers
    · cases args with
      | nil => exact ⟨none, s, by simp [hw], SameFrame.refl s⟩
      | cons a as =>
        obtain ⟨r, s', hr, hf⟩ := smaller a (by simp [hsh, Shape.parts])
          (by simp [hsh, Shape.name?]) s (SameFrame.refl s) (f + 2) (by omega)
        exact ⟨r, s', by simpa [hw] using hr, hf⟩
    · exact ⟨none, s, by simp [hw], SameFrame.refl s⟩
  | object name b ps =>
    cases name with
    | none =>
      cases ps with
      | nil => exact ⟨none, s, rfl, SameFrame.refl s⟩
      | cons p ps =>
        obtain ⟨fs, s', hfs, hf⟩ := fieldsBy_ends env fun q hq s₁ hf₁ =>
          smaller q.type (by rw [hsh]; exact List.mem_map_of_mem hq)
            (by simp [hsh, Shape.name?]) s₁ hf₁ (f + 2) (by omega)
        exact ⟨some (.object none fs), s', by simp [hfs], hf⟩
    | some c =>
      obtain ⟨cl, hcl, args, rfl, rfl⟩ := Manifest.shapeOf_eq_object_some hsh
      -- a class without type parameters binds nothing
      have hb : cl.typeParams.zip args = [] := by rw [hng cl hcl]; rfl
      have hid : t.display ∈ env.model.identities t0 := by
        simp only [Manifest.identities, List.mem_toFinset, List.mem_append, List.mem_map]
        exact .inl ⟨t, ht, rfl⟩
      rw [hb]
      -- the properties are declared, so each resolves once the class is entered
      exact namedObjectWith_ends fun hnot q hq s₁ hst hsc =>
        entered t.display hid hnot s₁ hst (by
            intro sc hsc'
            rw [hsc, List.mem_cons] at hsc'
            exact hsc'.elim id (hs sc)) q.type
          (Manifest.mem_closure_of_declared (Manifest.mem_declaredTypes_of_class hcl hq))
          (f + 1) (by omega)
  | unknown x => exact ⟨none, s, rfl, SameFrame.refl s⟩

/-- The budget of a resolution covers `stepsFor` at the size of the closure and the number of
identities, both bounded by the sizes of the model and of the type. -/
theorem stepsFor_le_budget (t : TypeExpr) {n : Nat}
    (hn : n ≤ (env.model.identities t).card) :
    stepsFor (env.model.closure t).length n t.size ≤ budget env t := by
  have hsize := Manifest.sum_size_declaredTypes_add_length_enums_le (m := env.model)
  have hlen := Manifest.length_closure (m := env.model) t
  have hcard := Manifest.card_identities_le (m := env.model) t
  obtain ⟨W, hW⟩ : ∃ W, W = env.model.size + t.size + 1 := ⟨_, rfl⟩
  have hK : (env.model.closure t).length ≤ W := by omega
  have hnW : n ≤ W := by omega
  have hk : t.size ≤ W := by omega
  calc stepsFor (env.model.closure t).length n t.size
      = 3 * (n * ((env.model.closure t).length + 1) + t.size + 1) := rfl
    _ ≤ 3 * (W * (W + 1) + W + 1) := by gcongr
    _ = 3 * (W + 1) * (W + 1) := by ring
    _ ≤ budget env t := by
      unfold budget
      dsimp only
      rw [show env.model.size + t.size + 2 = W + 1 by omega]
      omega

/-- In a model without type parameters, resolving any type from a state that binds nothing ends
within its budget, and leaves the stack and the bindings as it found them. -/
theorem resolve_ends_of_unbound (hng : ∀ c ∈ env.model.classes, c.typeParams = [])
    (t : TypeExpr) {s : ResolverState} (hs : s.Unbound) :
    ∃ r s', resolve env t s = some (r, s') ∧ s.SameFrame s' :=
  ends_of_mem_closure hng t _ _ s t rfl hs rfl (Manifest.mem_closure_self t) _
    (stepsFor_le_budget t (Finset.card_le_card Finset.sdiff_subset))

end Resolver

end ApiSpec
