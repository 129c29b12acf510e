import ApiSpec.Resolve.Resolver

/-!
# Big-step semantics of the resolver

The resolver is the program's own recursion, and some resolutions never end (a class that
instantiates itself at ever larger arguments is met at a new identity each time). A resolution
that ends is described by a derivation: `Resolver.Resolves env t s r s'` says that resolving
`t` from the state `s` ends with the result `r` in the state `s'`, and `Fields`, `NamedObject`,
`NamedUnion`, `Narrows` and `FirstWinning` say the same of the helpers. There is one rule for
each branch of the code.

* `Resolver.resolves_of_eq_some`: what the resolver returns has a derivation, whatever fuel it
  ran with. The induction is on the fuel, with one case per body of the four fuelled functions.

A property of every resolution that ends is then proved by induction on derivations, and a
resolution without any derivation never ends.
-/

namespace ApiSpec

/-! ### What each state update changes -/

namespace ResolverState

variable (s : ResolverState) (id : String) (d : Descriptor) (sc : List (String × TypeExpr))

@[simp] theorem enter_stack : (s.enter id).stack = id :: s.stack := rfl
@[simp] theorem enter_scopes : (s.enter id).scopes = s.scopes := rfl
@[simp] theorem enter_arena : (s.enter id).arena = s.arena := rfl
@[simp] theorem leave_stack : (s.leave id).stack = s.stack.erase id := rfl
@[simp] theorem leave_scopes : (s.leave id).scopes = s.scopes := rfl
@[simp] theorem leave_arena : (s.leave id).arena = s.arena := rfl
@[simp] theorem withScope_stack : (s.withScope sc).stack = s.stack := rfl
@[simp] theorem withScope_scopes : (s.withScope sc).scopes = sc :: s.scopes := rfl
@[simp] theorem withScope_arena : (s.withScope sc).arena = s.arena := rfl
@[simp] theorem dropScope_stack : s.dropScope.stack = s.stack := rfl
@[simp] theorem dropScope_scopes : s.dropScope.scopes = s.scopes.drop 1 := rfl
@[simp] theorem dropScope_arena : s.dropScope.arena = s.arena := rfl
@[simp] theorem record_stack : (s.record id d).stack = s.stack := rfl
@[simp] theorem record_scopes : (s.record id d).scopes = s.scopes := rfl
@[simp] theorem record_arena : (s.record id d).arena = s.arena.insert id d := rfl
@[simp] theorem note_stack (n : Notice) : (s.note n).stack = s.stack := rfl
@[simp] theorem note_scopes (n : Notice) : (s.note n).scopes = s.scopes := rfl
@[simp] theorem note_arena (n : Notice) : (s.note n).arena = s.arena := rfl

@[simp] theorem recordAs_stack (o : Option String) : (s.recordAs o d).stack = s.stack := by
  cases o <;> rfl

@[simp] theorem recordAs_scopes (o : Option String) : (s.recordAs o d).scopes = s.scopes := by
  cases o <;> rfl

@[simp] theorem keep_stack (r : Option Descriptor) : (s.keep id r).stack = s.stack := by
  unfold keep; split <;> rfl

@[simp] theorem keep_scopes (r : Option Descriptor) : (s.keep id r).scopes = s.scopes := by
  unfold keep; split <;> rfl

end ResolverState

namespace Resolver

/-! ### Derivations -/

variable (env : ResolverEnv)

mutual

/-- `Resolves env t s r s'`: resolving `t` from `s` ends with `r` in `s'`. -/
inductive Resolves : TypeExpr → ResolverState → Option Descriptor → ResolverState → Prop
  | void {t s} : env.model.shapeOf (s.rewrite t) = .void → Resolves t s none s
  | null {t s} : env.model.shapeOf (s.rewrite t) = .null → Resolves t s none s
  | primitive {t s n} : env.model.shapeOf (s.rewrite t) = .primitive n →
      Resolves t s (Descriptor.ofPrimitiveName? n) s
  | array {t s e d s'} : env.model.shapeOf (s.rewrite t) = .array e → Resolves e s d s' →
      Resolves t s (some (.array (d.getD .freeObject))) s'
  | enumeration {t s n vs} : env.model.shapeOf (s.rewrite t) = .enumeration n vs →
      Resolves t s (some (.enumeration n vs)) (s.recordAs n (.enumeration n vs))
  | namedUnion {t s n ms r s'} : env.model.shapeOf (s.rewrite t) = .union (some n) ms →
      NamedUnion n ms s r s' → Resolves t s r s'
  | union {t s ms r s'} : env.model.shapeOf (s.rewrite t) = .union none ms →
      Narrows ms none s r s' → Resolves t s r s'
  | wrapper {t s n a as r s'} : env.model.shapeOf (s.rewrite t) = .generic n (a :: as) →
      env.wrappers.contains n = true → Resolves a s r s' → Resolves t s r s'
  | bareWrapper {t s n} : env.model.shapeOf (s.rewrite t) = .generic n [] →
      env.wrappers.contains n = true → Resolves t s none s
  | generic {t s n as} : env.model.shapeOf (s.rewrite t) = .generic n as →
      env.wrappers.contains n = false → Resolves t s none s
  | namedObject {t s c b ps r s'} : env.model.shapeOf (s.rewrite t) = .object (some c) b ps →
      NamedObject (s.rewrite t).display b ps s r s' → Resolves t s r s'
  | emptyObject {t s b} : env.model.shapeOf (s.rewrite t) = .object none b [] →
      Resolves t s none s
  | inlineObject {t s b p ps fs s'} : env.model.shapeOf (s.rewrite t) = .object none b (p :: ps) →
      Fields (p :: ps) s fs s' → Resolves t s (some (.object none fs)) s'
  | unknown {t s x} : env.model.shapeOf (s.rewrite t) = .unknown x → Resolves t s none s

/-- `Fields env ps s fs s'`: the fields of the declarations `ps`, resolved in order. -/
inductive Fields : List PropertyDecl → ResolverState → List Field → ResolverState → Prop
  | nil {s} : Fields [] s [] s
  | cons {p ps s d s₁ fs s₂} : Resolves p.type s d s₁ → Fields ps s₁ fs s₂ →
      Fields (p :: ps) s (fieldFor env p d :: fs) s₂

/-- `NamedObject env id b ps s r s'`: the class at identity `id` is found in the arena, met
again while it is being described, or described afresh and recorded. -/
inductive NamedObject : String → List (String × TypeExpr) → List PropertyDecl →
    ResolverState → Option Descriptor → ResolverState → Prop
  | memo {id b ps s d} : s.arena.get? id = some d → NamedObject id b ps s (some d) s
  | cycle {id b ps s} : s.arena.get? id = none → s.stack.contains id = true →
      NamedObject id b ps s (some (.reference id)) (s.note (.circularReference id))
  | fresh {id b ps s fs s'} : s.arena.get? id = none → s.stack.contains id = false →
      Fields ps ((s.enter id).withScope (b.map fun (p, a) => (p, s.rewrite a))) fs s' →
      NamedObject id b ps s (some (.object (some id) fs))
        ((s'.dropScope.leave id).record id (.object (some id) fs))

/-- `NamedUnion env id ms s r s'`: the same for an enumeration with payloads, whose result is
the member it narrows to. -/
inductive NamedUnion : String → List TypeExpr → ResolverState → Option Descriptor →
    ResolverState → Prop
  | memo {id ms s d} : s.arena.get? id = some d → NamedUnion id ms s (some d) s
  | cycle {id ms s} : s.arena.get? id = none → s.stack.contains id = true →
      NamedUnion id ms s (some (.reference id)) (s.note (.circularReference id))
  | fresh {id ms s r s'} : s.arena.get? id = none → s.stack.contains id = false →
      Narrows ms (some id) (s.enter id) r s' → NamedUnion id ms s r ((s'.leave id).keep id r)

/-- `Narrows env ms o s r s'`: the union of `ms`, owned by `o`, narrows to `r`. -/
inductive Narrows : List TypeExpr → Option String → ResolverState → Option Descriptor →
    ResolverState → Prop
  | single {ms o s c d s'} : onlyOne? (candidates env s ms) = some c → Resolves c s d s' →
      Narrows ms o s (notOwner o d) s'
  | several {ms o s r s'} : onlyOne? (candidates env s ms) = none →
      FirstWinning o (candidates env s ms) s r s' → Narrows ms o s r s'

/-- `FirstWinning env o ms s r s'`: the first of `ms` that wins gives `r`. -/
inductive FirstWinning : Option String → List TypeExpr → ResolverState → Option Descriptor →
    ResolverState → Prop
  | nil {o s} : FirstWinning o [] s none s
  | win {o m ms s d s' w} : Resolves m s d s' → winner o d = some w →
      FirstWinning o (m :: ms) s (some w) s'
  | skip {o m ms s d s₁ r s₂} : Resolves m s d s₁ → winner o d = none →
      FirstWinning o ms s₁ r s₂ → FirstWinning o (m :: ms) s r s₂

end

/-! ### What the resolver returns has a derivation -/

section Sound

variable {env}

/-- Fields resolved by a function whose results have derivations have a derivation. -/
theorem fields_of_fieldsBy {r : TypeExpr → ResolverState → Option (Option Descriptor × ResolverState)}
    (hr : ∀ t s p, r t s = some p → Resolves env t s p.1 p.2) :
    ∀ ps s p, fieldsBy env r ps s = some p → Fields env ps s p.1 p.2
  | [], s, p, h => by
    rw [fieldsBy] at h
    cases h
    exact .nil
  | q :: qs, s, p, h => by
    rw [fieldsBy] at h
    simp only [Option.bind_eq_bind, Option.bind_eq_some_iff, Prod.exists, Option.pure_def,
      Option.some.injEq] at h
    obtain ⟨d, s₁, hd, fs, s₂, hfs, rfl⟩ := h
    exact .cons (hr _ _ _ hd) (fields_of_fieldsBy hr qs s₁ (fs, s₂) hfs)

/-- The same for the first winning candidate. -/
theorem firstWinning_of_firstWinningBy
    {r : TypeExpr → ResolverState → Option (Option Descriptor × ResolverState)}
    (hr : ∀ t s p, r t s = some p → Resolves env t s p.1 p.2) (o : Option String) :
    ∀ ms s p, firstWinningBy r o ms s = some p → FirstWinning env o ms s p.1 p.2
  | [], s, p, h => by
    rw [firstWinningBy] at h
    cases h
    exact .nil
  | m :: ms, s, p, h => by
    rw [firstWinningBy] at h
    simp only [Option.bind_eq_bind, Option.bind_eq_some_iff, Prod.exists] at h
    obtain ⟨d, s₁, hd, h⟩ := h
    have hm : Resolves env m s d s₁ := hr _ _ _ hd
    split at h
    next w hw => cases h; exact .win hm hw
    next hw => exact .skip hm hw (firstWinning_of_firstWinningBy hr o ms s₁ p h)

/-- What the four fuelled functions return has a derivation: induction on the fuel, one case
per body. -/
theorem resolves_of_eq_some_all (n : Nat) :
    (∀ t s p, resolveWith env n t s = some p → Resolves env t s p.1 p.2) ∧
    (∀ id b ps s p, namedObjectWith env n id b ps s = some p → NamedObject env id b ps s p.1 p.2) ∧
    (∀ id ms s p, namedUnionWith env n id ms s = some p → NamedUnion env id ms s p.1 p.2) ∧
    (∀ ms o s p, narrowWith env n ms o s = some p → Narrows env ms o s p.1 p.2) := by
  induction n with
  | zero =>
    refine ⟨?_, ?_, ?_, ?_⟩ <;> intros <;> simp_all [resolveWith, namedObjectWith,
      namedUnionWith, narrowWith]
  | succ n ih =>
    obtain ⟨ihr, iho, ihu, ihn⟩ := ih
    refine ⟨?resolve, ?object, ?union, ?narrow⟩
    case resolve =>
      intro t s p h
      rw [resolveWith] at h
      dsimp only at h
      split at h
      next hs => cases h; exact .void hs
      next hs => cases h; exact .null hs
      next hs => cases h; exact .primitive hs
      next e hs =>
        simp only [Option.bind_eq_bind, Option.bind_eq_some_iff, Prod.exists, Option.pure_def,
          Option.some.injEq] at h
        obtain ⟨d, s₁, hd, rfl⟩ := h
        exact .array hs (ihr _ _ _ hd)
      next hs => cases h; exact .enumeration hs
      next hs => exact .namedUnion hs (ihu _ _ _ _ h)
      next hs => exact .union hs (ihn _ _ _ _ h)
      next n as hs =>
        split at h
        next hw =>
          split at h
          next a _ => exact .wrapper hs hw (ihr _ _ _ h)
          next => cases h; exact .bareWrapper hs hw
        next hw => cases h; exact .generic hs (by simpa using hw)
      next hs => exact .namedObject hs (iho _ _ _ _ _ h)
      next b ps hs =>
        split at h
        next he =>
          cases h
          rw [List.isEmpty_iff.mp he] at hs
          exact .emptyObject hs
        next he =>
          obtain ⟨q, qs, rfl⟩ := List.exists_cons_of_ne_nil (by simpa using he)
          simp only [Option.bind_eq_bind, Option.bind_eq_some_iff, Prod.exists, Option.pure_def,
            Option.some.injEq] at h
          obtain ⟨fs, s₁, hfs, rfl⟩ := h
          exact .inlineObject hs (fields_of_fieldsBy ihr _ _ _ hfs)
      next hs => cases h; exact .unknown hs
    case object =>
      intro id b ps s p h
      rw [namedObjectWith] at h
      split at h
      next d hd => cases h; exact .memo hd
      next hd =>
        split at h
        next hc => cases h; exact .cycle hd hc
        next hc =>
          simp only [Option.bind_eq_bind, Option.bind_eq_some_iff, Prod.exists, Option.pure_def,
            Option.some.injEq] at h
          obtain ⟨fs, s₁, hfs, rfl⟩ := h
          exact .fresh hd (by simpa using hc) (fields_of_fieldsBy ihr _ _ _ hfs)
    case union =>
      intro id ms s p h
      rw [namedUnionWith] at h
      split at h
      next d hd => cases h; exact .memo hd
      next hd =>
        split at h
        next hc => cases h; exact .cycle hd hc
        next hc =>
          simp only [Option.bind_eq_bind, Option.bind_eq_some_iff, Prod.exists, Option.pure_def,
            Option.some.injEq] at h
          obtain ⟨r, s₁, hr, rfl⟩ := h
          exact .fresh hd (by simpa using hc) (ihn _ _ _ _ hr)
    case narrow =>
      intro ms o s p h
      rw [narrowWith] at h
      dsimp only at h
      split at h
      next c hc =>
        simp only [Option.bind_eq_bind, Option.bind_eq_some_iff, Prod.exists, Option.pure_def,
          Option.some.injEq] at h
        obtain ⟨d, s₁, hd, rfl⟩ := h
        exact .single hc (ihr _ _ _ hd)
      next hc => exact .several hc (firstWinning_of_firstWinningBy ihr _ _ _ _ h)

variable {t : TypeExpr} {s s' : ResolverState} {r : Option Descriptor}

/-- What the resolver returns has a derivation. -/
theorem resolves_of_eq_some (h : resolve env t s = some (r, s')) : Resolves env t s r s' :=
  (resolves_of_eq_some_all _).1 t s (r, s') h

/-- A resolution without any derivation never ends. -/
theorem resolve_eq_none_of_not_resolves (h : ∀ r s', ¬ Resolves env t s r s') :
    resolve env t s = none := by
  cases hr : resolve env t s with
  | none => rfl
  | some p => exact absurd (resolves_of_eq_some hr) (h p.1 p.2)

/-- A type of a named-object shape resolves only through the class at its identity. -/
theorem Resolves.namedObject_of_shape {t : TypeExpr} {s s' : ResolverState}
    {r : Option Descriptor} {c : String} {b : List (String × TypeExpr)} {ps : List PropertyDecl}
    (hs : env.model.shapeOf (s.rewrite t) = .object (some c) b ps) :
    Resolves env t s r s' → NamedObject env (s.rewrite t).display b ps s r s'
  | .namedObject hs' h => by
    obtain ⟨-, rfl, rfl⟩ := Shape.object.inj (hs'.symm.trans hs)
    exact h
  | .void hs' => nomatch hs.symm.trans hs'
  | .null hs' => nomatch hs.symm.trans hs'
  | .primitive hs' => nomatch hs.symm.trans hs'
  | .array hs' _ => nomatch hs.symm.trans hs'
  | .enumeration hs' => nomatch hs.symm.trans hs'
  | .namedUnion hs' _ => nomatch hs.symm.trans hs'
  | .union hs' _ => nomatch hs.symm.trans hs'
  | .wrapper hs' _ _ => nomatch hs.symm.trans hs'
  | .bareWrapper hs' _ => nomatch hs.symm.trans hs'
  | .generic hs' _ => nomatch hs.symm.trans hs'
  | .emptyObject hs' => nomatch hs.symm.trans hs'
  | .inlineObject hs' _ => nomatch hs.symm.trans hs'
  | .unknown hs' => nomatch hs.symm.trans hs'

end Sound

end Resolver

end ApiSpec
