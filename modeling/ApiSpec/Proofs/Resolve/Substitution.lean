import ApiSpec.Proofs.Resolve.History

/-!
# Bindings are rewritten on every call

The resolver rewrites each type it is given by the innermost bindings of type parameters, and a
type it hands on (an element, a union member, a wrapped argument, a member of an inline object,
an argument a class binds) is rewritten again when it is resolved in turn. The second rewrite
changes nothing when no argument mentions a parameter; this module says what the rewrite does to
the parameters a type mentions, and when two resolutions under different bindings take the same
steps.

* `TypeExpr.substituteIn_of_avoids`: a type that mentions no bound parameter is not rewritten;
  `TypeExpr.avoids_substituteIn`: after the rewrite a type mentions none, when no argument and no
  inline member of the type does.
* `Resolver.Mirror`: a state, and the same state under other bindings, that rewrite alike every
  type their resolutions hand on. `Resolver.alike`: two such resolutions take the same steps and
  give the same result in the same state, but for the bindings. The induction is on the depth
  bound, with one lemma for each of the four fuelled functions; a class puts the same bindings
  innermost in both, so below it the two rewrite every type alike.
* `Resolver.fieldsBy_sim`, `Resolver.firstWinningBy_sim`: runs over the properties of an object
  and over the candidates of a union agree when they agree on each element.
-/

namespace ApiSpec

namespace TypeExpr

/-! ### The names a type mentions -/

/-- The name a type expression is, when it is a bare name. -/
def bareName? : TypeExpr → Option String
  | .named n [] => some n
  | _ => none

/-- The bare names a type expression mentions, inline members included. -/
def names (t : TypeExpr) : List String := t.subterms.filterMap bareName?

/-- `t` mentions none of the parameters that `scope` binds. -/
def Avoids (scope : List (String × TypeExpr)) (t : TypeExpr) : Prop :=
  ∀ b ∈ scope, b.1 ∉ t.names

instance (scope : List (String × TypeExpr)) (t : TypeExpr) : Decidable (t.Avoids scope) :=
  inferInstanceAs (Decidable (∀ b ∈ scope, b.1 ∉ t.names))

/-- No inline member of `t` mentions a parameter that `scope` binds. -/
def InlineAvoids (scope : List (String × TypeExpr)) (t : TypeExpr) : Prop :=
  ∀ ps, TypeExpr.inline ps ∈ t.subterms → (TypeExpr.inline ps).Avoids scope

variable {σ : List (String × TypeExpr)} {t u : TypeExpr}

theorem mem_names {n : String} : n ∈ t.names ↔ .named n [] ∈ t.subterms := by
  simp only [names, List.mem_filterMap]
  constructor
  · rintro ⟨v, hv, hn⟩
    -- only a bare name has a name
    cases v with
    | named m args =>
      cases args with
      | nil =>
        simp only [bareName?, Option.some.injEq] at hn
        exact hn ▸ hv
      | cons => simp [bareName?] at hn
    | _ => simp [bareName?] at hn
  · exact fun h => ⟨_, h, rfl⟩

theorem mem_subtermsList {ts : List TypeExpr} :
    u ∈ subtermsList ts ↔ ∃ t ∈ ts, u ∈ t.subterms := by
  induction ts with
  | nil => simp [subtermsList]
  | cons t ts ih => simp [subtermsList, ih]

theorem Avoids.mono (h : t.Avoids σ) (hu : u.subterms ⊆ t.subterms) : u.Avoids σ :=
  fun b hb hn => h b hb (mem_names.mpr (hu (mem_names.mp hn)))

theorem InlineAvoids.mono (h : t.InlineAvoids σ) (hu : u.subterms ⊆ t.subterms) :
    u.InlineAvoids σ :=
  fun ps hp => h ps (hu hp)

theorem subterms_subset_named {n : String} {args : List TypeExpr} (hu : u ∈ args) :
    u.subterms ⊆ (TypeExpr.named n args).subterms :=
  List.Subset.trans (subterms_subset_subtermsList hu)
    (by rw [subterms]; exact List.subset_cons_self _ _)

theorem subterms_subset_array : u.subterms ⊆ (TypeExpr.array u).subterms := by
  rw [subterms]
  exact List.subset_cons_self _ _

theorem subterms_subset_tuple {items : List TypeExpr} (hu : u ∈ items) :
    u.subterms ⊆ (TypeExpr.tuple items).subterms :=
  List.Subset.trans (subterms_subset_subtermsList hu)
    (by rw [subterms]; exact List.subset_cons_self _ _)

theorem subterms_subset_union {ms : List TypeExpr} (hu : u ∈ ms) :
    u.subterms ⊆ (TypeExpr.union ms).subterms :=
  List.Subset.trans (subterms_subset_subtermsList hu)
    (by rw [subterms]; exact List.subset_cons_self _ _)

/-- A node that is no bare name avoids the parameters its children avoid. -/
theorem avoids_of_children (cs : List TypeExpr) (hne : ∀ n, t ≠ .named n [])
    (hsub : t.subterms = t :: subtermsList cs) (hcs : ∀ c ∈ cs, c.Avoids σ) : t.Avoids σ := by
  intro b hb hn
  rw [mem_names, hsub, List.mem_cons] at hn
  rcases hn with hn | hn
  · exact hne b.1 hn.symm
  · obtain ⟨c, hc, hm⟩ := mem_subtermsList.mp hn
    exact hcs c hc b hb (mem_names.mpr hm)

/-! ### Rewriting by bindings a type does not mention -/

mutual

/-- A type that mentions no bound parameter is not rewritten. -/
theorem substituteIn_of_avoids : (t : TypeExpr) → t.Avoids σ → t.substituteIn σ = t
  | .named n [], h => by
    rw [substituteIn]
    split
    next b a hf =>
      -- the binding found is one of the name itself, which the type mentions
      have hb : b = n := by simpa using List.find?_some hf
      subst hb
      exact absurd (mem_names.mpr (mem_subterms_self _)) (h _ (List.mem_of_find?_eq_some hf))
    next => rfl
  | .named n (a :: as), h => by
    rw [substituteIn,
      substituteList_of_avoids (a :: as) fun v hv => h.mono (subterms_subset_named hv)]
    exact List.cons_ne_nil _ _
  | .array e, h => by rw [substituteIn, substituteIn_of_avoids e (h.mono subterms_subset_array)]
  | .tuple items, h => by
    rw [substituteIn, substituteList_of_avoids items fun v hv => h.mono (subterms_subset_tuple hv)]
  | .union ms, h => by
    rw [substituteIn, substituteList_of_avoids ms fun v hv => h.mono (subterms_subset_union hv)]
  | .inline _, _ => by rw [substituteIn]
  | .unknown _, _ => by rw [substituteIn]

theorem substituteList_of_avoids : (ts : List TypeExpr) → (∀ t ∈ ts, t.Avoids σ) →
    substituteList σ ts = ts
  | [], _ => by rw [substituteList]
  | t :: ts, h => by
    rw [substituteList, substituteIn_of_avoids t (h t (List.mem_cons_self ..)),
      substituteList_of_avoids ts fun v hv => h v (List.mem_cons_of_mem _ hv)]

end

mutual

/-- After the rewrite by `σ` a type mentions no parameter of `σ`, when no argument of `σ` and no
inline member of the type does: the rewrite leaves inline members as they are. -/
theorem avoids_substituteIn (hargs : ∀ b ∈ σ, b.2.Avoids σ) :
    (t : TypeExpr) → t.InlineAvoids σ → (t.substituteIn σ).Avoids σ
  | .named n [], _ => by
    rw [substituteIn]
    split
    next b a hf => exact hargs _ (List.mem_of_find?_eq_some hf)
    next hf =>
      -- a name no binding has
      intro b hb hn
      have hbn : b.1 = n := by simpa [mem_names, subterms, subtermsList] using hn
      simpa [hbn] using List.find?_eq_none.mp hf b hb
  | .named n (a :: as), hi => by
    rw [substituteIn]
    swap
    · exact List.cons_ne_nil _ _
    refine avoids_of_children (substituteList σ (a :: as)) (by simp [substituteList]) rfl ?_
    exact avoids_substituteList hargs (a :: as) fun v hv => hi.mono (subterms_subset_named hv)
  | .array e, hi => by
    rw [substituteIn]
    refine avoids_of_children [e.substituteIn σ] (by simp) (by simp [subterms, subtermsList]) ?_
    simpa using avoids_substituteIn hargs e (hi.mono subterms_subset_array)
  | .tuple items, hi => by
    rw [substituteIn]
    refine avoids_of_children (substituteList σ items) (by simp) rfl ?_
    exact avoids_substituteList hargs items fun v hv => hi.mono (subterms_subset_tuple hv)
  | .union ms, hi => by
    rw [substituteIn]
    refine avoids_of_children (substituteList σ ms) (by simp) rfl ?_
    exact avoids_substituteList hargs ms fun v hv => hi.mono (subterms_subset_union hv)
  | .inline ps, hi => by
    rw [substituteIn]
    exact hi ps (mem_subterms_self _)
  | .unknown _, _ => by
    rw [substituteIn]
    exact avoids_of_children [] (by simp) rfl (by simp)

theorem avoids_substituteList (hargs : ∀ b ∈ σ, b.2.Avoids σ) :
    (ts : List TypeExpr) → (∀ t ∈ ts, t.InlineAvoids σ) →
      ∀ u ∈ substituteList σ ts, u.Avoids σ
  | [], _ => by simp [substituteList]
  | t :: ts, hi => by
    rw [substituteList]
    intro u hu
    rcases List.mem_cons.mp hu with rfl | hu
    · exact avoids_substituteIn hargs t (hi t (List.mem_cons_self ..))
    · exact avoids_substituteList hargs ts (fun v hv => hi v (List.mem_cons_of_mem _ hv)) u hu

end

end TypeExpr

/-! ### What a shape hands on under the same bindings -/

namespace Shape

/-- The types a shape hands on to be resolved under the bindings it was met with: its parts,
but of a class the arguments it binds, since its properties are resolved under its own
bindings. -/
def handed : Shape → List TypeExpr
  | .array e => [e]
  | .union _ ms => ms
  | .generic _ args => args
  | .object (some _) b _ => b.map (·.2)
  | .object none _ ps => ps.map (·.type)
  | _ => []

theorem handed_eq_parts {sh : Shape} (h : sh.name? = none) : sh.handed = sh.parts := by
  cases sh with
  | object n b ps => cases n <;> simp_all [handed, parts, name?]
  | _ => rfl

end Shape

namespace Manifest

variable {m : Manifest} {w v : TypeExpr}

/-- What a shape hands on is inside the type, the `null` of an option, or a member of an
enumeration of the model. -/
theorem mem_handed_shapeOf (hv : v ∈ (m.shapeOf w).handed) :
    v.subterms ⊆ w.subterms ∨ v = .simple "null" ∨ ∃ e ∈ m.enums, v ∈ e.members := by
  cases w with
  | named name args =>
    have harg : v ∈ args → v.subterms ⊆ (TypeExpr.named name args).subterms :=
      TypeExpr.subterms_subset_named
    simp only [shapeOf, namedShape] at hv
    split at hv
    next sh hb =>
      rw [Shape.handed_eq_parts (builtinShape?_name? hb)] at hv
      rcases builtinShape?_parts hb hv with h | ⟨rfl, -⟩
      · exact .inl (harg (List.mem_of_mem_take h))
      · exact .inr (.inl rfl)
    next =>
      split at hv
      next cl _ =>
        -- a class hands on the arguments it binds
        simp only [Shape.handed, List.mem_map] at hv
        obtain ⟨⟨p, a⟩, hpa, rfl⟩ := hv
        exact .inl (harg (List.of_mem_zip hpa).2)
      next =>
        split at hv
        next e he =>
          split at hv
          next => simp [Shape.handed] at hv
          next => exact .inr (.inr ⟨e, List.mem_of_find?_eq_some he, hv⟩)
        next =>
          split at hv
          next => simp [Shape.handed] at hv
          next => exact .inl (harg hv)
  | array e =>
    simp only [shapeOf, Shape.handed, List.mem_singleton] at hv
    subst hv
    exact .inl TypeExpr.subterms_subset_array
  | tuple items => cases items <;> simp [shapeOf, Shape.handed] at hv
  | union ms =>
    simp only [shapeOf, Shape.handed] at hv
    exact .inl (TypeExpr.subterms_subset_union hv)
  | inline props =>
    simp only [shapeOf, Shape.handed, List.mem_map] at hv
    obtain ⟨p, hp, rfl⟩ := hv
    exact .inl (List.Subset.trans (TypeExpr.subterms_subset_subtermsProps hp)
      (by rw [TypeExpr.subterms]; exact List.subset_cons_self _ _))
  | unknown x => simp [shapeOf, Shape.handed] at hv

/-- A type that mentions no parameter of `σ` hands on only such types, when no member of an
enumeration mentions one and `null` is not one. -/
theorem avoids_of_mem_handed {σ : List (String × TypeExpr)} (hnull : ∀ b ∈ σ, b.1 ≠ "null")
    (henums : ∀ e ∈ m.enums, ∀ u ∈ e.members, u.Avoids σ) (hw : w.Avoids σ)
    (hv : v ∈ (m.shapeOf w).handed) : v.Avoids σ := by
  rcases mem_handed_shapeOf hv with h | rfl | ⟨e, he, hu⟩
  · exact hw.mono h
  · intro b hb hn
    have : b.1 = "null" := by
      simpa [TypeExpr.mem_names, TypeExpr.simple, TypeExpr.subterms, TypeExpr.subtermsList] using hn
    exact hnull b hb this
  · exact henums e he v hu

end Manifest

/-! ### A state under other bindings -/

namespace ResolverState

/-- The state with the bindings `l` in place of its own. -/
def under (s : ResolverState) (l : List (List (String × TypeExpr))) : ResolverState :=
  { s with scopes := l }

variable (s : ResolverState) (l l' : List (List (String × TypeExpr)))

@[simp] theorem under_scopes : (s.under l).scopes = l := rfl
@[simp] theorem under_arena : (s.under l).arena = s.arena := rfl
@[simp] theorem under_stack : (s.under l).stack = s.stack := rfl
@[simp] theorem under_under : (s.under l).under l' = s.under l' := rfl
@[simp] theorem under_self : s.under s.scopes = s := rfl

theorem rewrite_under_cons (x : List (String × TypeExpr)) (t : TypeExpr) :
    (s.under (x :: l)).rewrite t = t.substituteIn x := rfl

theorem recordAs_under (o : Option String) (d : Descriptor) :
    (s.under l).recordAs o d = (s.recordAs o d).under l := by
  cases o <;> rfl

theorem keep_under (id : String) (r : Option Descriptor) :
    (s.under l).keep id r = (s.keep id r).under l := by
  unfold keep
  split <;> rfl

end ResolverState

/-- The declaration with its type replaced by its image under `g`. -/
def PropertyOf.retype (g : TypeExpr → TypeExpr) (p : PropertyDecl) : PropertyDecl :=
  { p with type := g p.type }

@[simp] theorem PropertyOf.retype_type (g : TypeExpr → TypeExpr) (p : PropertyDecl) :
    (p.retype g).type = g p.type := rfl

@[simp] theorem PropertyOf.retype_id : PropertyOf.retype id = id := rfl

namespace Resolver

open ResolverState

variable {env : ResolverEnv} {ok : TypeExpr → Prop} {l : List (List (String × TypeExpr))}
  {s s' : ResolverState}

/-- `s` under the bindings `l` rewrites alike every type that `ok` admits, the rewrite of `s`
keeps `ok`, and every shape of a type `ok` admits hands on only such types. -/
structure Mirror (env : ResolverEnv) (ok : TypeExpr → Prop) (l : List (List (String × TypeExpr)))
    (s : ResolverState) : Prop where
  rewrite_eq : ∀ v, ok v → (s.under l).rewrite v = s.rewrite v
  rewrite_ok : ∀ v, ok v → ok (s.rewrite v)
  handed_ok : ∀ w, ok w → ∀ v ∈ (env.model.shapeOf w).handed, ok v

/-- A mirror reads only the bindings of the state. -/
theorem Mirror.of_scopes (M : Mirror env ok l s) (h : s'.scopes = s.scopes) :
    Mirror env ok l s' where
  rewrite_eq v hv := by
    rw [rewrite_eq_of_scopes h, ← M.rewrite_eq v hv]
    rfl
  rewrite_ok v hv := by
    rw [rewrite_eq_of_scopes h]
    exact M.rewrite_ok v hv
  handed_ok := M.handed_ok

/-- Bindings that rewrite alike rewrite alike every type. -/
theorem Mirror.of_rewrite (h : (s.under l).rewrite = s.rewrite) :
    Mirror env (fun _ => True) l s :=
  ⟨fun v _ => congrFun h v, fun _ _ => trivial, fun _ _ _ _ => trivial⟩

/-- A result whose state is itself under the bindings `l` ends with the bindings `l`. -/
theorem scopes_eq_of_map_under {α : Type} {x : Option (α × ResolverState)}
    {p : α × ResolverState} (h : x = x.map (Prod.map id (·.under l))) (hp : x = some p) :
    p.2.scopes = l := by
  rw [hp, Option.map_some, Option.some.injEq] at h
  rw [h]
  rfl

/-! ### Fields and first winners, by resolutions that agree

Two runs over a list that resolve each element alike, the second run on the image of the list
under `g`, agree on the whole list: each element starts from two states that differ only in
their bindings. With `g` the identity the two runs read the same list. -/

section Helpers

variable {r : TypeExpr → ResolverState → Option (Option Descriptor × ResolverState)}
  {Q : ResolverState → Prop} {P : TypeExpr → Prop} {g : TypeExpr → TypeExpr}

theorem fieldsBy_sim
    (hr : ∀ t s, Q s → P t → r t (s.under l) = (r (g t) s).map (Prod.map id (·.under l)))
    (hsc : ∀ t s p, r t s = some p → p.2.scopes = s.scopes)
    (hQ : ∀ s s', Q s → s'.scopes = s.scopes → Q s') :
    ∀ (ps : List PropertyDecl) (s : ResolverState), Q s → (∀ p ∈ ps, P p.type) →
      fieldsBy env r ps (s.under l) =
        (fieldsBy env r (ps.map (PropertyOf.retype g)) s).map (Prod.map id (·.under l))
  | [], _, _, _ => rfl
  | p :: ps, s, hs, hps => by
    rw [List.map_cons, fieldsBy, fieldsBy, PropertyOf.retype_type,
      hr p.type s hs (hps p (List.mem_cons_self ..))]
    rcases h : r (g p.type) s with _ | ⟨d, s₁⟩
    · rfl
    · -- the rest starts from two states that still differ only in their bindings
      have ih := fieldsBy_sim hr hsc hQ ps s₁ (hQ s s₁ hs (hsc _ _ _ h))
        fun q hq => hps q (List.mem_cons_of_mem _ hq)
      simp only [Option.map_some, Prod.map_apply, id_eq, Option.bind_eq_bind, Option.bind_some]
      rw [ih]
      rcases fieldsBy env r (ps.map (PropertyOf.retype g)) s₁ with _ | ⟨fs, s₂⟩ <;> rfl

theorem firstWinningBy_sim
    (hr : ∀ t s, Q s → P t → r t (s.under l) = (r (g t) s).map (Prod.map id (·.under l)))
    (hsc : ∀ t s p, r t s = some p → p.2.scopes = s.scopes)
    (hQ : ∀ s s', Q s → s'.scopes = s.scopes → Q s') (o : Option String) :
    ∀ (ms : List TypeExpr) (s : ResolverState), Q s → (∀ m ∈ ms, P m) →
      firstWinningBy r o ms (s.under l) =
        (firstWinningBy r o (ms.map g) s).map (Prod.map id (·.under l))
  | [], _, _, _ => rfl
  | m :: ms, s, hs, hms => by
    rw [List.map_cons, firstWinningBy, firstWinningBy, hr m s hs (hms m (List.mem_cons_self ..))]
    rcases h : r (g m) s with _ | ⟨d, s₁⟩
    · rfl
    · simp only [Option.map_some, Prod.map_apply, id_eq, Option.bind_eq_bind, Option.bind_some]
      cases winner o d with
      | some w => rfl
      | none =>
        exact firstWinningBy_sim hr hsc hQ o ms s₁ (hQ s s₁ hs (hsc _ _ _ h))
          fun m' hm => hms m' (List.mem_cons_of_mem _ hm)

end Helpers

/-! ### Two resolutions that rewrite alike -/

/-- At the depth bound `n`, the four fuelled functions resolve alike from a state and from the
same state under bindings that mirror its own. -/
structure Alike (env : ResolverEnv) (n : Nat) : Prop where
  resolve : ∀ ok l t₁ t₂ s, Mirror env ok l s →
    (s.under l).rewrite t₁ = s.rewrite t₂ → ok (s.rewrite t₂) →
    resolveWith env n t₁ (s.under l) = (resolveWith env n t₂ s).map (Prod.map id (·.under l))
  object : ∀ ok l k b ps s, Mirror env ok l s → (∀ x ∈ b, ok x.2) →
    namedObjectWith env n k b ps (s.under l) =
      (namedObjectWith env n k b ps s).map (Prod.map id (·.under l))
  union : ∀ ok l k ms s, Mirror env ok l s → (∀ m ∈ ms, ok m) →
    namedUnionWith env n k ms (s.under l) =
      (namedUnionWith env n k ms s).map (Prod.map id (·.under l))
  narrow : ∀ ok l ms o s, Mirror env ok l s → (∀ m ∈ ms, ok m) →
    narrowWith env n ms o (s.under l) = (narrowWith env n ms o s).map (Prod.map id (·.under l))

variable {n : Nat}

theorem Alike.resolve_of_ok (ih : Alike env n) {t : TypeExpr} (M : Mirror env ok l s)
    (ht : ok t) :
    resolveWith env n t (s.under l) = (resolveWith env n t s).map (Prod.map id (·.under l)) :=
  ih.resolve ok l t t s M (M.rewrite_eq t ht) (M.rewrite_ok t ht)

/-- A resolution gives back the bindings it found: it is alike to itself under its own. -/
theorem Alike.scopes_eq (ih : Alike env n) {t : TypeExpr} {p : Option Descriptor × ResolverState}
    (h : resolveWith env n t s = some p) : p.2.scopes = s.scopes := by
  have hself := ih.resolve (fun _ => True) s.scopes t t s (Mirror.of_rewrite rfl) rfl trivial
  rw [under_self] at hself
  exact scopes_eq_of_map_under hself h

theorem alike_zero : Alike env 0 where
  resolve _ _ _ _ _ _ _ _ := by simp [resolveWith]
  object _ _ _ _ _ _ _ _ := by simp [namedObjectWith]
  union _ _ _ _ _ _ _ := by simp [namedUnionWith]
  narrow _ _ _ _ _ _ _ := by simp [narrowWith]

theorem Alike.narrow_succ (ih : Alike env n) (ok : TypeExpr → Prop) l ms o s
    (M : Mirror env ok l s) (hms : ∀ m ∈ ms, ok m) :
    narrowWith env (n + 1) ms o (s.under l) =
      (narrowWith env (n + 1) ms o s).map (Prod.map id (·.under l)) := by
  -- both take the same candidates, each rewritten alike
  have hcands : candidates env (s.under l) ms = candidates env s ms := by
    unfold candidates
    rw [List.map_congr_left fun m hm => M.rewrite_eq m (hms m hm)]
  have hok : ∀ c ∈ candidates env s ms, ok c := by
    intro c hc
    obtain ⟨m, hm, rfl⟩ := List.mem_map.mp (List.mem_filter.mp hc).1
    exact M.rewrite_ok m (hms m hm)
  rw [narrowWith, narrowWith]
  dsimp only
  rw [hcands]
  split
  next c hc =>
    have hcm : c ∈ candidates env s ms := by
      unfold onlyOne? at hc
      split at hc <;> simp_all
    rw [ih.resolve_of_ok M (hok c hcm)]
    rcases resolveWith env n c s with _ | ⟨d, s'⟩ <;> rfl
  next =>
    have h := firstWinningBy_sim (g := id) (fun _ _ M ht => ih.resolve_of_ok M ht)
      (fun _ _ _ => ih.scopes_eq) (fun _ _ M h => M.of_scopes h) o _ s M hok
    rwa [List.map_id] at h

theorem Alike.union_succ (ih : Alike env n) (ok : TypeExpr → Prop) l k ms s
    (M : Mirror env ok l s) (hms : ∀ m ∈ ms, ok m) :
    namedUnionWith env (n + 1) k ms (s.under l) =
      (namedUnionWith env (n + 1) k ms s).map (Prod.map id (·.under l)) := by
  rw [namedUnionWith, namedUnionWith]
  simp only [under_arena, under_stack]
  cases s.arena.get? k with
  | some d => rfl
  | none =>
    dsimp only
    by_cases hc : s.stack.contains k
    · simp only [hc, ↓reduceIte]
      rfl
    · have hn := ih.narrow ok l ms (some k) (s.enter k) (M.of_scopes rfl) hms
      simp only [hc, Bool.false_eq_true, ↓reduceIte]
      rw [show (s.under l).enter k = (s.enter k).under l from rfl, hn]
      rcases narrowWith env n ms (some k) (s.enter k) with _ | ⟨r, s'⟩
      · rfl
      · exact congrArg (fun x => some (r, x)) (keep_under (s'.leave k) l k r)

/-- A class met afresh: its properties are resolved with it on the stack, its parameters bound
to its arguments rewritten by the bindings in place. -/
theorem namedObjectWith_fresh {k : String} {b : List (String × TypeExpr)} {ps : List PropertyDecl}
    (hd : s.arena.get? k = none) (hc : s.stack.contains k = false) :
    namedObjectWith env (n + 1) k b ps s =
      (fieldsBy env (resolveWith env n) ps
        ((s.enter k).withScope (b.map fun x => (x.1, s.rewrite x.2)))).bind fun p =>
          some (some (.object (some k) p.1),
            (p.2.dropScope.leave k).record k (.object (some k) p.1)) := by
  rw [namedObjectWith, hd]
  simp only [hc, Bool.false_eq_true, ↓reduceIte]
  rfl

theorem Alike.object_succ (ih : Alike env n) (ok : TypeExpr → Prop) l k b ps s
    (M : Mirror env ok l s) (hb : ∀ x ∈ b, ok x.2) :
    namedObjectWith env (n + 1) k b ps (s.under l) =
      (namedObjectWith env (n + 1) k b ps s).map (Prod.map id (·.under l)) := by
  cases hd : s.arena.get? k with
  | some d =>
    rw [namedObjectWith, namedObjectWith]
    simp only [under_arena, hd]
    rfl
  | none =>
    by_cases hc : s.stack.contains k
    · rw [namedObjectWith, namedObjectWith]
      simp only [under_arena, under_stack, hd, hc, ↓reduceIte]
      rfl
    · rw [Bool.not_eq_true] at hc
      rw [namedObjectWith_fresh (s := s.under l) hd hc, namedObjectWith_fresh hd hc]
      -- the class binds its arguments, rewritten alike, so below it the two agree on every type
      have hbound : (b.map fun x => (x.1, (s.under l).rewrite x.2)) =
          b.map fun x => (x.1, s.rewrite x.2) :=
        List.map_congr_left fun x hx => by rw [M.rewrite_eq x.2 (hb x hx)]
      rw [hbound]
      generalize b.map (fun x => (x.1, s.rewrite x.2)) = B
      have hs : ((s.under l).enter k).withScope B = ((s.enter k).withScope B).under (B :: l) := rfl
      rw [hs, fieldsBy_sim (r := resolveWith env n) (g := id)
        (fun _ _ M ht => ih.resolve_of_ok M ht) (fun _ _ _ => ih.scopes_eq)
        (fun _ _ M h => M.of_scopes h) ps ((s.enter k).withScope B)
        (Mirror.of_rewrite (l := B :: l) rfl) (fun _ _ => trivial), PropertyOf.retype_id, List.map_id]
      rcases fieldsBy env (resolveWith env n) ps ((s.enter k).withScope B) with _ | ⟨fs, s'⟩
      all_goals rfl

theorem Alike.resolve_succ (ih : Alike env n) (ok : TypeExpr → Prop) l t₁ t₂ s
    (M : Mirror env ok l s) (ht : (s.under l).rewrite t₁ = s.rewrite t₂)
    (hok : ok (s.rewrite t₂)) :
    resolveWith env (n + 1) t₁ (s.under l) =
      (resolveWith env (n + 1) t₂ s).map (Prod.map id (·.under l)) := by
  rw [resolveWith, resolveWith]
  dsimp only
  rw [ht]
  -- both resolve the same rewritten type, and hand on only types that `ok` admits
  have hparts := M.handed_ok _ hok
  generalize s.rewrite t₂ = w at hparts ⊢
  cases hs : env.model.shapeOf w with
  | void | null | primitive _ | unknown _ => rfl
  | array e =>
    dsimp only
    rw [ih.resolve_of_ok M (hparts e (by simp [hs, Shape.handed]))]
    rcases resolveWith env n e s with _ | ⟨d, s'⟩ <;> rfl
  | enumeration name values =>
    exact congrArg (fun x => some (some (Descriptor.enumeration name values), x))
      (recordAs_under s l name _)
  | union name ms =>
    rw [hs] at hparts
    cases name with
    | some name => exact ih.union ok l name ms s M hparts
    | none => exact ih.narrow ok l ms none s M hparts
  | generic name args =>
    dsimp only
    by_cases hw : env.wrappers.contains name
    · simp only [hw, ↓reduceIte]
      cases args with
      | nil => rfl
      | cons a as => exact ih.resolve_of_ok M (hparts a (by simp [hs, Shape.handed]))
    · simp only [hw, Bool.false_eq_true, ↓reduceIte]
      rfl
  | object name b ps =>
    rw [hs] at hparts
    cases name with
    | some c => exact ih.object ok l _ b ps s M fun x hx => hparts x.2 (List.mem_map_of_mem hx)
    | none =>
      cases ps with
      | nil => rfl
      | cons p ps =>
        dsimp only
        simp only [List.isEmpty_cons, Bool.false_eq_true, ↓reduceIte]
        rw [fieldsBy_sim (g := id) (fun _ _ M ht => ih.resolve_of_ok M ht)
          (fun _ _ _ => ih.scopes_eq) (fun _ _ M h => M.of_scopes h) (p :: ps) s M
          (fun q hq => hparts q.type (List.mem_map_of_mem hq)), PropertyOf.retype_id, List.map_id]
        rcases fieldsBy env (resolveWith env n) (p :: ps) s with _ | ⟨fs, s'⟩ <;> rfl

theorem Alike.succ (ih : Alike env n) : Alike env (n + 1) where
  resolve := ih.resolve_succ
  object := ih.object_succ
  union := ih.union_succ
  narrow := ih.narrow_succ

/-- Under `σ`, and with nothing bound innermost, a state rewrites alike every type that mentions
no parameter of `σ`: neither rewrites it. -/
theorem Mirror.of_avoids {σ : List (String × TypeExpr)} (hnull : ∀ b ∈ σ, b.1 ≠ "null")
    (henums : ∀ e ∈ env.model.enums, ∀ u ∈ e.members, u.Avoids σ)
    (rest : List (List (String × TypeExpr))) (s : ResolverState) :
    Mirror env (·.Avoids σ) (σ :: rest) (s.under ([] :: rest)) where
  rewrite_eq v hv := by
    rw [under_under, rewrite_under_cons, rewrite_under_cons, TypeExpr.substituteIn_of_avoids v hv,
      TypeExpr.substituteIn_nil]
  rewrite_ok v hv := by
    rw [rewrite_under_cons, TypeExpr.substituteIn_nil]
    exact hv
  handed_ok _ hw _ hv := Manifest.avoids_of_mem_handed hnull henums hw hv

/-- Two resolutions from a state and from the same state under bindings that mirror its own
take the same steps, at every depth bound. -/
theorem alike (env : ResolverEnv) : ∀ n, Alike env n
  | 0 => alike_zero
  | n + 1 => (alike env n).succ

end Resolver

/-! ### A pair whose second parameter is named like a class -/

/-- `Pair<A, B> { first: Vec<A> }` beside a class `B { flag: bool }`. -/
def pairModel : Manifest :=
  ⟨[{ path := "src/pair.rs", enums := [], modules := [],
      classes := [
        { name := "Pair", docs := none, annotations := [], typeParams := ["A", "B"], methods := [],
          properties := [⟨"first", .named "Vec" [.simple "A"], false, false, none, []⟩] },
        { name := "B", docs := none, annotations := [], typeParams := [], methods := [],
          properties := [⟨"flag", .simple "bool", false, false, none, []⟩] }] }]⟩

/-- The pair model under the standard wrappers, with examples. -/
def pairEnv : ResolverEnv := ⟨pairModel, defaultWrappers, true⟩

/-- The bindings of `Pair<B, string>`: `A` to `B`, and `B` to `string`. -/
def pairOfBString : List (String × TypeExpr) := [("A", .simple "B"), ("B", .simple "string")]

end ApiSpec
