import ApiSpec.Proofs.Resolve.Canonical
import ApiSpec.Proofs.Extract.Termination

/-!
# Extractions up to folding

The extraction runs one resolver over every controller, and each body it resolves depends on the
bodies resolved before it only through what the arena and the cycle guard gave the named types
inside it. In a settled model that is nothing once named types are folded: two runs of the same
extraction code from any two ready states (named types recorded under their names and
canonically, nothing bound) give routes and controllers that are equal with their bodies folded
(`RouteDescriptor.fold`, `ControllerDescriptor.fold`), whose named types are all canonical.

* `Resolver.Matches env R x y`: two runs of `x` and `y` from ready states end in ready states
  with results related by `R`. The rules follow the extraction's `do` blocks
  (`Matches.bind`, `Matches.except_bind`, `Matches.lift`), and a run on one side alone is
  absorbed by `Matches.left`.
* `Resolver.matches_resolveBody`, `matches_routeOf`, `matches_routesFrom`: each step of the
  extraction of a class matches itself, with results equal once folded.
* `Resolver.matches_controllersFrom_cons`: a class at one path, followed by two matching runs,
  gives matching runs.
-/

namespace ApiSpec

open Descriptor

/-- The route with its request body and response folded. -/
def RouteDescriptor.fold (r : RouteDescriptor) : RouteDescriptor :=
  { r with requestBody := r.requestBody.map Descriptor.fold, response := r.response.map Descriptor.fold }

/-- The controller with the bodies of its routes folded. -/
def ControllerDescriptor.fold (c : ControllerDescriptor) : ControllerDescriptor :=
  { c with routes := c.routes.map RouteDescriptor.fold }

/-- The named types in the parameters, request body and response of a route satisfy `C`. -/
def RouteDescriptor.NodesIn (C : String → Descriptor → Prop) (r : RouteDescriptor) : Prop :=
  (∀ p ∈ r.parameters, p.type.NodesIn C) ∧ (∀ d ∈ r.requestBody, d.NodesIn C) ∧
    ∀ d ∈ r.response, d.NodesIn C

/-- The named types in the routes of a controller satisfy `C`. -/
def ControllerDescriptor.NodesIn (C : String → Descriptor → Prop) (c : ControllerDescriptor) :
    Prop :=
  ∀ r ∈ c.routes, r.NodesIn C

/-- Two lists equal once their members are folded by `f`, whose members satisfy `P`. -/
structure ListsAlike {α : Type} (f : α → α) (P : α → Prop) (xs ys : List α) : Prop where
  fold_eq : xs.map f = ys.map f
  left : ∀ x ∈ xs, P x
  right : ∀ y ∈ ys, P y

/-- Two results of the extraction: the same error, or values related by `R`. -/
def ExceptAlike {ε α β : Type} (R : α → β → Prop) : Except ε α → Except ε β → Prop
  | .ok a, .ok b => R a b
  | .error e₁, .error e₂ => e₁ = e₂
  | _, _ => False

namespace ListsAlike

variable {α : Type} {f : α → α} {P : α → Prop}

theorem nil : ListsAlike f P [] [] :=
  ⟨rfl, fun _ h => absurd h List.not_mem_nil, fun _ h => absurd h List.not_mem_nil⟩

theorem cons {x y : α} {xs ys : List α} (h : ListsAlike f P xs ys) (hf : f x = f y) (hx : P x)
    (hy : P y) : ListsAlike f P (x :: xs) (y :: ys) where
  fold_eq := by rw [List.map_cons, List.map_cons, hf, h.fold_eq]
  left := by
    intro z hz
    rcases List.mem_cons.mp hz with rfl | hz
    · exact hx
    · exact h.left z hz
  right := by
    intro z hz
    rcases List.mem_cons.mp hz with rfl | hz
    · exact hy
    · exact h.right z hz

end ListsAlike

/-- Two lists of routes equal once folded, whose named types satisfy `C`. -/
abbrev RoutesAlike (C : String → Descriptor → Prop) : List RouteDescriptor → List RouteDescriptor → Prop :=
  ListsAlike RouteDescriptor.fold (RouteDescriptor.NodesIn C)

/-- Two lists of controllers equal once folded, whose named types satisfy `C`. -/
abbrev ControllersAlike (C : String → Descriptor → Prop) :
    List ControllerDescriptor → List ControllerDescriptor → Prop :=
  ListsAlike ControllerDescriptor.fold (ControllerDescriptor.NodesIn C)

namespace ResolverState

open Resolver

/-- A state between two resolutions of an extraction: its named types are recorded under their
names and canonically, and nothing is bound. -/
structure Ready (env : ResolverEnv) (s : ResolverState) : Prop where
  arenaNamed : s.ArenaNamed
  unbound : s.Unbound
  canonical : s.ArenaCanonical env

theorem ready_initial (env : ResolverEnv) : ResolverState.initial.Ready env :=
  ⟨fun _ h => absurd h List.not_mem_nil, fun _ h => absurd h List.not_mem_nil,
    fun _ h => absurd h List.not_mem_nil⟩

theorem Ready.note {env : ResolverEnv} {s : ResolverState} (h : s.Ready env) (n : Notice) :
    (s.note n).Ready env :=
  ⟨h.arenaNamed.of_arena rfl, h.unbound, h.canonical.of_arena rfl⟩

end ResolverState

namespace Resolver

open ResolverState

variable {env : ResolverEnv}

/-! ### Two runs side by side -/

/-- Runs of `x` and `y` from ready states end in ready states, with results related by `R`. -/
def Matches {α β : Type} (env : ResolverEnv) (R : α → β → Prop) (x : ResolveM α)
    (y : ResolveM β) : Prop :=
  ∀ s₁ s₂ a b s₁' s₂', s₁.Ready env → s₂.Ready env → x.run s₁ = some (a, s₁') →
    y.run s₂ = some (b, s₂') → s₁'.Ready env ∧ s₂'.Ready env ∧ R a b

/-- Runs of `x` from ready states end in ready states with results satisfying `P`. -/
def Keeps {α : Type} (env : ResolverEnv) (P : α → Prop) (x : ResolveM α) : Prop :=
  ∀ s a s', s.Ready env → x.run s = some (a, s') → s'.Ready env ∧ P a

namespace Matches

variable {α β γ δ ε : Type} {R : α → β → Prop}

protected theorem pure {a : α} {b : β} (h : R a b) : Matches env R (pure a) (pure b) := by
  intro s₁ s₂ a' b' s₁' s₂' h₁ h₂ hx hy
  cases hx
  cases hy
  exact ⟨h₁, h₂, h⟩

protected theorem bind {R₁ : α → β → Prop} {S : γ → δ → Prop} {x : ResolveM α} {y : ResolveM β}
    {f : α → ResolveM γ} {g : β → ResolveM δ} (hx : Matches env R₁ x y)
    (hf : ∀ a b, R₁ a b → Matches env S (f a) (g b)) : Matches env S (x >>= f) (y >>= g) := by
  intro s₁ s₂ c d s₁'' s₂'' h₁ h₂ hfx hgy
  rw [StateT.run_bind] at hfx hgy
  obtain ⟨⟨a, s₁'⟩, hx₁, hf₁⟩ := Option.bind_eq_some_iff.mp hfx
  obtain ⟨⟨b, s₂'⟩, hy₁, hg₁⟩ := Option.bind_eq_some_iff.mp hgy
  obtain ⟨h₁', h₂', hab⟩ := hx s₁ s₂ a b s₁' s₂' h₁ h₂ hx₁ hy₁
  exact hf a b hab s₁' s₂' c d s₁'' s₂'' h₁' h₂' hf₁ hg₁

/-- A run on the left alone, which keeps states ready, is absorbed into the runs after it. -/
theorem left {P : α → Prop} {S : γ → δ → Prop} {x : ResolveM α} {f : α → ResolveM γ}
    {y : ResolveM δ} (hx : Keeps env P x) (hf : ∀ a, P a → Matches env S (f a) y) :
    Matches env S (x >>= f) y := by
  intro s₁ s₂ c d s₁'' s₂' h₁ h₂ hfx hy
  rw [StateT.run_bind] at hfx
  obtain ⟨⟨a, s₁'⟩, hx₁, hf₁⟩ := Option.bind_eq_some_iff.mp hfx
  obtain ⟨h₁', ha⟩ := hx s₁ a s₁' h₁ hx₁
  exact hf a ha s₁' s₂ c d s₁'' s₂' h₁' h₂ hf₁ hy

theorem except_bind {R₁ : α → β → Prop} {S : γ → δ → Prop} {x : ExceptT ε ResolveM α}
    {y : ExceptT ε ResolveM β} {f : α → ExceptT ε ResolveM γ} {g : β → ExceptT ε ResolveM δ}
    (hx : Matches env (ExceptAlike R₁) x.run y.run)
    (hf : ∀ a b, R₁ a b → Matches env (ExceptAlike S) (f a).run (g b).run) :
    Matches env (ExceptAlike S) (x >>= f).run (y >>= g).run := by
  rw [ExceptT.run_bind, ExceptT.run_bind]
  refine hx.bind fun r₁ r₂ hr => ?_
  cases r₁ with
  | ok a =>
    cases r₂ with
    | ok b => exact hf a b hr
    | error e => cases hr
  | error e₁ =>
    cases r₂ with
    | ok b => cases hr
    | error e₂ => exact Matches.pure hr

theorem lift {x : ResolveM α} {y : ResolveM β} (h : Matches env R x y) :
    Matches env (ExceptAlike (ε := ε) R) (ExceptT.lift x).run (ExceptT.lift y).run := by
  rw [ExceptT.run_lift, ExceptT.run_lift, map_eq_pure_bind, map_eq_pure_bind]
  exact h.bind fun a b hab => Matches.pure hab

theorem except_pure {a : α} {b : β} (h : R a b) :
    Matches env (ExceptAlike (ε := ε) R) (pure a : ExceptT ε ResolveM α).run
      (pure b : ExceptT ε ResolveM β).run := by
  rw [ExceptT.run_pure, ExceptT.run_pure]
  exact Matches.pure h

theorem throw (e : ε) :
    Matches env (ExceptAlike R) (throw e : ExceptT ε ResolveM α).run
      (throw e : ExceptT ε ResolveM β).run := by
  rw [ExceptT.run_throw, ExceptT.run_throw]
  exact Matches.pure rfl

end Matches

theorem matches_warn (n : Notice) : Matches env (fun _ _ => True) (warn n) (warn n) := by
  intro s₁ s₂ a b s₁' s₂' h₁ h₂ hx hy
  cases hx
  cases hy
  exact ⟨h₁.note n, h₂.note n, trivial⟩

theorem keeps_warn (n : Notice) : Keeps env (fun _ => True) (warn n) := by
  intro s a s' h hx
  cases hx
  exact ⟨h.note n, trivial⟩

theorem Matches.keeps {α : Type} {R : α → α → Prop} {x : ResolveM α} (h : Matches env R x x) :
    Keeps env (fun a => R a a) x := by
  intro s a s' hs hx
  obtain ⟨h₁, -, hr⟩ := h s s a a s' s' hs hs hx hx
  exact ⟨h₁, hr⟩

/-- A lifted run on the left alone, which keeps states ready, is absorbed into the runs after
it. -/
theorem Matches.except_lift_left {α γ δ ε : Type} {P : α → Prop} {S : γ → δ → Prop}
    {x : ResolveM α} {f : α → ExceptT ε ResolveM γ} {y : ResolveM (Except ε δ)}
    (hx : Keeps env P x) (hf : ∀ a, P a → Matches env (ExceptAlike S) (f a).run y) :
    Matches env (ExceptAlike S) (ExceptT.lift x >>= f).run y := by
  rw [ExceptT.run_bind, ExceptT.run_lift, map_eq_pure_bind, bind_assoc]
  refine Matches.left hx fun a ha => ?_
  rw [pure_bind]
  exact hf a ha

/-- A warning on the left alone is absorbed into the runs after it. -/
theorem Matches.except_warn_left {γ δ ε : Type} {S : γ → δ → Prop} {x : ExceptT ε ResolveM γ}
    {y : ResolveM (Except ε δ)} (h : Matches env (ExceptAlike S) x.run y) (n : Notice) :
    Matches env (ExceptAlike S) (ExceptT.lift (warn n) >>= fun _ => x).run y :=
  Matches.except_lift_left (keeps_warn n) fun _ _ => h

/-! ### Resolving bodies -/

/-- What a resolved body may be: its named types canonical. -/
def BodyIn (env : ResolverEnv) (d : Option Descriptor) : Prop := ∀ x ∈ d, x.NodesIn (Canonical env)

/-- Two bodies equal once folded, each with its named types canonical. -/
def BodiesAlike (env : ResolverEnv) (d₁ d₂ : Option Descriptor) : Prop :=
  d₁.map Descriptor.fold = d₂.map Descriptor.fold ∧ BodyIn env d₁ ∧ BodyIn env d₂

theorem fold_isPrimitive (d : Descriptor) : d.fold.isPrimitive = d.isPrimitive := by
  rcases d with _ | _ | ⟨_ | _, _⟩ | ⟨_ | _, _⟩ | _ <;> rfl

theorem filter_map_fold (d : Option Descriptor) :
    (d.filter fun x => !x.isPrimitive).map Descriptor.fold =
      (d.map Descriptor.fold).filter fun x => !x.isPrimitive := by
  cases d with
  | none => rfl
  | some x => by_cases hp : x.isPrimitive <;> simp [Option.filter, hp, fold_isPrimitive]

theorem run_resolveBody {t : TypeExpr} {s s' : ResolverState} {r : Option Descriptor}
    (h : (resolveBody env t).run s = some (r, s')) :
    ∃ d, resolve env t s = some (d, s') ∧ r = d.filter fun x => !x.isPrimitive := by
  obtain ⟨⟨d, s₁⟩, hd, he⟩ := Option.map_eq_some_iff.mp h
  cases he
  exact ⟨d, hd, rfl⟩

theorem bodyIn_filter {d : Option Descriptor} (h : BodyIn env d) (p : Descriptor → Bool) :
    BodyIn env (d.filter p) :=
  fun x hx => h x (Option.eq_some_of_filter_eq_some hx)

variable (hs : env.model.Settled)
include hs

/-- A body resolved from a ready state leaves a ready state, with its named types canonical. -/
theorem keeps_resolveBody (t : TypeExpr) : Keeps env (BodyIn env) (resolveBody env t) := by
  intro s r s' h hrun
  obtain ⟨d, hd, rfl⟩ := run_resolveBody hrun
  have hres := resolves_of_eq_some hd
  have hm := not_isPayloadEnum hs.noPayloads
  have k := Resolves.steady hm hres
  obtain ⟨hc, hnd⟩ := Resolves.canonical hm hs.noTypeParams hres h.arenaNamed h.unbound h.canonical
  exact ⟨⟨k.arenaNamed h.arenaNamed, h.unbound.of_scopes k.scopes_eq, hc⟩, bodyIn_filter hnd _⟩

/-- One body resolved from two ready states, equal once folded. -/
theorem matches_resolveBody (t : TypeExpr) :
    Matches env (BodiesAlike env) (resolveBody env t) (resolveBody env t) := by
  intro s₁ s₂ r₁ r₂ s₁' s₂' h₁ h₂ hr₁ hr₂
  obtain ⟨k₁, hb₁⟩ := keeps_resolveBody hs t s₁ r₁ s₁' h₁ hr₁
  obtain ⟨k₂, hb₂⟩ := keeps_resolveBody hs t s₂ r₂ s₂' h₂ hr₂
  obtain ⟨d₁, hd₁, rfl⟩ := run_resolveBody hr₁
  obtain ⟨d₂, hd₂, rfl⟩ := run_resolveBody hr₂
  -- the two resolutions start from states that bind nothing
  have hfold := Resolves.fold_eq (not_isPayloadEnum hs.noPayloads) (resolves_of_eq_some hd₁)
    (resolves_of_eq_some hd₂) h₁.arenaNamed h₂.arenaNamed (rewrite_eq_of_unbound h₁.unbound h₂.unbound)
  exact ⟨k₁, k₂, by rw [filter_map_fold, filter_map_fold, hfold], hb₁, hb₂⟩

/-- A body resolved, or none, from two ready states. -/
theorem matches_body {x : ResolveM (Option Descriptor)}
    (hx : (∃ t, x = resolveBody env t) ∨ x = pure none) : Matches env (BodiesAlike env) x x := by
  rcases hx with ⟨t, rfl⟩ | rfl
  · exact matches_resolveBody hs t
  · exact Matches.pure ⟨rfl, fun _ h => absurd h (Option.not_mem_none _),
      fun _ h => absurd h (Option.not_mem_none _)⟩

omit hs in
/-- A parameter is described without the resolver: its only named types are enumerations,
canonical by their shapes. -/
theorem nodesIn_shallowWith (fuel : Nat) :
    ∀ seen t, (shallowWith env.model fuel seen t).NodesIn (Canonical env) := by
  induction fuel with
  | zero => exact fun _ _ => trivial
  | succ fuel ih =>
    intro seen t
    rw [shallowWith]
    dsimp only
    split
    · exact trivial
    · split
      next => exact nodesIn_getD trivial fun _ hd => nodesIn_of_ofPrimitiveName? hd
      next => exact (nodesIn_array _).mpr (ih _ _)
      next name values hsh =>
        cases name with
        | none => exact trivial
        | some n => exact Canonical.enumeration hsh
      next =>
        split
        · exact ih _ _
        · exact trivial
      next => exact trivial

omit hs in
theorem nodesIn_parameters (cls : Classifier) (md : MethodDecl) :
    ∀ p ∈ md.params.filterMap (parameterOf cls env.model), p.type.NodesIn (Canonical env) := by
  intro pd hpd
  obtain ⟨p, -, hp⟩ := List.mem_filterMap.mp hpd
  unfold parameterOf at hp
  obtain ⟨_, -, rfl⟩ := Option.map_eq_some_iff.mp hp
  exact nodesIn_shallowWith _ _ _

/-- A route extracted from two ready states: equal once folded, its named types canonical. -/
theorem matches_routeOf (cls : Classifier) (md : MethodDecl) (verb : HttpMethod) (path : String) :
    Matches env (fun r₁ r₂ => r₁.fold = r₂.fold ∧ r₁.NodesIn (Canonical env) ∧
      r₂.NodesIn (Canonical env)) (routeOf env cls md verb path) (routeOf env cls md verb path) := by
  unfold routeOf
  dsimp only
  -- the request body, then the response: each resolved, or none
  split
  all_goals
    refine (matches_body hs (by simp)).bind fun rb₁ rb₂ hb => ?_
    split
    all_goals
      refine (matches_body hs (by simp)).bind fun rs₁ rs₂ hr => ?_
      refine Matches.pure ⟨?_, ⟨nodesIn_parameters cls md, hb.2.1, hr.2.1⟩,
        ⟨nodesIn_parameters cls md, hb.2.2, hr.2.2⟩⟩
      simp only [RouteDescriptor.fold, hb.1, hr.1]

/-- The routes of the same methods extracted from two ready states. -/
theorem matches_routesFrom (cls : Classifier) (c : ClassDecl) (pub : Bool) (ms : List MethodDecl) :
    Matches env (ExceptAlike (RoutesAlike (Canonical env))) (routesFrom env cls c pub ms).run
      (routesFrom env cls c pub ms).run := by
  induction ms with
  | nil =>
    rw [routesFrom]
    exact Matches.except_pure ListsAlike.nil
  | cons md rest ih =>
    rw [routesFrom]
    split
    · exact ih
    · split
      · exact Matches.throw _
      · refine (matches_routeOf hs cls md _ _).lift.except_bind fun r₁ r₂ hr => ?_
        refine ih.except_bind fun t₁ t₂ ht => Matches.except_pure (ht.cons ?_ hr.2.1 hr.2.2)
        -- the class's access is added alike on both sides
        show { r₁.fold with isPublic := r₁.fold.isPublic || pub } =
          { r₂.fold with isPublic := r₂.fold.isPublic || pub }
        rw [hr.1]

omit hs in
/-- The category of a class reads only the path of its file. -/
theorem categoryOf_path {u₁ u₂ : SourceFile} (hpath : u₁.path = u₂.path) (h : PathHeuristic)
    (c : ClassDecl) : categoryOf env.model h u₁ c = categoryOf env.model h u₂ c := by
  simp only [categoryOf, hpath]

/-- One class, in files at the same path, followed by two matching runs, gives matching runs. -/
theorem matches_controllersFrom_cons (cls : Classifier) (h : PathHeuristic) {u₁ u₂ : SourceFile}
    (hpath : u₁.path = u₂.path) (c : ClassDecl) {xs ys : List (SourceFile × ClassDecl)}
    (ih : Matches env (ExceptAlike (ControllersAlike (Canonical env)))
      (controllersFrom env cls h xs).run (controllersFrom env cls h ys).run) :
    Matches env (ExceptAlike (ControllersAlike (Canonical env)))
      (controllersFrom env cls h ((u₁, c) :: xs)).run
      (controllersFrom env cls h ((u₂, c) :: ys)).run := by
  rw [controllersFrom, controllersFrom, categoryOf_path hpath, hpath]
  cases controllerMark? cls c with
  | none => exact ih
  | some a =>
    dsimp only
    cases literalPath a with
    | error e => exact (matches_warn _).lift.except_bind fun _ _ _ => ih
    | ok basePath =>
      dsimp only
      cases categoryOf env.model h u₂ c with
      | error f => exact Matches.throw f
      | ok category =>
        dsimp only
        refine (matches_routesFrom hs cls c _ c.methods).lift.except_bind fun r₁ r₂ hr => ?_
        cases r₁ with
        | error e₁ =>
          cases r₂ with
          | error e₂ =>
            cases hr
            exact (matches_warn _).lift.except_bind fun _ _ _ => ih
          | ok _ => exact hr.elim
        | ok routes₁ =>
          cases r₂ with
          | error _ => exact hr.elim
          | ok routes₂ =>
            have hr : RoutesAlike (Canonical env) routes₁ routes₂ := hr
            refine ih.except_bind fun t₁ t₂ ht => Matches.except_pure (ht.cons ?_ hr.left hr.right)
            simp only [ControllerDescriptor.fold, hr.fold_eq]

end Resolver

end ApiSpec
