import ApiSpec.Proofs.Resolve.Termination
import ApiSpec.Pipeline

/-!
# Extractions that end

The extraction threads one resolver state through every controller, route and body of the
model. `Resolver.Halts x` says that the resolver computation `x` ends from every state that
binds no type parameter, in such a state; it is kept by `pure`, `bind`, warnings and the
exception layers of extraction, and the resolution of a body has it in a model without type
parameters (`Resolver.resolve_ends_of_unbound`).

* `extraction_isSome_of_no_type_params`: the extraction of such a model ends, under every
  configuration, and so `generateDocument` has a result.
* `resolution_ends_without_type_params`: in a model whose classes declare no type parameters,
  every resolution from a state that binds nothing ends, and so does the making of the
  document. With type parameters it need not: see `pageOfItemLists_never_resolves`.
-/

namespace ApiSpec

namespace Resolver

open ResolverState

/-- The computation ends from every state that binds nothing, in a state that binds nothing. -/
def Halts {α : Type} (x : ResolveM α) : Prop :=
  ∀ s : ResolverState, s.Unbound → ∃ a s', x.run s = some (a, s') ∧ s'.Unbound

section Halts

variable {α β ε : Type}

theorem halts_pure (a : α) : Halts (pure a : ResolveM α) :=
  fun s hs => ⟨a, s, rfl, hs⟩

theorem Halts.bind {x : ResolveM α} {f : α → ResolveM β} (hx : Halts x)
    (hf : ∀ a, Halts (f a)) : Halts (x >>= f) := by
  intro s hs
  obtain ⟨a, s₁, h₁, hs₁⟩ := hx s hs
  obtain ⟨b, s₂, h₂, hs₂⟩ := hf a s₁ hs₁
  exact ⟨b, s₂, by rw [StateT.run_bind, h₁]; exact h₂, hs₂⟩

theorem halts_warn (n : Notice) : Halts (warn n) :=
  fun s hs => ⟨(), s.note n, rfl, hs⟩

theorem Halts.except_bind {x : ExceptT ε ResolveM α} {f : α → ExceptT ε ResolveM β}
    (hx : Halts x.run) (hf : ∀ a, Halts (f a).run) : Halts (x >>= f).run := by
  rw [ExceptT.run_bind]
  refine hx.bind fun r => ?_
  cases r with
  | ok a => exact hf a
  | error e => exact halts_pure _

theorem halts_except_pure (a : α) : Halts (pure a : ExceptT ε ResolveM α).run := by
  rw [ExceptT.run_pure]
  exact halts_pure _

theorem halts_throw (e : ε) : Halts (throw e : ExceptT ε ResolveM α).run := by
  rw [ExceptT.run_throw]
  exact halts_pure _

theorem Halts.lift {x : ResolveM α} (hx : Halts x) :
    Halts (ExceptT.lift x : ExceptT ε ResolveM α).run := by
  rw [ExceptT.run_lift]
  exact hx.bind fun a => halts_pure _

end Halts

variable {env : ResolverEnv}

/-- In a model without type parameters, resolving a body halts. -/
theorem halts_resolveBody (hng : ∀ c ∈ env.model.classes, c.typeParams = []) (t : TypeExpr) :
    Halts (resolveBody env t) := by
  intro s hs
  obtain ⟨r, s', h, hf⟩ := resolve_ends_of_unbound hng t hs
  refine ⟨r.filter fun d => !d.isPrimitive, s', ?_, hs.of_sameFrame hf⟩
  show (resolve env t s).map _ = _
  rw [h]
  rfl

end Resolver

open Resolver

section Extraction

variable {env : ResolverEnv} (hng : ∀ c ∈ env.model.classes, c.typeParams = [])
include hng

theorem halts_routeOf (cls : Classifier) (m : MethodDecl) (verb : HttpMethod) (path : String) :
    Halts (routeOf env cls m verb path) := by
  unfold routeOf
  dsimp only
  -- the request body, then the response: each resolved, or none
  split
  case' h_1 p _ => refine (halts_resolveBody hng p.type).bind fun _ => ?_
  case' h_2 => refine (halts_pure none).bind fun _ => ?_
  all_goals
    split
    next t _ => exact (halts_resolveBody hng t).bind fun _ => halts_pure _
    next => exact (halts_pure none).bind fun _ => halts_pure _

theorem halts_routesFrom (cls : Classifier) (c : ClassDecl) (classPublic : Bool) :
    (ms : List MethodDecl) → Halts (routesFrom env cls c classPublic ms).run
  | [] => by
    rw [routesFrom]
    exact halts_except_pure _
  | m :: rest => by
    rw [routesFrom]
    split
    · exact halts_routesFrom cls c classPublic rest
    · split
      · exact halts_throw _
      · exact Halts.except_bind (halts_routeOf hng cls m _ _).lift fun _ =>
          Halts.except_bind (halts_routesFrom cls c classPublic rest) fun _ => halts_except_pure _

theorem halts_controllersFrom (cls : Classifier) (h : PathHeuristic) :
    (cs : List (SourceFile × ClassDecl)) → Halts (controllersFrom env cls h cs).run
  | [] => by
    rw [controllersFrom]
    exact halts_except_pure _
  | (u, c) :: rest => by
    rw [controllersFrom]
    split
    · exact halts_controllersFrom cls h rest
    · split
      · exact Halts.except_bind (halts_warn _).lift fun _ => halts_controllersFrom cls h rest
      · split
        · exact halts_throw _
        · refine Halts.except_bind (halts_routesFrom hng cls c _ c.methods).lift fun r => ?_
          split
          · exact Halts.except_bind (halts_warn _).lift fun _ => halts_controllersFrom cls h rest
          · exact Halts.except_bind (halts_controllersFrom cls h rest) fun _ => halts_except_pure _

end Extraction

/-- In a model without type parameters, the extraction ends under every configuration. -/
theorem extraction_isSome_of_no_type_params {m : Manifest}
    (hng : ∀ c ∈ m.classes, c.typeParams = []) (cfg : Config) : (extraction m cfg).isSome := by
  have hinit : ResolverState.initial.Unbound := nofun
  obtain ⟨r, s', hr, -⟩ := @halts_controllersFrom (cfg.resolverEnv m) hng cfg.classifier
    cfg.pathHeuristic ((cfg.resolverEnv m).model.units.flatMap fun u => u.classes.map (u, ·))
    ResolverState.initial hinit
  simp only [extraction, extractControllers]
  rw [hr]
  rfl

/-- In a model whose classes declare no type parameters, every resolution from a state that binds
nothing ends, whatever the wrappers, and so does the making of the document, under every
configuration. -/
theorem resolution_ends_without_type_params (m : Manifest)
    (hng : ∀ c ∈ m.classes, c.typeParams = []) :
    (∀ (wrappers : List String) (examples : Bool) (t : TypeExpr) (s : ResolverState),
      s.Unbound → (resolve ⟨m, wrappers, examples⟩ t s).isSome) ∧
    ∀ cfg : Config, (generateDocument m cfg).isSome := by
  refine ⟨fun wrappers examples t s hs => ?_, fun cfg => ?_⟩
  · obtain ⟨r, s', h, -⟩ := @resolve_ends_of_unbound ⟨m, wrappers, examples⟩ hng t s hs
    rw [h]
    rfl
  · simpa [generateDocument] using extraction_isSome_of_no_type_params hng cfg

/-- A tree whose nodes hold their children, listed by a controller. -/
def treeModel : Manifest :=
  ⟨[{ path := "src/tree.rs", enums := [], modules := [],
      classes := [
        { name := "Tree", docs := none, annotations := [], typeParams := [], methods := [],
          properties := [⟨"children", .named "Vec" [.simple "Tree"], false, false, none, []⟩] },
        { name := "TreeController", docs := none, typeParams := [], properties := [],
          annotations := [⟨"Controller", [.literal "trees"]⟩],
          methods := [⟨"list", none, [⟨"Get", []⟩], [], some (.simple "Tree")⟩] }] }]⟩

theorem treeModel_resolution_ends :
    (∀ c ∈ treeModel.classes, c.typeParams = []) ∧
    ((∀ (wrappers : List String) (examples : Bool) (t : TypeExpr) (s : ResolverState),
      s.Unbound → (resolve ⟨treeModel, wrappers, examples⟩ t s).isSome) ∧
    ∀ cfg : Config, (generateDocument treeModel cfg).isSome) :=
  ⟨by decide, resolution_ends_without_type_params treeModel (by decide)⟩

end ApiSpec
