import ApiSpec.Proofs.Resolve.References
import ApiSpec.Proofs.Extract.Termination

/-!
# The references of an extraction

The extraction resolves the bodies of every route of every controller over one resolver, from a
state with nothing recorded and nothing on the stack; between two resolutions the stack is
empty again. So a reference names a recorded type or an enumeration with payloads, and nothing
else: an enumeration with payloads that no member wins is never recorded, and a class that
refers back to it while it is narrowed keeps that reference.

* `Resolver.Triple m P x Q`: from a state with an empty stack and a closed arena where `P`
  holds, a run of `x` ends in such a state, keeps every key, and its result satisfies `Q`. The
  rules follow the extraction's `do` blocks (`Triple.bind`, `Triple.frame`,
  `Triple.except_bind`), and each function of the extraction has its triple.
* `extraction_references_named`: every reference of an extraction, in a route or in a recorded
  type, names a recorded type or an enumeration with payloads.
* `nodeResponse_leaves_dangling_reference`: an enumeration `Node` whose member `Vec<Tree>` leads
  to a class `Tree` that holds a `Node` is not recorded, while `Tree` is, with its reference.
* `Resolver.NoFault` and `extraction_eq_ok`: the extraction fails only on a fault of the
  category heuristic, so a model whose controllers all have a category, and whose resolutions
  end, has an extraction.
-/

namespace ApiSpec

open Descriptor ResolverState

/-- The identities a route refers to: in its parameters, its request body and its response. -/
def RouteDescriptor.refs (r : RouteDescriptor) : List String :=
  r.parameters.flatMap (·.type.refs) ++ refsOpt r.requestBody ++ refsOpt r.response

namespace ResolverState

variable {m : Manifest}

/-- A state between two resolutions of an extraction: nothing on the stack, the arena closed. -/
def Idle (m : Manifest) (s : ResolverState) : Prop := s.stack = [] ∧ s.Closed m

/-- Each of `ids` names something in `s`. -/
def Named (m : Manifest) (ids : List String) (s : ResolverState) : Prop :=
  ∀ id ∈ ids, s.Names m id

theorem named_nil (s : ResolverState) : s.Named m [] := nofun

theorem Named.append {ids ids' : List String} {s : ResolverState} (h : s.Named m ids)
    (h' : s.Named m ids') : s.Named m (ids ++ ids') := by
  intro id hid
  rcases List.mem_append.mp hid with hid | hid
  · exact h id hid
  · exact h' id hid

/-- In an idle state, a name is a key of the arena or an enumeration with payloads. -/
theorem Idle.names {s : ResolverState} {id : String} (hs : s.Idle m) (h : s.Names m id) :
    id ∈ s.arena.keys ∨ m.IsPayloadEnum id := by
  rcases h with h | h | h
  · exact .inl h
  · rw [hs.1] at h
    cases h
  · exact .inr h

end ResolverState

namespace Resolver

/-- From an idle state where `P` holds, a run of `x` that ends leaves an idle state, keeps every
key, and its result satisfies `Q`. -/
def Triple {α : Type} (m : Manifest) (P : ResolverState → Prop) (x : ResolveM α)
    (Q : α → ResolverState → Prop) : Prop :=
  ∀ s a s', s.Idle m → P s → x.run s = some (a, s') →
    s'.Idle m ∧ s.arena.keys ⊆ s'.arena.keys ∧ Q a s'

/-- A property of states that the growth of the arena keeps. -/
def Stable (R : ResolverState → Prop) : Prop :=
  ∀ s s', R s → s'.stack = s.stack → s.arena.keys ⊆ s'.arena.keys → R s'

/-- `Q` of a result that is not an error. -/
def OnOk {ε α : Type} (Q : α → ResolverState → Prop) : Except ε α → ResolverState → Prop
  | .ok a, s => Q a s
  | .error _, _ => True

theorem stable_named (m : Manifest) (ids : List String) : Stable (Named m ids) :=
  fun _ _ h hst hkeys id hid => (h id hid).mono hst hkeys

namespace Triple

variable {α β ε : Type} {m : Manifest} {P P' R : ResolverState → Prop}
  {Q Q' : α → ResolverState → Prop} {x : ResolveM α}

theorem conseq (ht : Triple m P x Q) (hp : ∀ s, P' s → P s) (hq : ∀ a s, Q a s → Q' a s) :
    Triple m P' x Q' := by
  intro s a s' hs hp' h
  obtain ⟨hs', hkeys, hq'⟩ := ht s a s' hs (hp s hp') h
  exact ⟨hs', hkeys, hq a s' hq'⟩

protected theorem pure {a : α} (h : ∀ s, P s → Q a s) : Triple m P (pure a) Q := by
  intro s b s' hs hp hrun
  cases hrun
  exact ⟨hs, List.Subset.refl _, h s hp⟩

protected theorem bind {Q₁ : α → ResolverState → Prop} {Q : β → ResolverState → Prop}
    {f : α → ResolveM β} (hx : Triple m P x Q₁) (hf : ∀ a, Triple m (Q₁ a) (f a) Q) :
    Triple m P (x >>= f) Q := by
  intro s b s₂ hs hp h
  rw [StateT.run_bind] at h
  obtain ⟨⟨a, s₁⟩, h₁, h₂⟩ := Option.bind_eq_some_iff.mp h
  obtain ⟨hs₁, hk₁, hq₁⟩ := hx s a s₁ hs hp h₁
  obtain ⟨hs₂, hk₂, hq⟩ := hf a s₁ b s₂ hs₁ hq₁ h₂
  exact ⟨hs₂, List.Subset.trans hk₁ hk₂, hq⟩

/-- What the growth of the arena keeps holds across any run. -/
theorem frame (ht : Triple m P x Q) (hR : Stable R) :
    Triple m (fun s => P s ∧ R s) x (fun a s => Q a s ∧ R s) := by
  intro s a s' hs hpr h
  obtain ⟨hp, hr⟩ := hpr
  obtain ⟨hs', hkeys, hq⟩ := ht s a s' hs hp h
  exact ⟨hs', hkeys, hq, hR s s' hr (hs'.1.trans hs.1.symm) hkeys⟩

theorem except_pure {a : α} (h : ∀ s, P s → Q a s) :
    Triple m P (pure a : ExceptT ε ResolveM α).run (OnOk Q) := by
  rw [ExceptT.run_pure]
  exact Triple.pure h

theorem throw (e : ε) : Triple m P (throw e : ExceptT ε ResolveM α).run (OnOk Q) := by
  rw [ExceptT.run_throw]
  exact Triple.pure fun _ _ => trivial

theorem lift (hx : Triple m P x Q) : Triple m P (ExceptT.lift x : ExceptT ε ResolveM α).run (OnOk Q) := by
  rw [ExceptT.run_lift, map_eq_pure_bind]
  exact hx.bind fun a => Triple.pure fun _ h => h

theorem except_bind {x : ExceptT ε ResolveM α} {Q : β → ResolverState → Prop}
    {Q₁ : α → ResolverState → Prop} {f : α → ExceptT ε ResolveM β}
    (hx : Triple m P x.run (OnOk Q₁)) (hf : ∀ a, Triple m (Q₁ a) (f a).run (OnOk Q)) :
    Triple m P (x >>= f).run (OnOk Q) := by
  rw [ExceptT.run_bind]
  refine hx.bind fun r => ?_
  cases r with
  | ok a => exact hf a
  | error e => exact Triple.pure fun _ _ => trivial

/-- The frame rule through the exception layer. -/
theorem except_frame {x : ExceptT ε ResolveM α} (ht : Triple m P x.run (OnOk Q)) (hR : Stable R) :
    Triple m (fun s => P s ∧ R s) x.run (OnOk fun a s => Q a s ∧ R s) := by
  refine (ht.frame hR).conseq (fun _ h => h) fun r s h => ?_
  cases r with
  | ok a => exact h
  | error e => trivial

end Triple

variable {m : Manifest}

theorem triple_warn {R : ResolverState → Prop} (hR : Stable R) (n : Notice) :
    Triple m R (warn n) fun _ => R := by
  intro s a s' hs hr h
  cases h
  exact ⟨⟨hs.1, hs.2.mono rfl rfl⟩, List.Subset.refl _, hR s _ hr rfl (List.Subset.refl _)⟩

theorem triple_resolveBody {env : ResolverEnv} (t : TypeExpr) :
    Triple env.model (fun _ => True) (resolveBody env t) fun r => Named env.model (refsOpt r) := by
  intro s r s' hs _ h
  have hk := resolveBody_keeps h hs.2
  exact ⟨⟨hk.stack_eq.trans hs.1, hk.closed⟩, hk.keys_subset, hk.named⟩

end Resolver

open Resolver

/-! ### The extraction, function by function -/

section Extraction

variable {env : ResolverEnv} (cls : Classifier)

theorem refs_parameters (md : MethodDecl) :
    (md.params.filterMap (parameterOf cls env.model)).flatMap (·.type.refs) = [] := by
  rw [List.flatMap_eq_nil_iff]
  intro pd hpd
  obtain ⟨p, -, hp⟩ := List.mem_filterMap.mp hpd
  unfold parameterOf at hp
  obtain ⟨_, -, rfl⟩ := Option.map_eq_some_iff.mp hp
  exact refs_parameterDescriptor _ _

/-- A body is resolved, or there is none. -/
theorem triple_body {x : ResolveM (Option Descriptor)}
    (hx : (∃ t, x = resolveBody env t) ∨ x = pure none) :
    Triple env.model (fun _ => True) x fun r => Named env.model (refsOpt r) := by
  rcases hx with ⟨t, rfl⟩ | rfl
  · exact triple_resolveBody t
  · exact Triple.pure fun s _ => named_nil s

theorem triple_routeOf (md : MethodDecl) (verb : HttpMethod) (path : String) :
    Triple env.model (fun _ => True) (routeOf env cls md verb path)
      fun r => Named env.model r.refs := by
  unfold routeOf
  dsimp only
  -- the request body, then the response: each resolved, or none
  split
  all_goals
    refine Triple.bind (triple_body (by simp)) fun rb => ?_
    split
    all_goals
      -- the request body's names last through the resolution of the response
      refine Triple.bind ((Triple.frame (triple_body (by simp)) (stable_named _ (refsOpt rb))).conseq
        (fun _ h => ⟨trivial, h⟩) fun _ _ h => h) fun resp => ?_
      refine Triple.pure fun s h => ?_
      obtain ⟨hresp, hrb⟩ := h
      unfold RouteDescriptor.refs
      rw [refs_parameters]
      exact (named_nil s |>.append hrb).append hresp

theorem triple_routesFrom (c : ClassDecl) (pub : Bool) :
    (ms : List MethodDecl) → Triple env.model (fun _ => True) (routesFrom env cls c pub ms).run
      (OnOk fun rs => Named env.model (rs.flatMap RouteDescriptor.refs))
  | [] => by
    rw [routesFrom]
    exact Triple.except_pure fun s _ => named_nil s
  | md :: rest => by
    rw [routesFrom]
    split
    · exact triple_routesFrom c pub rest
    · split
      · exact Triple.throw _
      · refine Triple.except_bind (triple_routeOf cls md _ _).lift fun r => ?_
        refine Triple.except_bind ((Triple.except_frame (triple_routesFrom c pub rest)
          (stable_named _ r.refs)).conseq (fun _ h => ⟨trivial, h⟩) fun _ _ h => h) fun tail => ?_
        exact Triple.except_pure fun _ h => h.2.append h.1

theorem triple_controllersFrom (h : PathHeuristic) :
    (cs : List (SourceFile × ClassDecl)) →
      Triple env.model (fun _ => True) (controllersFrom env cls h cs).run
        (OnOk fun ds => Named env.model (ds.flatMap fun d => d.routes.flatMap RouteDescriptor.refs))
  | [] => by
    rw [controllersFrom]
    exact Triple.except_pure fun s _ => named_nil s
  | (u, c) :: rest => by
    have hskip : ∀ e : ExtractionError,
        Triple env.model (fun _ => True) (ExceptT.lift (skipController e) : ScanM Unit).run
          (OnOk fun _ _ => True) :=
      fun e => (triple_warn (fun _ _ _ _ _ => trivial) _).lift
    rw [controllersFrom]
    split
    · exact triple_controllersFrom h rest
    · split
      · exact Triple.except_bind (hskip _) fun _ => triple_controllersFrom h rest
      · split
        · exact Triple.throw _
        · refine Triple.except_bind (triple_routesFrom cls c _ c.methods).lift fun r => ?_
          split
          · exact Triple.except_bind (hskip _) fun _ => triple_controllersFrom h rest
          · next routes _ =>
            refine Triple.except_bind ((Triple.except_frame (triple_controllersFrom h rest)
              (stable_named _ _)).conseq (fun _ h => ⟨trivial, h⟩) fun _ _ h => h) fun tail => ?_
            exact Triple.except_pure fun _ h => h.2.append h.1

end Extraction

/-- Every reference of an extraction, in a route of a controller (its parameters, request body
and response) or in a recorded type, names a recorded type or an enumeration with payloads. -/
theorem extraction_references_named {m : Manifest} {cfg : Config} {ex : Extraction}
    (h : extraction m cfg = some (.ok ex)) :
    (∀ c ∈ ex.controllers, ∀ r ∈ c.routes, ∀ id ∈ r.refs,
      id ∈ ex.arena.keys ∨ m.IsPayloadEnum id) ∧
    ∀ e ∈ ex.arena.entries, ∀ id ∈ e.2.refs, id ∈ ex.arena.keys ∨ m.IsPayloadEnum id := by
  unfold extraction at h
  obtain ⟨⟨r, st⟩, hrun, hex⟩ := Option.map_eq_some_iff.mp h
  cases r with
  | error e => cases hex
  | ok cs =>
    cases hex
    have hinit : ResolverState.initial.Idle m := ⟨rfl, nofun⟩
    obtain ⟨hidle, -, hnamed⟩ :=
      @triple_controllersFrom (cfg.resolverEnv m) cfg.classifier cfg.pathHeuristic _ _
        (.ok cs) st hinit trivial hrun
    refine ⟨fun c hc r hr id hid => hidle.names (hnamed id ?_), fun e he id hid =>
      hidle.names (hidle.2 e he id hid)⟩
    exact List.mem_flatMap.mpr ⟨c, hc, List.mem_flatMap.mpr ⟨r, hr, hid⟩⟩

/-! ### A payload enumeration that no member wins -/

/-- A tree whose node is an enumeration with payloads: the child trees, or a number. -/
def nodeModel : Manifest :=
  ⟨[{ path := "src/tree.rs", modules := [],
      enums := [⟨"Node", [], [.named "Vec" [.simple "Tree"], .simple "i32"]⟩],
      classes := [
        { name := "Tree", docs := none, annotations := [], typeParams := [], methods := [],
          properties := [⟨"node", .named "Box" [.simple "Node"], false, false, none, []⟩] },
        { name := "NodeController", docs := none, typeParams := [], properties := [],
          annotations := [⟨"Controller", [.literal "nodes"]⟩],
          methods := [⟨"get_node", none, [⟨"Get", []⟩], [], some (.simple "Node")⟩] }] }]⟩

/-- The response `Node` of the node controller, the first body its extraction resolves, leaves
`Tree` recorded with a reference to `Node`, which is recorded nowhere: narrowing `Node` resolves
`Vec<Tree>`, whose `Tree` refers back to `Node` on the stack, and neither an array nor a number
wins. -/
theorem nodeResponse_leaves_dangling_reference :
    ∃ r s, (resolveBody (Config.standard.resolverEnv nodeModel) (.simple "Node")).run
        ResolverState.initial = some (r, s) ∧
      "Node" ∈ s.arena.entries.flatMap (·.2.refs) ∧ "Node" ∉ s.arena.keys := by
  have h : ((resolveBody (Config.standard.resolverEnv nodeModel) (.simple "Node")).run
      ResolverState.initial).map (fun p => (p.2.arena.entries.flatMap (·.2.refs), p.2.arena.keys)) =
        some (["Node"], ["Tree"]) := by
    decide +kernel
  obtain ⟨⟨r, s⟩, hrun, hs⟩ := Option.map_eq_some_iff.mp h
  simp only [Prod.mk.injEq] at hs
  exact ⟨r, s, hrun, by simp [hs.1], by simp [hs.2]⟩

/-! ### When the extraction succeeds -/

namespace Resolver

/-- A run of `x` that ends ends without an error. -/
def NoFault {ε α : Type} (x : ExceptT ε ResolveM α) : Prop :=
  ∀ s r s', x.run.run s = some (r, s') → r.toBool = true

namespace NoFault

variable {ε α β : Type}

protected theorem pure (a : α) : NoFault (pure a : ExceptT ε ResolveM α) := by
  intro s r s' h
  cases h
  rfl

theorem lift (x : ResolveM α) : NoFault (ExceptT.lift x : ExceptT ε ResolveM α) := by
  intro s r s' h
  rw [ExceptT.run_lift, map_eq_pure_bind, StateT.run_bind] at h
  obtain ⟨⟨a, s₁⟩, -, h⟩ := Option.bind_eq_some_iff.mp h
  cases h
  rfl

protected theorem bind {x : ExceptT ε ResolveM α} {f : α → ExceptT ε ResolveM β}
    (hx : NoFault x) (hf : ∀ a, NoFault (f a)) : NoFault (x >>= f) := by
  intro s r s₂ h
  rw [ExceptT.run_bind, StateT.run_bind] at h
  obtain ⟨⟨r₁, s₁⟩, h₁, h₂⟩ := Option.bind_eq_some_iff.mp h
  have hok := hx s r₁ s₁ h₁
  cases r₁ with
  | ok a => exact hf a s₁ r s₂ h₂
  | error e => cases hok

end NoFault

/-- The extraction of controllers fails only on a fault of the category heuristic: a controller
whose paths are not literals is skipped. -/
theorem noFault_controllersFrom {env : ResolverEnv} (cls : Classifier) (h : PathHeuristic) :
    (cs : List (SourceFile × ClassDecl)) →
      (∀ p ∈ cs, (categoryOf env.model h p.1 p.2).toBool = true) →
        NoFault (controllersFrom env cls h cs)
  | [], _ => by
    rw [controllersFrom]
    exact NoFault.pure _
  | (u, c) :: rest, hcat => by
    have hrest := noFault_controllersFrom cls h rest fun p hp => hcat p (List.mem_cons_of_mem _ hp)
    rw [controllersFrom]
    split
    · exact hrest
    · split
      · exact (NoFault.lift _).bind fun _ => hrest
      · split
        next f hf =>
          have := hcat (u, c) List.mem_cons_self
          rw [hf] at this
          cases this
        next =>
          refine (NoFault.lift _).bind fun r => ?_
          split
          · exact (NoFault.lift _).bind fun _ => hrest
          · exact hrest.bind fun _ => NoFault.pure _

end Resolver

/-- A model whose resolutions end, and whose controllers each have a category, has an
extraction. -/
theorem extraction_eq_ok {m : Manifest} (cfg : Config)
    (hcat : ∀ u ∈ m.units, ∀ c ∈ u.classes, (categoryOf m cfg.pathHeuristic u c).toBool = true)
    (hs : (extraction m cfg).isSome) : ∃ ex, extraction m cfg = some (.ok ex) := by
  obtain ⟨v, hv⟩ := Option.isSome_iff_exists.mp hs
  have hv' := hv
  unfold extraction at hv'
  obtain ⟨⟨r, st⟩, hrun, rfl⟩ := Option.map_eq_some_iff.mp hv'
  have hok := @noFault_controllersFrom (cfg.resolverEnv m) cfg.classifier cfg.pathHeuristic _
    (fun p hp => by
      obtain ⟨u, hu, hp⟩ := List.mem_flatMap.mp hp
      obtain ⟨c, hc, rfl⟩ := List.mem_map.mp hp
      exact hcat u hu c hc) ResolverState.initial r st hrun
  cases r with
  | ok cs => exact ⟨_, hv⟩
  | error e => cases hok

/-- The tree model: every reference of its extraction names a recorded type or an enumeration
with payloads. -/
theorem treeModel_references_named :
    ∃ ex, extraction treeModel Config.standard = some (.ok ex) ∧
      (∀ c ∈ ex.controllers, ∀ r ∈ c.routes, ∀ id ∈ r.refs,
        id ∈ ex.arena.keys ∨ treeModel.IsPayloadEnum id) ∧
      ∀ e ∈ ex.arena.entries, ∀ id ∈ e.2.refs, id ∈ ex.arena.keys ∨ treeModel.IsPayloadEnum id := by
  obtain ⟨ex, h⟩ := extraction_eq_ok (m := treeModel) Config.standard (by decide +kernel)
    (extraction_isSome_of_no_type_params (by decide) _)
  exact ⟨ex, h, extraction_references_named h⟩

end ApiSpec
