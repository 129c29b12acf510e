import ApiSpec.Proofs.Schema.Transfer
import ApiSpec.Proofs.Extract.Folded
import ApiSpec.Proofs.Extract.References

/-!
# Documents read controllers up to folding

A document is made route by route, each parameter and body by the generator, and its tags and
servers read neither bodies nor arena. So two lists of controllers that are equal once folded,
over two arenas faithful to one coherent family of named types, give the same document from
every state of the generator.

* `RouteDescriptor.Fits C A r`: the parameters and bodies of `r` fit the arena `A`.
* `addRoute_transfer`, `buildDocument_transfer`: a route, and a whole list of controllers, folded
  alike on both sides, add the same operations and make the same document.
* `Resolver.coherent_canonical`: in a settled model the canonical named types are coherent;
  `Resolver.faithful_of_run`: an extraction that ends in a ready state leaves an arena faithful to
  them, with controllers that fit it.
-/

namespace ApiSpec

open SchemaGen Descriptor

/-- The parameters, request body and response of a route fit the arena `A`. -/
def RouteDescriptor.Fits (C : String → Descriptor → Prop) (A : Arena) (r : RouteDescriptor) :
    Prop :=
  (∀ p ∈ r.parameters, SchemaGen.Fits C A p.type) ∧ (∀ d ∈ r.requestBody, SchemaGen.Fits C A d) ∧
    ∀ d ∈ r.response, SchemaGen.Fits C A d

/-- The routes of a controller fit the arena `A`. -/
def ControllerDescriptor.Fits (C : String → Descriptor → Prop) (A : Arena)
    (c : ControllerDescriptor) : Prop :=
  ∀ r ∈ c.routes, r.Fits C A

variable {C : String → Descriptor → Prop} {A A₁ A₂ : Arena}

/-- A route whose named types satisfy `C` and whose references name keys of `A` fits `A`. -/
theorem RouteDescriptor.fits_of_refs {r : RouteDescriptor} (hn : r.NodesIn C)
    (hr : ∀ k ∈ r.refs, k ∈ A.keys) : r.Fits C A := by
  refine ⟨fun p hp => ⟨hn.1 p hp, fun k hk => hr k ?_⟩, fun d hd => ⟨hn.2.1 d hd, fun k hk => hr k ?_⟩,
    fun d hd => ⟨hn.2.2 d hd, fun k hk => hr k ?_⟩⟩
  · exact List.mem_append_left _ (List.mem_append_left _ (List.mem_flatMap.mpr ⟨p, hp, hk⟩))
  · rw [RouteDescriptor.refs, Option.mem_def.mp hd]
    exact List.mem_append_left _ (List.mem_append_right _ hk)
  · rw [RouteDescriptor.refs, Option.mem_def.mp hd]
    exact List.mem_append_right _ hk

/-- A `mapM` reads its function only on the members of its list. -/
theorem mapM_congr_of_mem {m : Type → Type} [Monad m] [LawfulMonad m] {α β : Type}
    {f g : α → m β} (l : List α) (h : ∀ a ∈ l, f a = g a) : l.mapM f = l.mapM g := by
  induction l with
  | nil => rfl
  | cons a l ih =>
    rw [List.mapM_cons, List.mapM_cons, h a List.mem_cons_self,
      ih fun b hb => h b (List.mem_cons_of_mem _ hb)]

/-! ### What the document reads of a controller -/

/-- A route is added reading its controller's name, paths, version, category and guards, which
folding keeps. -/
theorem addRoute_fold (cfg : Config) (c : ControllerDescriptor) :
    addRoute A cfg c.fold = addRoute A cfg c :=
  rfl

theorem addRoute_congr (cfg : Config) {c₁ c₂ : ControllerDescriptor} (hc : c₁.fold = c₂.fold) :
    addRoute A cfg c₂ = addRoute A cfg c₁ := by
  rw [← addRoute_fold, ← hc, addRoute_fold]

theorem documentServers_map_fold (cs : List ControllerDescriptor) (cfg : Config) :
    documentServers (cs.map ControllerDescriptor.fold) cfg = documentServers cs cfg := by
  have hv : (cs.map ControllerDescriptor.fold).filterMap (·.version) = cs.filterMap (·.version) := by
    rw [List.filterMap_map]
    rfl
  simp only [documentServers, hv]

theorem documentTags_map_fold (cs : List ControllerDescriptor) :
    documentTags (cs.map ControllerDescriptor.fold) = documentTags cs := by
  have hc : (cs.map ControllerDescriptor.fold).map (·.category) = cs.map (·.category) := by
    rw [List.map_map]
    rfl
  have hf (cat : String) : ((cs.map ControllerDescriptor.fold).filter (·.category == cat)).findSome?
      (fun c => c.docs.bind docHead) = (cs.filter (·.category == cat)).findSome?
        fun c => c.docs.bind docHead := by
    rw [List.filter_map, List.findSome?_map]
    rfl
  simp only [documentTags, hc, hf]

/-- Renaming categories keeps what folding keeps. -/
theorem applyCategoryMapping_fold_eq (mapping : CategoryMapping) {cs₁ cs₂ : List ControllerDescriptor}
    (h : cs₁.map ControllerDescriptor.fold = cs₂.map ControllerDescriptor.fold) :
    (applyCategoryMapping mapping cs₁).map ControllerDescriptor.fold =
      (applyCategoryMapping mapping cs₂).map ControllerDescriptor.fold := by
  have hmap (cs : List ControllerDescriptor) : (applyCategoryMapping mapping cs).map
      ControllerDescriptor.fold = (cs.map ControllerDescriptor.fold).map fun c =>
        { c with category := mapping.apply c.category } := by
    simp only [applyCategoryMapping, List.map_map]
    rfl
  rw [hmap, hmap, h]

theorem fits_applyCategoryMapping (mapping : CategoryMapping) {cs : List ControllerDescriptor}
    (h : ∀ c ∈ cs, c.Fits C A) : ∀ c ∈ applyCategoryMapping mapping cs, c.Fits C A := by
  intro c hc
  obtain ⟨c', hc', rfl⟩ := List.mem_map.mp hc
  exact h c' hc'

/-! ### Routes and controllers folded alike -/

section Transfer

variable (hC : Coherent C) (h₁ : Faithful C A₁) (h₂ : Faithful C A₂)
include hC h₁ h₂

theorem generate_eq_of_fits {d₁ d₂ : Descriptor} (hd : d₁.fold = d₂.fold)
    (hf₁ : SchemaGen.Fits C A₁ d₁) (hf₂ : SchemaGen.Fits C A₂ d₂) :
    generate A₂ d₂ = generate A₁ d₁ :=
  StateT.ext fun st => generate_transfer hC h₁ h₂ hd hf₁ hf₂ st

/-- Two optional bodies folded alike are both absent, or generated alike. -/
theorem generate_option_eq {o₁ o₂ : Option Descriptor} (ho : o₁.map fold = o₂.map fold)
    (hf₁ : ∀ d ∈ o₁, SchemaGen.Fits C A₁ d) (hf₂ : ∀ d ∈ o₂, SchemaGen.Fits C A₂ d) :
    (o₁ = none ∧ o₂ = none) ∨
      ∃ d₁ d₂, o₁ = some d₁ ∧ o₂ = some d₂ ∧ generate A₂ d₂ = generate A₁ d₁ := by
  cases o₁ with
  | none =>
    cases o₂ with
    | none => exact .inl ⟨rfl, rfl⟩
    | some _ => cases ho
  | some d₁ =>
    cases o₂ with
    | none => cases ho
    | some d₂ =>
      refine .inr ⟨d₁, d₂, rfl, rfl, generate_eq_of_fits hC h₁ h₂ ?_ (hf₁ d₁ rfl) (hf₂ d₂ rfl)⟩
      simpa using ho

/-- One route, folded alike on both sides, adds the same operation. -/
theorem addRoute_transfer (cfg : Config) (c : ControllerDescriptor) {r₁ r₂ : RouteDescriptor}
    (hr : r₁.fold = r₂.fold) (hf₁ : r₁.Fits C A₁) (hf₂ : r₂.Fits C A₂)
    (paths : List (String × PathItem)) : addRoute A₂ cfg c r₂ paths = addRoute A₁ cfg c r₁ paths := by
  obtain ⟨n, m, p, dc, ps, rb₁, rs₁, g, pub⟩ := r₁
  obtain ⟨n', m', p', dc', ps', rb₂, rs₂, g', pub'⟩ := r₂
  simp only [RouteDescriptor.fold, RouteDescriptor.mk.injEq] at hr
  obtain ⟨rfl, rfl, rfl, rfl, rfl, hrb, hrs, rfl, rfl⟩ := hr
  obtain ⟨hp₁, hb₁, hs₁⟩ := hf₁
  obtain ⟨hp₂, hb₂, hs₂⟩ := hf₂
  -- the path of a route reads its own path only
  have hpath : routePath cfg c ⟨n, m, p, dc, ps, rb₂, rs₂, g, pub⟩ =
      routePath cfg c ⟨n, m, p, dc, ps, rb₁, rs₁, g, pub⟩ :=
    rfl
  unfold addRoute
  rw [hpath]
  dsimp only
  -- the parameters: one list, each generated alike
  congr 1
  · exact mapM_congr_of_mem ps fun q hq => by
      simp only [generate_eq_of_fits hC h₁ h₂ rfl (hp₁ q hq) (hp₂ q hq)]
  funext parameters
  -- the request body, then the response: both absent, or generated alike
  rcases generate_option_eq hC h₁ h₂ hrb hb₁ hb₂ with ⟨rfl, rfl⟩ | ⟨b₁, b₂, rfl, rfl, hb⟩ <;>
  rcases generate_option_eq hC h₁ h₂ hrs hs₁ hs₂ with ⟨rfl, rfl⟩ | ⟨t₁, t₂, rfl, rfl, ht⟩ <;>
  dsimp only
  · rw [ht]
  · rw [hb]
  · rw [hb, ht]

theorem routes_transfer (cfg : Config) (c : ControllerDescriptor) {rs₁ rs₂ : List RouteDescriptor}
    (hrs : rs₁.map RouteDescriptor.fold = rs₂.map RouteDescriptor.fold)
    (hf₁ : ∀ r ∈ rs₁, r.Fits C A₁) (hf₂ : ∀ r ∈ rs₂, r.Fits C A₂) (acc : List (String × PathItem)) :
    rs₂.foldlM (fun acc r => addRoute A₂ cfg c r acc) acc =
      rs₁.foldlM (fun acc r => addRoute A₁ cfg c r acc) acc := by
  induction rs₁ generalizing rs₂ acc with
  | nil =>
    rw [List.map_nil, eq_comm, List.map_eq_nil_iff] at hrs
    subst hrs
    simp only [List.foldlM_nil]
  | cons r₁ rs₁ ih =>
    rw [List.map_cons, eq_comm, List.map_eq_cons_iff] at hrs
    obtain ⟨r₂, rs₂, rfl, hr, hrs⟩ := hrs
    have ih' := ih hrs.symm (fun r hr => hf₁ r (List.mem_cons_of_mem _ hr))
      (fun r hr => hf₂ r (List.mem_cons_of_mem _ hr))
    simp only [List.foldlM_cons, ih', addRoute_transfer hC h₁ h₂ cfg c hr.symm
      (hf₁ r₁ List.mem_cons_self) (hf₂ r₂ List.mem_cons_self)]

theorem controllers_transfer (cfg : Config) {cs₁ cs₂ : List ControllerDescriptor}
    (hcs : cs₁.map ControllerDescriptor.fold = cs₂.map ControllerDescriptor.fold)
    (hf₁ : ∀ c ∈ cs₁, c.Fits C A₁) (hf₂ : ∀ c ∈ cs₂, c.Fits C A₂) (acc : List (String × PathItem)) :
    cs₂.foldlM (fun acc c => c.routes.foldlM (fun acc r => addRoute A₂ cfg c r acc) acc) acc =
      cs₁.foldlM (fun acc c => c.routes.foldlM (fun acc r => addRoute A₁ cfg c r acc) acc) acc := by
  induction cs₁ generalizing cs₂ acc with
  | nil =>
    rw [List.map_nil, eq_comm, List.map_eq_nil_iff] at hcs
    subst hcs
    simp only [List.foldlM_nil]
  | cons c₁ cs₁ ih =>
    rw [List.map_cons, eq_comm, List.map_eq_cons_iff] at hcs
    obtain ⟨c₂, cs₂, rfl, hc, hcs⟩ := hcs
    have ih' := ih hcs.symm (fun c hc => hf₁ c (List.mem_cons_of_mem _ hc))
      (fun c hc => hf₂ c (List.mem_cons_of_mem _ hc))
    -- the routes of the two controllers, folded alike, under either controller's fields
    have hroutes : c₁.routes.map RouteDescriptor.fold = c₂.routes.map RouteDescriptor.fold :=
      congrArg ControllerDescriptor.routes hc.symm
    rw [List.foldlM_cons, List.foldlM_cons, addRoute_congr cfg hc.symm]
    simp only [routes_transfer hC h₁ h₂ cfg c₁ hroutes (hf₁ c₁ List.mem_cons_self)
      (hf₂ c₂ List.mem_cons_self), ih']

/-- Two lists of controllers folded alike, over two faithful arenas, make the same document from
every state. -/
theorem buildDocument_transfer (cfg : Config) {cs₁ cs₂ : List ControllerDescriptor}
    (hcs : cs₁.map ControllerDescriptor.fold = cs₂.map ControllerDescriptor.fold)
    (hf₁ : ∀ c ∈ cs₁, c.Fits C A₁) (hf₂ : ∀ c ∈ cs₂, c.Fits C A₂) :
    buildDocument A₂ cfg cs₂ = buildDocument A₁ cfg cs₁ := by
  have hservers : documentServers cs₂ cfg = documentServers cs₁ cfg := by
    rw [← documentServers_map_fold cs₂, ← hcs, documentServers_map_fold]
  have htags : documentTags cs₂ = documentTags cs₁ := by
    rw [← documentTags_map_fold cs₂, ← hcs, documentTags_map_fold]
  unfold buildDocument
  rw [controllers_transfer hC h₁ h₂ cfg hcs hf₁ hf₂, hservers, htags]

end Transfer

/-! ### The arenas of extractions -/

namespace Resolver

open ResolverState

variable {env : ResolverEnv}

/-- In a settled model the canonical named types are coherent. -/
theorem coherent_canonical (hs : env.model.Settled) : Coherent (Canonical env) where
  own _ _ h := by cases h <;> rfl
  agree _ _ _ h₁ h₂ := canonical_coherent hs h₁ h₂

/-- An extraction of a settled model that ends from the initial state in a ready state, with
controllers whose named types are canonical, leaves an arena faithful to the canonical named
types, and its controllers fit it. -/
theorem faithful_of_run (hs : env.model.Settled) (cls : Classifier) (h : PathHeuristic)
    {L : List (SourceFile × ClassDecl)} {cs : List ControllerDescriptor} {s' : ResolverState}
    (hrun : (controllersFrom env cls h L).run.run ResolverState.initial = some (.ok cs, s'))
    (hready : s'.Ready env) (hnodes : ∀ c ∈ cs, c.NodesIn (Canonical env)) :
    Faithful (Canonical env) s'.arena ∧ ∀ c ∈ cs, c.Fits (Canonical env) s'.arena := by
  have hinit : ResolverState.initial.Idle env.model := ⟨rfl, fun _ h => absurd h List.not_mem_nil⟩
  obtain ⟨hidle, -, hnamed⟩ := triple_controllersFrom cls h L ResolverState.initial (.ok cs) s'
    hinit trivial hrun
  -- with no enumeration with payloads, every name is a key of the arena
  have hkey : ∀ id, s'.Names env.model id → id ∈ s'.arena.keys := fun id hn =>
    (hidle.names hn).resolve_right (not_isPayloadEnum hs.noPayloads id)
  refine ⟨fun k e he => ?_, fun c hc r hr => ?_⟩
  · obtain ⟨hk, hn⟩ := hready.canonical.get? he
    exact ⟨hk, hn, fun id hid => hkey id (hidle.2 _ (Arena.mem_entries_of_get? he) id hid)⟩
  · exact RouteDescriptor.fits_of_refs (hnodes c hc r hr) fun id hid =>
      hkey id (hnamed id (List.mem_flatMap.mpr ⟨c, hc, List.mem_flatMap.mpr ⟨r, hr, hid⟩⟩))

end Resolver

end ApiSpec
