import ApiSpec.Proofs.Schema.Denotation
import ApiSpec.Proofs.Extract.Reorder
import ApiSpec.Proofs.Document.OperationIds

/-!
# Documents of a model in another order

The document builder adds the operations of the routes one after the other over one schema
generator, so the order of the controllers decides which route's types the generator meets
first. Over an arena faithful to coherent copies, with named types that get pairwise distinct
component names, that order decides nothing the document publishes: each operation's schemas
are `schemaOf` of its descriptors (`SchemaGen.gives_addRoute`), an operation sits at its route's
path and method, and the components are those of the named types reached from all routes.

* `SchemaGen.Gives C D x v R`: from every proper state, a run of `x` returns `v` and extends the
  state by the named types `R`; one rule per way the builder's `do` blocks sequence their steps.
* `operation?_foldl_putRoute`: after the routes are added, the operation at a path and method is
  that of the one route there, when no two routes share one.
* `buildDocument_perm`: two orders of the same controllers publish the same paths, as JSON, and
  the same component schemas.
* `generateDocument_reordered`: so do a settled model and the model with its files, classes,
  enumerations and modules listed in another order, when names are distinct, each controller is
  listed by at most one module, and the extraction has no two routes at one path and method and
  no two identities with one component name (`Extraction.Distinct`). The extractions of the two
  orders fold to the same controllers up to order (`Resolver.matches_reordered`), over arenas
  faithful to the same coherent copies, so the builder meets the same named types either way.
* `nodeTree_components_depend_on_order`: with an enumeration carrying payloads, which no settled
  model has, the order of two controllers changes the components.
-/

namespace ApiSpec

open scoped List
open SchemaGen SchemaState Descriptor

/-! ### What the builder makes of a route -/

/-- The descriptors the builder generates for a route: its parameters' types, its request body
when its method sends one, and its response. -/
def RouteDescriptor.generated (r : RouteDescriptor) : List Descriptor :=
  r.parameters.map (·.type) ++ (if r.method.isMutating then r.requestBody.toList else []) ++
    r.response.toList

/-- The named types at the top of what the builder generates for a route. -/
def RouteDescriptor.roots (r : RouteDescriptor) : List String := r.generated.flatMap (·.fold.refs)

/-- The routes of some controllers, each with its controller, in order. -/
def routeList (cs : List ControllerDescriptor) : List (ControllerDescriptor × RouteDescriptor) :=
  cs.flatMap fun c => c.routes.map (c, ·)

/-- The named types at the top of what the builder generates for the routes of some controllers. -/
def routeRoots (cs : List ControllerDescriptor) : List String := (routeList cs).flatMap (·.2.roots)

/-- The path and method of a route of a controller. -/
def routeKey (cfg : Config) (x : ControllerDescriptor × RouteDescriptor) : String × HttpMethod :=
  (routePath cfg x.1 x.2, x.2.method)

/-- The operation the builder adds for a route when each named type is the component named
after its identity. -/
def opOf (cfg : Config) (x : ControllerDescriptor × RouteDescriptor) : Operation :=
  { tags := if x.1.category.isEmpty then [] else [x.1.category]
    summary := x.2.docs.getD (x.2.method.upperName ++ " " ++ routePath cfg x.1 x.2)
    operationId := x.1.name ++ "_" ++ x.2.name
    parameters := x.2.parameters.map fun p =>
      { name := p.name, location := p.location, required := p.required, schema := schemaOf p.type }
    requestBody := (if x.2.method.isMutating then x.2.requestBody else none).map schemaOf
    response := x.2.response.map schemaOf
    secured := cfg.includeSecurity && !x.2.isPublic
    guards := x.1.guards ++ x.2.guards }

/-- The paths with the operation of a route set at its path and method. -/
def putRoute (cfg : Config) (paths : List (String × PathItem))
    (x : ControllerDescriptor × RouteDescriptor) : List (String × PathItem) :=
  setPathItem (routePath cfg x.1 x.2) ((itemAt (routePath cfg x.1 x.2) paths).set x.2.method
    (opOf cfg x)) paths

/-- The paths of a document as written: each path with its item as JSON. -/
def Document.pathsJson (d : Document) : List (String × Json) :=
  d.paths.map fun e => (e.1, e.2.toJson)

/-- What a generation publishes: its paths as written, and its component schemas. -/
def Generation.published (g : Generation) : List (String × Json) × List (String × Schema) :=
  (g.document.pathsJson, g.document.schemas)

/-- Every identity an extraction names: in what the builder generates for its routes, and in the
named types it recorded. -/
def Extraction.identities (ex : Extraction) : List String :=
  (routeList ex.controllers).flatMap (·.2.generated.flatMap Descriptor.identities) ++
    ex.arena.entries.flatMap (·.2.identities)

/-- No two routes of an extraction share a path and method, and no two identities it names share
a component name. -/
def Extraction.Distinct (cfg : Config) (ex : Extraction) : Prop :=
  ((routeList ex.controllers).map (routeKey cfg)).Nodup ∧
    ∀ k ∈ ex.identities, ∀ j ∈ ex.identities, componentName k = componentName j → k = j

instance (cfg : Config) (ex : Extraction) : Decidable (ex.Distinct cfg) :=
  inferInstanceAs (Decidable (_ ∧ _))

/-! ### Routes -/

section Routes

variable {x : ControllerDescriptor × RouteDescriptor} {cs : List ControllerDescriptor}

theorem mem_routeList : x ∈ routeList cs ↔ x.1 ∈ cs ∧ x.2 ∈ x.1.routes := by
  obtain ⟨c, r⟩ := x
  simp [routeList]

theorem fits_of_mem_routeList {C : String → Descriptor → Prop} {A : Arena}
    (hf : ∀ c ∈ cs, c.Fits C A) (hx : x ∈ routeList cs) : x.2.Fits C A :=
  hf x.1 (mem_routeList.mp hx).1 x.2 (mem_routeList.mp hx).2

theorem RouteDescriptor.fits_of_mem_generated {C : String → Descriptor → Prop} {A : Arena}
    {r : RouteDescriptor} (hf : r.Fits C A) {d : Descriptor} (hd : d ∈ r.generated) :
    SchemaGen.Fits C A d := by
  obtain ⟨hfp, hfb, hfr⟩ := hf
  simp only [RouteDescriptor.generated, List.mem_append, List.mem_map] at hd
  rcases hd with (⟨p, hp, rfl⟩ | hd) | hd
  · exact hfp p hp
  · split at hd
    · exact hfb d (Option.mem_toList.mp hd)
    · exact absurd hd List.not_mem_nil
  · exact hfr d (Option.mem_toList.mp hd)

/-- Renaming categories keeps every route, each with its controller renamed. -/
theorem routeList_applyCategoryMapping (mapping : CategoryMapping) :
    routeList (applyCategoryMapping mapping cs) =
      (routeList cs).map fun x => ({ x.1 with category := mapping.apply x.1.category }, x.2) := by
  simp [routeList, applyCategoryMapping, List.flatMap_map, List.map_flatMap, Function.comp_def]

/-- A route's path does not read its controller's category. -/
theorem routeKeys_applyCategoryMapping (cfg : Config) (mapping : CategoryMapping) :
    (routeList (applyCategoryMapping mapping cs)).map (routeKey cfg) =
      (routeList cs).map (routeKey cfg) := by
  rw [routeList_applyCategoryMapping, List.map_map]
  rfl

theorem routeRoots_applyCategoryMapping (mapping : CategoryMapping) :
    routeRoots (applyCategoryMapping mapping cs) = routeRoots cs := by
  rw [routeRoots, routeList_applyCategoryMapping, List.flatMap_map]
  rfl

end Routes

/-! ### Paths -/

section Paths

variable {cfg : Config} {path p k : String} {item : PathItem} {paths acc : List (String × PathItem)}

theorem PathItem.operation?_set (q : PathItem) (m m' : HttpMethod) (op : Operation) :
    (q.set m op).operation? m' = if m' = m then some op else q.operation? m' := by
  unfold PathItem.set PathItem.operation?
  by_cases h : m' = m
  · subst h
    simp
  · rw [if_neg h, List.find?_cons_of_neg (by simpa using Ne.symm h), List.find?_filter]
    congr 2
    funext e
    -- an operation of the method asked for is not one of the method set
    by_cases he : e.1 = m'
    · simp [he, h]
    · simp [he]

/-- Setting the item of a path changes what is found at that path only. -/
theorem itemAt_setPathItem :
    itemAt p (setPathItem path item paths) = if p = path then item else itemAt p paths := by
  induction paths with
  | nil =>
    by_cases h : p = path
    · subst h
      simp [setPathItem, itemAt_self]
    · simp [setPathItem, itemAt_of_ne (Ne.symm h), h, itemAt_nil]
  | cons e rest ih =>
    obtain ⟨k, v⟩ := e
    rw [setPathItem]
    split
    · by_cases h : p = path
      · subst h
        simp [itemAt_self]
      · simp [itemAt_of_ne (Ne.symm h), h]
    · split
      next heq =>
        obtain rfl : path = k := beq_iff_eq.mp heq
        by_cases h : p = path
        · subst h
          simp [itemAt_self]
        · simp [itemAt_of_ne (Ne.symm h), h]
      next hne =>
        by_cases h : p = k
        · subst h
          have hpath : p ≠ path := fun h' => hne (beq_iff_eq.mpr h'.symm)
          simp [itemAt_self, hpath]
        · rw [itemAt_of_ne (Ne.symm h), itemAt_of_ne (Ne.symm h), ih]

theorem mem_keys_setPathItem :
    k ∈ (setPathItem path item paths).map (·.1) ↔ k = path ∨ k ∈ paths.map (·.1) := by
  induction paths with
  | nil => simp [setPathItem]
  | cons e rest ih =>
    obtain ⟨k', v⟩ := e
    rw [setPathItem]
    split
    · simp
    · split
      next heq =>
        obtain rfl : path = k' := beq_iff_eq.mp heq
        simp
      next => simp only [List.map_cons, List.mem_cons, ih]; exact or_left_comm

/-- Adding a route sets its operation at its path and method, and nothing else. -/
theorem operation?_putRoute (x : ControllerDescriptor × RouteDescriptor) (m : HttpMethod) :
    (itemAt p (putRoute cfg paths x)).operation? m =
      if routeKey cfg x = (p, m) then some (opOf cfg x) else (itemAt p paths).operation? m := by
  rw [putRoute, itemAt_setPathItem]
  by_cases hp : p = routePath cfg x.1 x.2
  · subst hp
    rw [if_pos rfl, PathItem.operation?_set]
    by_cases hm : m = x.2.method
    · simp [routeKey, hm]
    · simp [routeKey, hm, Ne.symm hm]
  · rw [if_neg hp, if_neg]
    intro h
    exact hp (Prod.mk.inj h).1.symm

/-- After a list of routes with distinct paths and methods, the operation at a path and method is
that of the route there, if any. -/
theorem operation?_foldl_putRoute {L : List (ControllerDescriptor × RouteDescriptor)}
    (hnd : (L.map (routeKey cfg)).Nodup) (acc : List (String × PathItem)) (m : HttpMethod) :
    (itemAt p (L.foldl (putRoute cfg) acc)).operation? m =
      ((L.find? fun x => decide (routeKey cfg x = (p, m))).map (opOf cfg)).or
        ((itemAt p acc).operation? m) := by
  induction L generalizing acc with
  | nil => simp
  | cons x L ih =>
    rw [List.map_cons, List.nodup_cons] at hnd
    rw [List.foldl_cons, ih hnd.2, operation?_putRoute, List.find?_cons]
    by_cases hx : routeKey cfg x = (p, m)
    · -- the route is the only one at its path and method
      have hnone : L.find? (fun y => decide (routeKey cfg y = (p, m))) = none := by
        rw [List.find?_eq_none]
        intro y hy hky
        exact hnd.1 (List.mem_map.mpr ⟨y, hy, by rw [hx]; simpa using hky⟩)
      simp [hx, hnone]
    · simp [hx]

theorem mem_keys_foldl_putRoute {L : List (ControllerDescriptor × RouteDescriptor)} :
    k ∈ (L.foldl (putRoute cfg) acc).map (·.1) ↔
      k ∈ acc.map (·.1) ∨ ∃ x ∈ L, routePath cfg x.1 x.2 = k := by
  induction L generalizing acc with
  | nil => simp
  | cons x L ih =>
    rw [List.foldl_cons, ih, putRoute, mem_keys_setPathItem]
    constructor
    · rintro ((rfl | h) | ⟨y, hy, rfl⟩)
      · exact .inr ⟨x, List.mem_cons_self, rfl⟩
      · exact .inl h
      · exact .inr ⟨y, List.mem_cons_of_mem _ hy, rfl⟩
    · rintro (h | ⟨y, hy, rfl⟩)
      · exact .inl (.inr h)
      · rcases List.mem_cons.mp hy with rfl | hy
        · exact .inl (.inl rfl)
        · exact .inr ⟨y, hy, rfl⟩

theorem pathsSorted_foldl_putRoute {L : List (ControllerDescriptor × RouteDescriptor)}
    (h : PathsSorted acc) : PathsSorted (L.foldl (putRoute cfg) acc) := by
  induction L generalizing acc with
  | nil => exact h
  | cons x L ih => exact ih (pathsSorted_setPathItem _ h)

/-- In sorted paths, the item found at a path is the one listed there. -/
theorem itemAt_of_mem {v : PathItem} (h : PathsSorted paths) (hv : (k, v) ∈ paths) :
    itemAt k paths = v := by
  induction paths with
  | nil => exact absurd hv List.not_mem_nil
  | cons e rest ih =>
    obtain ⟨k', v'⟩ := e
    rcases List.mem_cons.mp hv with he | hv
    · obtain ⟨rfl, rfl⟩ := Prod.mk.inj he
      exact itemAt_self
    · have hlt : k' < k := (List.pairwise_cons.mp h).1 (k, v) hv
      rw [itemAt_of_ne (String.ne_of_lt hlt)]
      exact ih h.of_cons hv

/-- A path item is written by its operations, method by method. -/
theorem PathItem.toJson_congr {q q' : PathItem} (h : ∀ m, q.operation? m = q'.operation? m) :
    q.toJson = q'.toJson := by
  simp only [PathItem.toJson, h]

/-- Sorted paths with the same paths and the same operations are written alike. -/
theorem pathsJson_eq {P₁ P₂ : List (String × PathItem)} (h₁ : PathsSorted P₁) (h₂ : PathsSorted P₂)
    (hkeys : ∀ k, k ∈ P₁.map (·.1) ↔ k ∈ P₂.map (·.1))
    (hops : ∀ k m, (itemAt k P₁).operation? m = (itemAt k P₂).operation? m) :
    P₁.map (fun e => (e.1, e.2.toJson)) = P₂.map (fun e => (e.1, e.2.toJson)) := by
  have hsorted {P : List (String × PathItem)} (h : PathsSorted P) :
      (P.map fun e => (e.1, e.2.toJson)).Pairwise (·.1 < ·.1) :=
    List.pairwise_map.mpr h
  -- a path is written as the item found there
  have hmem {P P' : List (String × PathItem)} (h : PathsSorted P) (h' : PathsSorted P')
      (hk : ∀ k, k ∈ P.map (·.1) → k ∈ P'.map (·.1))
      (ho : ∀ k m, (itemAt k P).operation? m = (itemAt k P').operation? m) {x : String × Json}
      (hx : x ∈ P.map fun e => (e.1, e.2.toJson)) : x ∈ P'.map fun e => (e.1, e.2.toJson) := by
    obtain ⟨⟨k, v⟩, hv, rfl⟩ := List.mem_map.mp hx
    obtain ⟨⟨k', v'⟩, hv', hk'⟩ := List.mem_map.mp (hk k (List.mem_map_of_mem hv))
    dsimp only at hk'
    subst hk'
    refine List.mem_map.mpr ⟨(k', v'), hv', ?_⟩
    rw [← itemAt_of_mem h hv, ← itemAt_of_mem h' hv', PathItem.toJson_congr (ho k')]
  exact eq_of_sorted_of_mem_iff (hsorted h₁) (hsorted h₂) fun x =>
    ⟨hmem h₁ h₂ (fun k => (hkeys k).mp) hops,
      hmem h₂ h₁ (fun k => (hkeys k).mpr) fun k m => (hops k m).symm⟩

/-- Two orders of routes with distinct paths and methods, added to no paths, give paths written
alike. -/
theorem pathsJson_foldl_perm {L L' : List (ControllerDescriptor × RouteDescriptor)} (hp : L' ~ L)
    (hnd : (L.map (routeKey cfg)).Nodup) :
    (L'.foldl (putRoute cfg) []).map (fun e => (e.1, e.2.toJson)) =
      (L.foldl (putRoute cfg) []).map (fun e => (e.1, e.2.toJson)) := by
  have hnd' : (L'.map (routeKey cfg)).Nodup := (hp.map _).nodup_iff.mpr hnd
  refine pathsJson_eq (pathsSorted_foldl_putRoute List.Pairwise.nil)
    (pathsSorted_foldl_putRoute List.Pairwise.nil) (fun k => ?_) (fun k m => ?_)
  · simp only [mem_keys_foldl_putRoute, List.map_nil, List.not_mem_nil, false_or]
    exact ⟨fun ⟨x, hx, h⟩ => ⟨x, hp.subset hx, h⟩, fun ⟨x, hx, h⟩ => ⟨x, hp.symm.subset hx, h⟩⟩
  · rw [operation?_foldl_putRoute hnd', operation?_foldl_putRoute hnd]
    -- one route at most is at the path and method, found in either order
    rw [List.find?_eq_find?_of_perm hp fun x hx y hy => ?_]
    exact List.inj_on_of_nodup_map hnd' hx.1 hy.1
      ((of_decide_eq_true hx.2).trans (of_decide_eq_true hy.2).symm)

end Paths

/-! ### Runs of the builder -/

namespace SchemaGen

variable {A : Arena} {C : String → Descriptor → Prop} {D : String → Prop} {α β : Type}

/-- From every proper state, a run of `x` returns `v` and extends the state by the named types
`R`. -/
def Gives (C : String → Descriptor → Prop) (D : String → Prop) (x : SchemaM α) (v : α)
    (R : List String) : Prop :=
  ∀ st, st.Proper C D → (x.run st).1 = v ∧ st.Extends C D R (x.run st).2

theorem gives_pure (a : α) : Gives C D (pure a) a [] := fun _ hp => ⟨rfl, Extends.refl hp⟩

theorem Gives.bind {x : SchemaM α} {f : α → SchemaM β} {a : α} {b : β} {R S : List String}
    (hx : Gives C D x a R) (hf : Gives C D (f a) b S) : Gives C D (x >>= f) b (R ++ S) := by
  intro st hp
  obtain ⟨ha, h₁⟩ := hx st hp
  obtain ⟨hb, h₂⟩ := hf _ h₁.proper
  rw [run_bind, ha]
  exact ⟨hb, h₁.trans h₂⟩

theorem Gives.of_eq {x : SchemaM α} {a a' : α} {R R' : List String} (h : Gives C D x a R)
    (ha : a = a') (hR : R = R') : Gives C D x a' R' := by
  subst ha hR
  exact h

theorem Gives.map {x : SchemaM α} {a : α} {R : List String} (h : Gives C D x a R) (g : α → β) :
    Gives C D (g <$> x) (g a) R :=
  ((map_eq_pure_bind g x).symm ▸ h.bind (gives_pure (g a))).of_eq rfl (List.append_nil R)

theorem gives_warn (n : Notice) : Gives C D (SchemaGen.warn n) () [] :=
  fun _ hp => ⟨rfl, (Extends.refl hp).note n⟩

theorem gives_generate (hC : Coherent C) (hA : Faithful C A) (hD : Domain C D) {d : Descriptor}
    (hf : Fits C A d) (hr : ∀ j ∈ d.fold.refs, D j) :
    Gives C D (generate A d) (schemaOf d) d.fold.refs :=
  fun _ hp => generate_spec hC hA hD hp hf hr

theorem gives_mapM {γ : Type} {g : γ → SchemaM α} {v : γ → α} {R : γ → List String} :
    (l : List γ) → (∀ c ∈ l, Gives C D (g c) (v c) (R c)) →
      Gives C D (l.mapM g) (l.map v) (l.flatMap R)
  | [], _ => gives_pure []
  | c :: l, h => by
    rw [List.mapM_cons]
    exact Gives.of_eq (Gives.bind (h c List.mem_cons_self) (Gives.bind (gives_mapM l fun c' hc' =>
      h c' (List.mem_cons_of_mem _ hc')) (gives_pure _))) rfl (by simp)

/-- The operation of a route, its schemas generated in turn, set at its path and method. -/
theorem gives_addRoute (hC : Coherent C) (hA : Faithful C A) (hD : Domain C D) (cfg : Config)
    (c : ControllerDescriptor) {r : RouteDescriptor} (hf : r.Fits C A) (hr : ∀ j ∈ r.roots, D j)
    (paths : List (String × PathItem)) :
    Gives C D (addRoute A cfg c r paths) (putRoute cfg paths (c, r)) r.roots := by
  obtain ⟨hfp, hfb, hfr⟩ := hf
  have hroot {d : Descriptor} (hd : d ∈ r.generated) : ∀ j ∈ d.fold.refs, D j :=
    fun j hj => hr j (List.mem_flatMap.mpr ⟨d, hd, hj⟩)
  unfold addRoute
  extract_lets path item
  -- the parameters' schemas, generated in order
  refine Gives.of_eq (Gives.bind (S := (if r.method.isMutating then r.requestBody.toList
    else []).flatMap (·.fold.refs) ++ (r.response.toList.flatMap (·.fold.refs) ++ []))
    (gives_mapM r.parameters fun p hp => Gives.of_eq (Gives.bind (gives_generate hC hA hD (hfp p hp)
      (hroot (List.mem_append_left _ (List.mem_append_left _ (List.mem_map_of_mem hp)))))
        (gives_pure _)) rfl (List.append_nil _)) ?_) rfl ?_
  · extract_lets withBody
    -- the builder joins the cases of the request body and of the response in one continuation
    have hbody : ∀ rb, rb = (opOf cfg (c, r)).requestBody → Gives C D (withBody rb)
        (putRoute cfg paths (c, r)) (r.response.toList.flatMap (·.fold.refs) ++ []) := by
      intro rb hrb
      simp -zeta only [withBody]
      extract_lets withResponse
      have hresp : ∀ rs, rs = (opOf cfg (c, r)).response → Gives C D (withResponse rs)
          (putRoute cfg paths (c, r)) [] := by
        intro rs hrs
        simp -zeta only [withResponse]
        extract_lets op withOp
        have hv : setPathItem path (item.set r.method op) paths = putRoute cfg paths (c, r) := by
          subst hrb hrs
          rfl
        rw [← hv]
        -- a second operation at the path and method only adds a warning
        split
        · exact Gives.bind (gives_warn _) (gives_pure _)
        · exact gives_pure _
      split
      next t ht =>
        exact Gives.of_eq (Gives.bind (Gives.map (gives_generate hC hA hD (hfr t ht)
          (hroot (by simp [RouteDescriptor.generated, ht]))) some)
            (hresp (some (schemaOf t)) (by simp [opOf, ht]))) rfl (by simp [ht])
      next ht =>
        exact Gives.of_eq (Gives.bind (gives_pure none) (hresp none (by simp [opOf, ht]))) rfl
          (by simp [ht])
    -- the request body, sent only with a method that sends one
    split
    next b hb =>
      split
      next hm =>
        exact Gives.of_eq (Gives.bind (Gives.map (gives_generate hC hA hD (hfb b hb)
          (hroot (by simp [RouteDescriptor.generated, hm, hb]))) some)
            (hbody (some (schemaOf b)) (by simp [opOf, hm, hb]))) rfl (by simp [hb])
      next hm =>
        exact Gives.of_eq (Gives.bind (gives_pure none) (hbody none (by simp [opOf, hm])))
          rfl (by simp)
    next hb =>
      exact Gives.of_eq (Gives.bind (gives_pure none) (hbody none (by simp [opOf, hb])))
        rfl (by simp [hb])
  · simp [RouteDescriptor.roots, RouteDescriptor.generated, List.flatMap_append, List.flatMap_map]

/-- The routes of a controller, added in order over one generator. -/
theorem gives_routes (hC : Coherent C) (hA : Faithful C A) (hD : Domain C D) (cfg : Config)
    (c : ControllerDescriptor) : (rs : List RouteDescriptor) → (acc : List (String × PathItem)) →
      (∀ r ∈ rs, r.Fits C A) → (∀ r ∈ rs, ∀ j ∈ r.roots, D j) →
      Gives C D (rs.foldlM (fun acc r => addRoute A cfg c r acc) acc)
        ((rs.map (c, ·)).foldl (putRoute cfg) acc) ((rs.map (c, ·)).flatMap (·.2.roots))
  | [], acc, _, _ => gives_pure acc
  | r :: rs, acc, hf, hr => by
    rw [List.foldlM_cons]
    exact Gives.of_eq (Gives.bind (gives_addRoute hC hA hD cfg c (hf r List.mem_cons_self)
      (hr r List.mem_cons_self) acc) (gives_routes hC hA hD cfg c rs _
        (fun r' h => hf r' (List.mem_cons_of_mem _ h)) (fun r' h => hr r' (List.mem_cons_of_mem _ h))))
      rfl (by simp)

/-- The routes of the controllers, added in order over one generator. -/
theorem gives_controllers (hC : Coherent C) (hA : Faithful C A) (hD : Domain C D) (cfg : Config) :
    (cs : List ControllerDescriptor) → (acc : List (String × PathItem)) →
      (∀ x ∈ routeList cs, x.2.Fits C A) → (∀ j ∈ routeRoots cs, D j) →
      Gives C D (cs.foldlM (fun acc c => c.routes.foldlM (fun acc r => addRoute A cfg c r acc) acc)
        acc) ((routeList cs).foldl (putRoute cfg) acc) (routeRoots cs)
  | [], acc, _, _ => gives_pure acc
  | c :: cs, acc, hf, hr => by
    have hsplit : routeList (c :: cs) = c.routes.map (c, ·) ++ routeList cs := List.flatMap_cons
    rw [routeRoots, hsplit, List.flatMap_append] at hr
    rw [hsplit] at hf
    rw [List.foldlM_cons, routeRoots, hsplit, List.foldl_append, List.flatMap_append]
    refine Gives.bind (gives_routes hC hA hD cfg c c.routes acc (fun r h => ?_) (fun r h j hj => ?_))
      (gives_controllers hC hA hD cfg cs _ (fun x h => hf x (List.mem_append_right _ h))
        (fun j hj => hr j (List.mem_append_right _ hj)))
    · exact hf (c, r) (List.mem_append_left _ (List.mem_map_of_mem h))
    · exact hr j (List.mem_append_left _ (List.mem_flatMap.mpr ⟨(c, r), List.mem_map_of_mem h, hj⟩))

/-- From a new generator, the builder sets each route's operation in turn, and its components are
those of the state it ends in, which extends the new one by the named types at the top of the
routes. -/
theorem buildDocument_run (hC : Coherent C) (hA : Faithful C A) (hD : Domain C D) (cfg : Config)
    {cs : List ControllerDescriptor} (hf : ∀ x ∈ routeList cs, x.2.Fits C A)
    (hr : ∀ j ∈ routeRoots cs, D j) :
    ((buildDocument A cfg cs).run initial).1.paths = (routeList cs).foldl (putRoute cfg) [] ∧
      ((buildDocument A cfg cs).run initial).1.schemas =
        ((buildDocument A cfg cs).run initial).2.schemas ∧
      initial.Extends C D (routeRoots cs) ((buildDocument A cfg cs).run initial).2 := by
  obtain ⟨hv, hx⟩ := gives_controllers hC hA hD cfg cs [] hf hr _ proper_initial
  exact ⟨hv, rfl, hx⟩

end SchemaGen

/-! ### Two orders of the controllers -/

section Perm

variable {C : String → Descriptor → Prop} {A : Arena}

/-- Two orders of the same controllers, over an arena faithful to coherent copies, publish the
same paths, as written, and the same components, when no two routes share a path and method and
no two named types reached share a component name. -/
theorem buildDocument_perm (hC : Coherent C) (hA : Faithful C A) (cfg : Config)
    {cs cs' : List ControllerDescriptor} (hp : cs' ~ cs) (hf : ∀ x ∈ routeList cs, x.2.Fits C A)
    (hnd : ((routeList cs).map (routeKey cfg)).Nodup)
    (hapart : ∀ k j, Reaches C (routeRoots cs) k → Reaches C (routeRoots cs) j →
      componentName k = componentName j → k = j) :
    ((buildDocument A cfg cs').run initial).1.pathsJson =
        ((buildDocument A cfg cs).run initial).1.pathsJson ∧
      ((buildDocument A cfg cs').run initial).1.schemas =
        ((buildDocument A cfg cs).run initial).1.schemas := by
  have hL : routeList cs' ~ routeList cs := hp.flatMap_right _
  have hR : routeRoots cs' ~ routeRoots cs := hL.flatMap_right _
  -- the named types reached from the routes, in either order, are the domain of both runs
  have hD := domain_reaches hapart
  have hr : ∀ j ∈ routeRoots cs, Reaches C (routeRoots cs) j := fun _ hj => .root hj
  have hr' : ∀ j ∈ routeRoots cs', Reaches C (routeRoots cs) j := fun _ hj => .root (hR.subset hj)
  obtain ⟨hp₁, hs₁, hx₁⟩ := buildDocument_run hC hA hD cfg hf hr
  obtain ⟨hp₂, hs₂, hx₂⟩ := buildDocument_run hC hA hD cfg (fun x hx => hf x (hL.subset hx)) hr'
  constructor
  · rw [Document.pathsJson, Document.pathsJson, hp₁, hp₂]
    exact pathsJson_foldl_perm hL hnd
  · rw [hs₁, hs₂]
    exact schemas_eq_of_reaches hC hD hr' hr hx₂ hx₁ fun _ =>
      ⟨(·.mono hR.subset), (·.mono hR.symm.subset)⟩

/-- Over an arena faithful to coherent copies, which the controllers fit, every named type
reached from an extraction's routes is an identity it names. -/
theorem Extraction.mem_identities_of_reaches (hC : Coherent C) {ex : Extraction}
    (hA : Faithful C ex.arena) (hf : ∀ c ∈ ex.controllers, c.Fits C ex.arena) {k : String}
    (hk : Reaches C (routeRoots ex.controllers) k) : k ∈ ex.identities := by
  -- the arena's entries name identities of the extraction
  have hS : ∀ k e, ex.arena.get? k = some e → e.identities ⊆ ex.identities := fun k e he j hj =>
    List.mem_append_right _ (List.mem_flatMap.mpr ⟨(k, e), Arena.mem_entries_of_get? he, hj⟩)
  refine hk.mem hC hA hS fun j hj => ?_
  -- a named type at the top of a route has a copy that the extraction names all of
  obtain ⟨x, hx, hj⟩ := List.mem_flatMap.mp hj
  obtain ⟨d, hd, hj⟩ := List.mem_flatMap.mp hj
  obtain ⟨e, hce, hfe, hsub⟩ :=
    (RouteDescriptor.fits_of_mem_generated (fits_of_mem_routeList hf hx) hd).copy_of_fold hA hj
  refine ⟨e, hce, hfe, ?_⟩
  rcases hsub with he | hsub
  · exact hS j e he
  · exact fun i hi => List.mem_append_left _ (List.mem_flatMap.mpr
      ⟨x, hx, List.mem_flatMap.mpr ⟨d, hd, hsub hi⟩⟩)

end Perm

/-! ### Two orders of a model -/

/-- What a generation publishes is read off its document. -/
theorem published_map_document (r : Option (Except StripFault Generation)) :
    r.map (fun g => g.toOption.map Generation.published) =
      (r.map (Except.map (·.document))).map fun g => g.toOption.map fun d => (d.pathsJson, d.schemas) := by
  rw [Option.map_map]
  congr 1
  funext g
  cases g <;> rfl

open Resolver in
/-- The document of a settled model publishes the same paths and components whatever the order of
its files, classes, enumerations and modules, when class and enumeration names are distinct, each
controller is listed by at most one module, and its extraction has no two routes at one path and
method and no two identities with one component name. When the extraction fails, it fails in
both orders. -/
theorem generateDocument_reordered {m m' : Manifest} (hs : m.Settled) (hre : m.Reordered m')
    (hnames : (m.classes.map (·.name) ++ m.enums.map (·.name)).Nodup) (cfg : Config)
    (howner : ∀ c ∈ m.classes, (controllerMark? cfg.classifier c).isSome →
      ((m.units.flatMap (·.modules)).filter (·.controllers.contains c.name)).length ≤ 1)
    (hdistinct : ∀ ex, extraction m cfg = some (.ok ex) → ex.Distinct cfg) :
    (generateDocument m' cfg).map (fun r => r.toOption.map Generation.published) =
      (generateDocument m cfg).map (fun r => r.toOption.map Generation.published) := by
  have hs' : (cfg.resolverEnv m).model.Settled := hs
  have hC := coherent_canonical hs'
  rw [published_map_document, published_map_document, generateDocument_document,
    generateDocument_document]
  -- both extractions end, from the initial state
  have hinit : ResolverState.initial.Unbound := fun _ h => absurd h List.not_mem_nil
  obtain ⟨r₂, s₂, hrun₂, -⟩ := @halts_controllersFrom (cfg.resolverEnv m) hs.noTypeParams
    cfg.classifier cfg.pathHeuristic m'.classEntries ResolverState.initial hinit
  obtain ⟨r₁, s₁, hrun₁, -⟩ := @halts_controllersFrom (cfg.resolverEnv m) hs.noTypeParams
    cfg.classifier cfg.pathHeuristic m.classEntries ResolverState.initial hinit
  have hrun₂' : (extractControllers (cfg.resolverEnv m') cfg.classifier cfg.pathHeuristic).run.run
      ResolverState.initial = some (r₂, s₂) := by
    rw [extractControllers_reordered hre hnames cfg howner]
    exact hrun₂
  have hrun₁' : (extractControllers (cfg.resolverEnv m) cfg.classifier cfg.pathHeuristic).run.run
      ResolverState.initial = some (r₁, s₁) := hrun₁
  -- side by side, they both fail or give controllers alike up to order
  obtain ⟨k₂, k₁, hr⟩ := matches_reordered hs hre hnames cfg howner _ _ _ _ _ _
    (ResolverState.ready_initial _) (ResolverState.ready_initial _) hrun₂' hrun₁'
  rw [hrun₂', hrun₁']
  simp only [Option.map_some]
  cases r₂ with
  | error e₂ =>
    cases r₁ with
    | error e₁ => simp only [Except.map, Except.toOption, Option.map_none]
    | ok _ => cases hr
  | ok cs₂ =>
    cases r₁ with
    | error _ => cases hr
    | ok cs₁ =>
      have hr : PermAlike (Canonical (cfg.resolverEnv m)) cs₂ cs₁ := hr
      obtain ⟨hA₁, hf₁⟩ := faithful_of_run hs' cfg.classifier cfg.pathHeuristic hrun₁ k₁ hr.right
      obtain ⟨hA₂, hf₂⟩ := faithful_of_run hs' cfg.classifier cfg.pathHeuristic hrun₂ k₂ hr.left
      obtain ⟨hnd, hnames'⟩ := hdistinct ⟨cs₁, s₁.arena, s₁.notices⟩
        (by rw [extraction, hrun₁']; rfl)
      -- the reordered controllers, folded, are the model's folded in some other order
      obtain ⟨cs₁', hmap, hperm⟩ := (congrFun (congrFun (List.eq_map_comp_perm
        ControllerDescriptor.fold) (cs₂.map ControllerDescriptor.fold)) cs₁).mpr hr.perm
      have hperm' : applyCategoryMapping cfg.categoryMapping cs₁' ~
          applyCategoryMapping cfg.categoryMapping cs₁ := hperm.map _
      simp only [Except.map, Except.toOption, Option.map_some]
      rw [buildDocument_transfer hC hA₁ hA₂ cfg
        (applyCategoryMapping_fold_eq cfg.categoryMapping hmap.symm)
        (fits_applyCategoryMapping _ fun c hc => hf₁ c (hperm.subset hc))
        (fits_applyCategoryMapping _ hf₂)]
      obtain ⟨hpaths, hschemas⟩ := buildDocument_perm hC hA₁ cfg hperm'
        (fun _ hx => fits_of_mem_routeList (fits_applyCategoryMapping _ hf₁) hx)
        (by rw [routeKeys_applyCategoryMapping]; exact hnd)
        (by
          rw [routeRoots_applyCategoryMapping]
          intro k j hk hj
          exact hnames' k (Extraction.mem_identities_of_reaches hC hA₁ hf₁ hk) j
            (Extraction.mem_identities_of_reaches hC hA₁ hf₁ hj))
      rw [hpaths, hschemas]

/-! ### Two orders of two models -/

/-- The model with the classes of each file listed in reverse. -/
def Manifest.reverseClasses (m : Manifest) : Manifest :=
  ⟨m.units.map fun u => { u with classes := u.classes.reverse }⟩

theorem Manifest.reordered_reverseClasses (m : Manifest) : m.Reordered m.reverseClasses := by
  refine ⟨m.reverseClasses.units, ?_, List.Perm.refl _⟩
  rw [Manifest.reverseClasses, List.forall₂_map_right_iff]
  exact List.forall₂_same.mpr fun u _ =>
    ⟨rfl, List.reverse_perm _, List.Perm.refl _, List.Perm.refl _⟩

/-- Users with tags, with a controller for each. -/
def usersAndTags : Manifest :=
  ⟨[{ path := "src/user.rs", modules := [], enums := [],
      classes := [
        { name := "Tag", docs := none, annotations := [], typeParams := [], methods := [],
          properties := [⟨"label", .simple "String", false, false, none, []⟩] },
        { name := "User", docs := none, annotations := [], typeParams := [], methods := [],
          properties := [⟨"tags", .named "Vec" [.simple "Tag"], false, false, none, []⟩] },
        { name := "UserController", docs := none, typeParams := [], properties := [],
          annotations := [⟨"Controller", [.literal "users"]⟩], methods := [getUser] },
        { name := "TagController", docs := none, typeParams := [], properties := [],
          annotations := [⟨"Controller", [.literal "tags"]⟩],
          methods := [⟨"get_tag", none, [⟨"Get", []⟩], [], some (.simple "Tag")⟩] }] }]⟩

/-- Users and tags meet every condition, so listing their classes in reverse, the tag controller
first, publishes the same document. -/
theorem usersAndTags_reversed_published :
    usersAndTags.Settled ∧ usersAndTags.Reordered usersAndTags.reverseClasses ∧
      (usersAndTags.classes.map (·.name) ++ usersAndTags.enums.map (·.name)).Nodup ∧
      (∀ c ∈ usersAndTags.classes, (controllerMark? Config.standard.classifier c).isSome →
        ((usersAndTags.units.flatMap (·.modules)).filter
          (·.controllers.contains c.name)).length ≤ 1) ∧
      (∀ ex, extraction usersAndTags Config.standard = some (.ok ex) →
        ex.Distinct Config.standard) ∧
      (generateDocument usersAndTags.reverseClasses Config.standard).map
          (fun r => r.toOption.map Generation.published) =
        (generateDocument usersAndTags Config.standard).map
          (fun r => r.toOption.map Generation.published) := by
  have hs : usersAndTags.Settled := by decide +kernel
  have hnames : (usersAndTags.classes.map (·.name) ++ usersAndTags.enums.map (·.name)).Nodup := by
    decide +kernel
  have howner : ∀ c ∈ usersAndTags.classes, (controllerMark? Config.standard.classifier c).isSome →
      ((usersAndTags.units.flatMap (·.modules)).filter
        (·.controllers.contains c.name)).length ≤ 1 := by
    decide +kernel
  have hdistinct : ∀ ex, extraction usersAndTags Config.standard = some (.ok ex) →
      ex.Distinct Config.standard := by
    intro ex hex
    have h : (extraction usersAndTags Config.standard).map
        (fun r => r.toOption.map fun ex => decide (ex.Distinct Config.standard)) =
          some (some true) := by
      decide +kernel
    rw [hex] at h
    simpa [Except.toOption] using h
  exact ⟨hs, Manifest.reordered_reverseClasses _, hnames, howner, hdistinct,
    generateDocument_reordered hs (Manifest.reordered_reverseClasses _) hnames Config.standard
      howner hdistinct⟩

/-- The node model is not settled: its enumeration `Node` has members with payloads. With the node
controller first, `Node` is a component; with the tree controller first, only `Tree` is. -/
theorem nodeTree_components_depend_on_order :
    ¬ (nodeTreeWith [getNode]).Settled ∧
      (generateDocument (nodeTreeWith [getNode]) Config.standard).map
        (fun r => r.toOption.map (·.document.schemas.map (·.1))) = some (some ["Node", "Tree"]) ∧
      (generateDocument (nodeTreeWith [getNode]).reverseClasses Config.standard).map
        (fun r => r.toOption.map (·.document.schemas.map (·.1))) = some (some ["Tree"]) := by
  decide +kernel

end ApiSpec
