import ApiSpec.Proofs.Schema.References
import ApiSpec.Proofs.Extract.References

/-!
# Closed documents

A document is closed when nothing in it points outside it: every `$ref` of an operation or of a
component names one of its components, every operation's tag is one of its tags, and an
operation that asks for the bearer scheme stands in a document that declares it. The `$ref` of
the written document is the `ref` of a schema (`Schema.toJson`), and an operation asks for the
bearer scheme exactly when it is `secured` (`Operation.toJson`).

The paths are built route by route over one generator, from a generator with nothing built;
every operation added refers to live components, and at the end nothing is being built, so
live means built.

* `triple_addRoute`, `triple_buildDocument`: what adding a route keeps, and so what building
  the document establishes.
* `buildDocument_closed`: the document of any controllers over any arena is closed.
* `generated_document_closed`: so is every document made from a model.
-/

namespace ApiSpec

open Schema

/-! ### Categories -/

theorem mem_insertSorted {t c : String} {l : List String} :
    t ∈ insertSorted c l ↔ t = c ∨ t ∈ l := by
  induction l with
  | nil => simp [insertSorted]
  | cons a l ih =>
    unfold insertSorted
    split
    next h =>
      rw [beq_iff_eq] at h
      subst h
      simp
    next =>
      split
      · simp
      · simp only [List.mem_cons, ih]
        exact or_left_comm

theorem mem_foldl_insertSorted {t : String} (l acc : List String) :
    t ∈ l.foldl (fun acc c => insertSorted c acc) acc ↔ t ∈ acc ∨ t ∈ l := by
  induction l generalizing acc with
  | nil => simp
  | cons c l ih =>
    rw [List.foldl_cons, ih, mem_insertSorted, List.mem_cons, or_comm (a := t = c), or_assoc]

/-- The sorted categories are the categories that are not empty. -/
theorem mem_sortedCategories {t : String} {l : List String} :
    t ∈ sortedCategories l ↔ t ∈ l ∧ t ≠ "" := by
  simp [sortedCategories, mem_foldl_insertSorted]

theorem names_documentTags (cs : List ControllerDescriptor) :
    (documentTags cs).map (·.name) = sortedCategories (cs.map (·.category)) := by
  simp [documentTags, Function.comp_def]

/-! ### Closed documents -/

/-- The references of an operation: in its parameters, its request body and its response. -/
def Operation.refs (op : Operation) : List String :=
  op.parameters.flatMap (·.schema.refs) ++ (op.requestBody.map Schema.refs).getD [] ++
    (op.response.map Schema.refs).getD []

/-- A reference to a component of the document. -/
def Document.IsComponentRef (d : Document) (r : String) : Prop :=
  ∃ n ∈ d.schemas.map (·.1), r = refPrefix ++ n

/-- Nothing in the document points outside it. -/
structure Document.Closed (d : Document) : Prop where
  refs_operations : ∀ p ∈ d.paths, ∀ o ∈ p.2.operations, ∀ r ∈ o.2.refs, d.IsComponentRef r
  refs_components : ∀ e ∈ d.schemas, ∀ r ∈ e.2.refs, d.IsComponentRef r
  tags : ∀ p ∈ d.paths, ∀ o ∈ p.2.operations, ∀ t ∈ o.2.tags, t ∈ d.tags.map (·.name)
  security : ∀ p ∈ d.paths, ∀ o ∈ p.2.operations, o.2.secured = true → d.security = true

open SchemaState SchemaGen

/-! ### Paths, route by route -/

section Paths

variable (cfg : Config) (cats : List String)

/-- An operation refers to live components, takes its tags from `cats`, and asks for the
bearer scheme only when security is on. -/
structure OperationOk (st : SchemaState) (op : Operation) : Prop where
  refs : st.CoversAll op.refs
  tags : ∀ t ∈ op.tags, t ∈ cats
  secured : op.secured = true → cfg.includeSecurity = true

/-- Every operation of the paths is fine. -/
def PathsOk (st : SchemaState) (paths : List (String × PathItem)) : Prop :=
  ∀ p ∈ paths, ∀ o ∈ p.2.operations, OperationOk cfg cats st o.2

theorem stable_pathsOk (paths : List (String × PathItem)) : Stable (PathsOk cfg cats · paths) :=
  fun _ _ h hl p hp o ho => ⟨(h p hp o ho).refs.mono hl, (h p hp o ho).tags, (h p hp o ho).secured⟩

variable {cfg cats}

theorem mem_setPathItem {path : String} {item : PathItem} {l : List (String × PathItem)}
    {e : String × PathItem} (h : e ∈ setPathItem path item l) : e = (path, item) ∨ e ∈ l := by
  induction l with
  | nil => simpa [setPathItem] using h
  | cons e' l ih =>
    obtain ⟨k, v⟩ := e'
    unfold setPathItem at h
    split at h
    · simpa using h
    · split at h
      · simp only [List.mem_cons] at h ⊢
        rcases h with h | h
        · exact .inl h
        · exact .inr (.inr h)
      · simp only [List.mem_cons] at h ⊢
        rcases h with h | h
        · exact .inr (.inl h)
        · rcases ih h with h | h
          · exact .inl h
          · exact .inr (.inr h)

/-- The item found at a path holds operations of the paths only. -/
theorem mem_operations_found {path : String} {paths : List (String × PathItem)}
    {o : HttpMethod × Operation}
    (h : o ∈ (((paths.find? (·.1 == path)).map (·.2)).getD PathItem.empty).operations) :
    ∃ p ∈ paths, o ∈ p.2.operations := by
  cases hf : paths.find? (·.1 == path) with
  | none =>
    rw [hf] at h
    cases h
  | some p =>
    rw [hf] at h
    exact ⟨p, List.mem_of_find?_eq_some hf, h⟩

/-- Setting an operation at a path keeps what holds of every operation of the paths: the
operations left there and elsewhere are among those before. -/
theorem forall_operations_set {Q : Operation → Prop} {paths : List (String × PathItem)}
    {op : Operation} (hp : ∀ p ∈ paths, ∀ o ∈ p.2.operations, Q o.2) (hop : Q op) (path : String)
    (m : HttpMethod) :
    ∀ p ∈ setPathItem path ((((paths.find? (·.1 == path)).map (·.2)).getD PathItem.empty).set m op)
      paths, ∀ o ∈ p.2.operations, Q o.2 := by
  intro p hp' o ho
  rcases mem_setPathItem hp' with rfl | hp'
  · rcases List.mem_cons.mp ho with rfl | ho
    · exact hop
    · obtain ⟨q, hq, ho⟩ := mem_operations_found (List.mem_filter.mp ho).1
      exact hp q hq o ho
  · exact hp p hp' o ho

/-- Setting an operation at a path keeps the other operations there and elsewhere. -/
theorem PathsOk.set {st : SchemaState} {paths : List (String × PathItem)} {op : Operation}
    (hp : PathsOk cfg cats st paths) (hop : OperationOk cfg cats st op) (path : String)
    (m : HttpMethod) :
    PathsOk cfg cats st
      (setPathItem path ((((paths.find? (·.1 == path)).map (·.2)).getD PathItem.empty).set m op)
        paths) :=
  forall_operations_set hp hop path m

/-- The operation a route of `c` gets, from schemas that refer to live components. -/
theorem operationOk_route {st : SchemaState} {c : ControllerDescriptor} {r : RouteDescriptor}
    (hc : c.category ≠ "" → c.category ∈ cats) {ps : List Parameter} {rb resp : Option Schema}
    (hps : st.CoversAll (ps.flatMap (·.schema.refs))) (hrb : st.CoversAll ((rb.map refs).getD []))
    (hresp : st.CoversAll ((resp.map refs).getD [])) (summary operationId : String)
    (guards : List String) :
    OperationOk cfg cats st
      { tags := if c.category.isEmpty then [] else [c.category], summary, operationId,
        parameters := ps, requestBody := rb, response := resp,
        secured := cfg.includeSecurity && !r.isPublic, guards } := by
  refine ⟨(hps.append hrb).append hresp, fun t ht => ?_, fun h => ?_⟩
  · split at ht
    · cases ht
    next hne =>
      rw [List.mem_singleton] at ht
      subst ht
      exact hc fun h => hne (String.isEmpty_iff.mpr h)
  · exact (Bool.and_eq_true _ _ ▸ h).1

end Paths

variable (arena : Arena) (cfg : Config) {cats : List String}

/-- A schema is built, or there is none. -/
theorem triple_optSchema {x : SchemaM (Option Schema)}
    (hx : (∃ d, x = some <$> generate arena d) ∨ x = pure none) :
    Triple (fun _ => True) x fun o st => st.CoversAll ((o.map refs).getD []) := by
  rcases hx with ⟨d, rfl⟩ | rfl
  · rw [map_eq_pure_bind]
    exact (sound_generate arena d).bind fun s => Triple.pure fun _ h => h
  · exact Triple.pure fun st _ => coversAll_nil st

/-- The schema of a parameter is built over the generator. -/
theorem triple_parameter (p : ParameterDescriptor) :
    Triple (fun _ => True)
      (do
        return ({ name := p.name, location := p.location, required := p.required,
                  schema := ← generate arena p.type } : Parameter))
      fun q st => st.CoversAll q.schema.refs :=
  (sound_generate arena p.type).bind fun _ => Triple.pure fun _ h => h

/-- A route adds one operation, whose schemas are built over the same generator. -/
theorem triple_addRoute {c : ControllerDescriptor} (hc : c.category ≠ "" → c.category ∈ cats)
    (r : RouteDescriptor) (paths : List (String × PathItem)) :
    Triple (PathsOk cfg cats · paths) (addRoute arena cfg c r paths)
      fun paths' st => PathsOk cfg cats st paths' := by
  unfold addRoute
  dsimp only
  have hparams := Triple.mapM (l := r.parameters) (fun p _ => triple_parameter arena p)
    fun q => stable_coversAll _
  refine ((hparams.conseq (fun _ h => h) fun _ _ h => coversAll_flatMap h).frame_true
    (stable_pathsOk cfg cats paths)).bind fun ps => ?_
  have hR₁ := (stable_coversAll (ps.flatMap (·.schema.refs))).and (stable_pathsOk cfg cats paths)
  -- the request body and the response: each built, or none; the rest of the block is the same
  -- in every branch
  split
  case' h_1 b _ =>
    split
    case' isTrue =>
      refine ((triple_optSchema arena (.inl ⟨b, rfl⟩)).frame_true hR₁).bind fun rb => ?_
    case' isFalse => refine ((triple_optSchema arena (.inr rfl)).frame_true hR₁).bind fun rb => ?_
  case' h_2 => refine ((triple_optSchema arena (.inr rfl)).frame_true hR₁).bind fun rb => ?_
  all_goals
    have hR₂ := (stable_coversAll ((rb.map refs).getD [])).and hR₁
    split
    case' h_1 t _ =>
      refine ((triple_optSchema arena (.inl ⟨t, rfl⟩)).frame_true hR₂).bind fun resp => ?_
    case' h_2 => refine ((triple_optSchema arena (.inr rfl)).frame_true hR₂).bind fun resp => ?_
    all_goals
      -- a second operation on the path and method only adds a warning
      have hR₃ := (stable_coversAll ((resp.map refs).getD [])).and hR₂
      split
      · refine (Triple.of_frame (fun _ => ⟨rfl, rfl⟩) hR₃).bind fun _ => Triple.pure fun _ h => ?_
        exact h.2.2.2.set (operationOk_route hc h.2.2.1 h.2.1 h.1 _ _ _) _ _
      · exact Triple.pure fun _ h => h.2.2.2.set (operationOk_route hc h.2.2.1 h.2.1 h.1 _ _ _) _ _

/-- Building the document adds the routes of the controllers one after another, so every
operation of it is fine. -/
theorem triple_buildDocument (cs : List ControllerDescriptor) :
    Triple (fun _ => True) (buildDocument arena cfg cs) fun d st =>
      d.schemas = st.schemas ∧ PathsOk cfg (sortedCategories (cs.map (·.category))) st d.paths ∧
        d.tags = documentTags cs ∧ d.security = cfg.includeSecurity := by
  unfold buildDocument
  have hcat (c : ControllerDescriptor) (hc : c ∈ cs) (hne : c.category ≠ "") :
      c.category ∈ sortedCategories (cs.map (·.category)) :=
    mem_sortedCategories.mpr ⟨List.mem_map_of_mem hc, hne⟩
  have hfold := Triple.foldlM (I := fun paths st => PathsOk cfg _ st paths) (l := cs)
    (fun c hc acc => Triple.foldlM (l := c.routes)
      (fun r _ acc => triple_addRoute arena cfg (hcat c hc) r acc) acc) []
  refine (hfold.conseq (fun _ _ => nofun) fun _ _ h => h).bind fun paths => ?_
  refine Triple.get.bind fun st₀ => Triple.pure fun st h => ?_
  obtain ⟨rfl, hp⟩ := h
  exact ⟨rfl, hp, rfl, rfl⟩

theorem closed_initial : SchemaState.initial.Closed := nofun

/-- The document of any controllers over any arena is closed. -/
theorem buildDocument_closed (cs : List ControllerDescriptor) :
    ((buildDocument arena cfg cs).run SchemaState.initial).1.Closed := by
  obtain ⟨hc, hstep, hs, hp, ht, hsec⟩ :=
    triple_buildDocument arena cfg cs SchemaState.initial closed_initial trivial
  generalize (buildDocument arena cfg cs).run SchemaState.initial = q at hc hstep hs hp ht hsec ⊢
  obtain ⟨d, st⟩ := q
  dsimp only at hc hstep hs hp ht hsec ⊢
  -- nothing is being built at the end, so every live component is built
  have hbuilt : ∀ r, st.Covers r → d.IsComponentRef r := by
    intro r hr
    obtain ⟨n, rfl, hn⟩ := hr
    rcases hn with hn | hn
    · exact ⟨n, by rw [hs]; exact hn, rfl⟩
    · rw [hstep.inProgress_eq] at hn
      cases hn
  refine ⟨fun p hp' o ho r hr => hbuilt r ((hp p hp' o ho).refs r hr),
    fun e he r hr => hbuilt r (hc e (hs ▸ he) r hr), fun p hp' o ho t htag => ?_,
    fun p hp' o ho hsecured => ?_⟩
  · rw [ht, names_documentTags]
    exact (hp p hp' o ho).tags t htag
  · rw [hsec]
    exact (hp p hp' o ho).secured hsecured

/-- Every document made from a model is closed: its references name its components, its
operations' tags are its tags, and the bearer scheme an operation asks for is declared. -/
theorem generated_document_closed {m : Manifest} {cfg : Config} {g : Generation}
    (h : generateDocument m cfg = some (.ok g)) : g.document.Closed := by
  unfold generateDocument at h
  obtain ⟨r, -, hg⟩ := Option.map_eq_some_iff.mp h
  cases r with
  | error e => cases hg
  | ok ex =>
    cases hg
    exact buildDocument_closed ex.arena cfg _

theorem treeModel_document_closed :
    ∃ g, generateDocument treeModel Config.standard = some (.ok g) ∧ g.document.Closed := by
  obtain ⟨ex, h⟩ := extraction_eq_ok (m := treeModel) Config.standard (by decide +kernel)
    (extraction_isSome_of_no_type_params (by decide) _)
  have hg : generateDocument treeModel Config.standard =
      some (.ok (ex.generation Config.standard)) := by
    rw [generateDocument, h]
    rfl
  exact ⟨_, hg, generated_document_closed hg⟩

end ApiSpec
