import ApiSpec.Proofs.Schema.Examples
import ApiSpec.Proofs.Document.Closure

/-!
# The examples of a generated document

The document writes an `example` for every schema object that has one (`Schema.toJson`), in its
components and in the parameters, request bodies and responses of its operations
(`Document.schemaObjects`). Each comes from a property of primitive type: the example guessed
from the property's name and type sits on the type's schema with the property's constraints
written over it. So it is valid against the type's schema, and valid against the schema it sits
on exactly when the constraints admit it on their own. Constraints that override the type, give
an `enum`, exclude values or bound the length can reject it.

* `triple_addRoute_samples`, `triple_buildDocument_samples`: building a document over an arena
  whose fields carry guessed examples keeps every schema object of its operations and components
  with an example of its type, or none.
* `generated_examples_fit_types`: every example of a document made from a model.
* `roleName_example_outside_enum`: `role_name: String` with the allowed values `admin` and
  `user` gets the example `"John Doe"`, which its schema does not admit.
-/

namespace ApiSpec

open Schema SchemaState SchemaGen Descriptor

/-- The schemas of an operation: its parameters', its request body's and its response's. -/
def Operation.schemaObjects (op : Operation) : List Schema :=
  op.parameters.map (·.schema) ++ op.requestBody.toList ++ op.response.toList

/-- The schemas of a document: its components, and those of its operations. -/
def Document.schemaObjects (d : Document) : List Schema :=
  d.schemas.map (·.2) ++ d.paths.flatMap fun p => p.2.operations.flatMap fun o => o.2.schemaObjects

theorem schemaObjects_fit {op : Operation}
    (hps : ∀ q ∈ op.parameters, q.schema.EveryNode SampleOfType)
    (hrb : ∀ s ∈ op.requestBody, s.EveryNode SampleOfType)
    (hresp : ∀ s ∈ op.response, s.EveryNode SampleOfType) :
    ∀ s ∈ op.schemaObjects, s.EveryNode SampleOfType := by
  intro s hs
  simp only [Operation.schemaObjects, List.mem_append, List.mem_map, Option.mem_toList] at hs
  rcases hs with (⟨q, hq, rfl⟩ | hs) | hs
  · exact hps q hq
  · exact hrb s hs
  · exact hresp s hs

/-- Every schema object of the operations of the paths carries an example of its type, or
none. -/
def PathsFit (paths : List (String × PathItem)) : Prop :=
  ∀ p ∈ paths, ∀ o ∈ p.2.operations, ∀ s ∈ o.2.schemaObjects, s.EveryNode SampleOfType

namespace SchemaGen.Triple

variable {β γ : Type} {I : SchemaState → Prop}

/-- A fact that the state does not enter may be taken out of a precondition. -/
theorem of_prop {α : Type} {A : Prop} {x : SchemaM α} {Q : α → SchemaState → Prop}
    (h : A → Triple I x Q) : Triple (fun st => A ∧ I st) x Q :=
  fun st hc hp => h hp.1 st hc hp.2

/-- An invariant of the state kept by every run of `f` is kept by `mapM f`, whose results all
satisfy what each run's does. -/
theorem mapM_keep {Q : β → Prop} {f : γ → SchemaM β} {l : List γ}
    (hf : ∀ a ∈ l, Triple I (f a) fun b st => Q b ∧ I st) :
    Triple I (l.mapM f) fun bs st => (∀ b ∈ bs, Q b) ∧ I st := by
  induction l with
  | nil =>
    rw [List.mapM_nil]
    exact Triple.pure fun _ h => ⟨fun _ hb => absurd hb List.not_mem_nil, h⟩
  | cons a l ih =>
    rw [List.mapM_cons]
    refine (hf a (.head l)).bind fun b => of_prop fun hb => ?_
    refine ((ih fun a ha => hf a (.tail _ ha)).bind fun bs =>
      Triple.pure fun st h => ⟨?_, h.2⟩)
    intro b' hb'
    rcases List.mem_cons.mp hb' with rfl | hb'
    · exact hb
    · exact h.1 b' hb'

end SchemaGen.Triple

section Build

variable {arena : Arena} (ha : ∀ e ∈ arena.entries, e.2.EveryField Field.SampleGuessed)
  (cfg : Config)
include ha

/-- A schema built for a descriptor whose examples are guessed, or none. -/
theorem triple_optSchema_samples {x : SchemaM (Option Schema)}
    (hx : (∃ d, d.EveryField Field.SampleGuessed ∧ x = some <$> generate arena d) ∨
      x = pure none) :
    Triple SamplesFit x fun o st => (∀ s ∈ o, s.EveryNode SampleOfType) ∧ st.SamplesFit := by
  rcases hx with ⟨d, hd, rfl⟩ | rfl
  · rw [map_eq_pure_bind]
    refine (triple_generate_samples ha d hd).bind fun s => Triple.pure fun _ h => ⟨?_, h.2⟩
    intro s' hs'
    cases hs'
    exact h.1
  · exact Triple.pure fun _ h => ⟨nofun, h⟩

omit ha in
theorem triple_warnDuplicate_samples (m : HttpMethod) (path : String) :
    Triple SamplesFit (warnDuplicate m path) fun _ => SamplesFit := by
  intro st hc h
  obtain ⟨hc', hstep, -⟩ := Triple.of_frame (x := warnDuplicate m path) (R := fun _ => True)
    (fun _ => ⟨rfl, rfl⟩) (fun _ _ _ _ => trivial) st hc trivial
  exact ⟨hc', hstep, h.of_schemas rfl⟩

/-- A route whose descriptors carry guessed examples adds an operation whose schemas carry
examples of their types, over components that do too. -/
theorem triple_addRoute_samples (c : ControllerDescriptor) {r : RouteDescriptor}
    (hr : r.EveryField Field.SampleGuessed) {paths : List (String × PathItem)}
    (hp : PathsFit paths) :
    Triple SamplesFit (addRoute arena cfg c r paths) fun paths' st => PathsFit paths' ∧
      st.SamplesFit := by
  obtain ⟨hparams, hbody, hresp⟩ := hr
  unfold addRoute
  dsimp only
  refine (Triple.mapM_keep (Q := fun q : Parameter => q.schema.EveryNode SampleOfType)
    fun p hp' => (triple_generate_samples ha p.type (hparams p hp')).bind
      fun _ => Triple.pure fun _ h => h).bind fun ps => Triple.of_prop fun hps => ?_
  -- the request body, then the response: each built, or none; the rest of the block is the same
  -- in every branch
  split
  case' h_1 b hb =>
    split
    case' isTrue =>
      refine (triple_optSchema_samples ha (.inl ⟨b, hbody b hb, rfl⟩)).bind fun rb =>
        Triple.of_prop fun hrb => ?_
    case' isFalse =>
      refine (triple_optSchema_samples ha (.inr rfl)).bind fun rb => Triple.of_prop fun hrb => ?_
  case' h_2 =>
    refine (triple_optSchema_samples ha (.inr rfl)).bind fun rb => Triple.of_prop fun hrb => ?_
  all_goals
    split
    case' h_1 t ht =>
      refine (triple_optSchema_samples ha (.inl ⟨t, hresp t ht, rfl⟩)).bind fun resp =>
        Triple.of_prop fun hresp' => ?_
    case' h_2 =>
      refine (triple_optSchema_samples ha (.inr rfl)).bind fun resp =>
        Triple.of_prop fun hresp' => ?_
    all_goals
      -- a second operation on the path and method only adds a warning; either way the operation
      -- is set at its path
      split
      case' isTrue =>
        refine (triple_warnDuplicate_samples _ _).bind fun _ => Triple.pure fun _ h => ⟨?_, h⟩
      case' isFalse => refine Triple.pure fun _ h => ⟨?_, h⟩
      all_goals
        exact forall_operations_set (Q := fun op => ∀ s ∈ op.schemaObjects, s.EveryNode _) hp
          (schemaObjects_fit hps hrb hresp') _ _

/-- Building the document adds the routes of the controllers one after another. -/
theorem triple_buildDocument_samples (cs : List ControllerDescriptor)
    (hcs : ∀ c ∈ cs, ∀ r ∈ c.routes, r.EveryField Field.SampleGuessed) :
    Triple SamplesFit (buildDocument arena cfg cs) fun d st =>
      d.schemas = st.schemas ∧ PathsFit d.paths ∧ st.SamplesFit := by
  unfold buildDocument
  have hfold := Triple.foldlM (I := fun paths st => PathsFit paths ∧ st.SamplesFit) (l := cs)
    (fun c hc acc => Triple.foldlM (l := c.routes)
      (fun r hr acc => Triple.of_prop fun hp => triple_addRoute_samples ha cfg c (hcs c hc r hr) hp)
      acc) []
  refine (hfold.conseq (fun _ h => ⟨fun _ hp => absurd hp List.not_mem_nil, h⟩)
    fun _ _ h => h).bind fun paths => ?_
  refine Triple.get.bind fun st₀ => Triple.pure fun st h => ?_
  obtain ⟨rfl, hp, hst⟩ := h
  exact ⟨rfl, hp, hst⟩

/-- Every schema object of a document built over such an arena carries an example of its type,
or none. -/
theorem buildDocument_samples (cs : List ControllerDescriptor)
    (hcs : ∀ c ∈ cs, ∀ r ∈ c.routes, r.EveryField Field.SampleGuessed) :
    ∀ s ∈ ((buildDocument arena cfg cs).run SchemaState.initial).1.schemaObjects,
      s.EveryNode SampleOfType := by
  obtain ⟨-, -, hs, hp, hst⟩ :=
    triple_buildDocument_samples ha cfg cs hcs SchemaState.initial closed_initial
      (fun _ h => absurd h List.not_mem_nil)
  intro s hs'
  simp only [Document.schemaObjects, List.mem_append, List.mem_map, List.mem_flatMap] at hs'
  rcases hs' with ⟨e, he, rfl⟩ | ⟨p, hp', o, ho, hs'⟩
  · exact hst e (hs ▸ he)
  · exact hp p hp' o ho s hs'

end Build

/-- Every example of a document made from a model sits on the schema of a property of primitive
type, the type's schema with the property's constraints written over it. It is valid against
the type's schema, and valid against the schema it sits on exactly when the constraints admit it
on their own. -/
theorem generated_examples_fit_types {m : Manifest} {cfg : Config} {g : Generation}
    (h : generateDocument m cfg = some (.ok g)) :
    ∀ s ∈ g.document.schemaObjects, ∀ n ∈ s.nodes, ∀ j, n.sample = some j →
      ∃ (k : PrimitiveKind) (fmt : Option String) (c : Constraints),
        n = { ({ Schema.ofType k.name with format := fmt } : Schema).constrain c with
          description := n.description, sample := some j } ∧
        ({ Schema.ofType k.name with format := fmt } : Schema).Admits j ∧
        (n.Admits j ↔ c.Admits j) := by
  unfold generateDocument at h
  obtain ⟨r, hex, hg⟩ := Option.map_eq_some_iff.mp h
  cases r with
  | error e => cases hg
  | ok ex =>
    cases hg
    obtain ⟨hroutes, harena⟩ := extraction_everyField (sampleGuessed_fieldFor _) hex
    -- mapping the categories leaves the routes as they are
    have hcs : ∀ c ∈ applyCategoryMapping cfg.categoryMapping ex.controllers, ∀ r ∈ c.routes,
        r.EveryField Field.SampleGuessed := by
      intro c hc r hr
      obtain ⟨c₀, hc₀, rfl⟩ := List.mem_map.mp hc
      exact hroutes c₀ hc₀ r hr
    intro s hs n hn j hj
    obtain ⟨k, fmt, c, hn', hb⟩ :=
      buildDocument_samples harena cfg _ hcs s hs n hn j hj
    refine ⟨k, fmt, c, hn', hb, ?_⟩
    rw [hn', admits_with]
    exact admits_constrain_iff hb

/-! ### A property whose allowed values leave out its example -/

/-- A user with a role name, among `admin` and `user`, and a controller that returns one. -/
def roleModel : Manifest :=
  ⟨[{ path := "src/user.rs", modules := [], enums := [],
      classes := [
        { name := "User", docs := none, annotations := [], typeParams := [], methods := [],
          properties := [⟨"role_name", .simple "String", false, false, none,
            [⟨"IsIn", [.expr "[\"admin\", \"user\"]"]⟩]⟩] },
        { name := "UserController", docs := none, typeParams := [], properties := [],
          annotations := [⟨"Controller", [.literal "users"]⟩],
          methods := [⟨"get_user", none, [⟨"Get", []⟩], [], some (.simple "User")⟩] }] }]⟩

/-- The component `User` of the role model: its role name allows `admin` and `user`, and has the
example guessed from a name that ends in `name`. -/
theorem roleModel_user_component : ∃ ex, extraction roleModel Config.standard = some (.ok ex) ∧
    (ex.generation Config.standard).document.schemas =
      [("User",
        { type := some "object",
          properties := some [("role_name",
            { type := some "string", enumValues := some ["admin", "user"],
              sample := some (.string "John Doe") })],
          required := some ["role_name"] })] :=
  ⟨_, rfl, rfl⟩

theorem generateDocument_of_extraction {m : Manifest} {cfg : Config} {ex : Extraction}
    (h : extraction m cfg = some (.ok ex)) :
    generateDocument m cfg = some (.ok (ex.generation cfg)) := by
  rw [generateDocument, h]
  rfl

theorem roleModel_examples_fit_types :
    ∃ g, generateDocument roleModel Config.standard = some (.ok g) ∧
      ∀ s ∈ g.document.schemaObjects, ∀ n ∈ s.nodes, ∀ j, n.sample = some j →
        ∃ (k : PrimitiveKind) (fmt : Option String) (c : Constraints),
          n = { ({ Schema.ofType k.name with format := fmt } : Schema).constrain c with
            description := n.description, sample := some j } ∧
          ({ Schema.ofType k.name with format := fmt } : Schema).Admits j ∧
          (n.Admits j ↔ c.Admits j) := by
  obtain ⟨ex, hex, -⟩ := roleModel_user_component
  have hg := generateDocument_of_extraction hex
  exact ⟨_, hg, generated_examples_fit_types hg⟩

/-- The role name's example `"John Doe"` is not among the values its schema allows. -/
theorem roleName_example_outside_enum :
    ∃ g, generateDocument roleModel Config.standard = some (.ok g) ∧
      ∃ s ∈ g.document.schemaObjects, ∃ n ∈ s.nodes, n.sample = some (.string "John Doe") ∧
        n.enumValues = some ["admin", "user"] ∧ ¬ n.Admits (.string "John Doe") := by
  obtain ⟨ex, hex, hs⟩ := roleModel_user_component
  refine ⟨_, generateDocument_of_extraction hex, ?_⟩
  -- the component `User`, and in it the schema of its role name
  rw [Document.schemaObjects, hs]
  refine ⟨_, List.mem_append_left _ (List.mem_singleton_self _), ?_⟩
  refine ⟨_, mem_nodes.mpr (.inr (.inl ⟨_, rfl, _, List.mem_singleton_self _,
    mem_nodes.mpr (.inl rfl)⟩)), rfl, rfl, fun h => ?_⟩
  have := h.enum _ rfl
  simp at this

end ApiSpec
