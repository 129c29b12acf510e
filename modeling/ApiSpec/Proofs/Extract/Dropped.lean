import ApiSpec.Proofs.Resolve.Frame
import ApiSpec.Proofs.Document.Transfer
import ApiSpec.Pipeline

/-!
# Dropped controllers

A controller whose base path, or one of whose route paths, is not a literal is dropped with a
warning (`dropped`). The routes before the failing one are extracted first, and their bodies and
responses stay recorded in the resolver's arena, where later routes find them. In a model with
an enumeration with payloads, such a recorded type changes another route's schemas, so the
document is not that of the model without the dropped controller
(`brokenNode_dropped_controller_leaves_component`).

In a settled model it is. What the resolver records depends on what it recorded before only up
to folding, and the generator reads descriptors only up to folding, so unmarking any dropped
controllers changes no document (`generateDocument_unmark_dropped`). The proof runs the two
extractions side by side (`Resolver.Matches`): they visit the same classes in files at the same
paths, and at a dropped controller one side resolves routes until the failing one and warns,
which keeps its state ready, while the other skips the class.

* `Resolver.Fails` and `Resolver.fails_routesFrom`: the routes of a class with a route path that
  is not a literal end in an error, whatever was resolved before.
* `Resolver.matches_controllersFrom_entries`: the extraction of a list of classes matches that of
  the same list with some dropped controllers unmarked.
-/

namespace ApiSpec

/-- The class without its annotations that play `controller`. -/
def ClassDecl.unmark (cls : Classifier) (c : ClassDecl) : ClassDecl :=
  { c with annotations := c.annotations.filter fun a => !cls.plays a.name .controller }

/-- The model with the classes that `drop` selects unmarked. -/
def Manifest.unmark (cls : Classifier) (drop : SourceFile → ClassDecl → Bool) (m : Manifest) :
    Manifest :=
  ⟨m.units.map fun u =>
    { u with classes := u.classes.map fun c => if drop u c then c.unmark cls else c }⟩

/-- Whether a method is a route whose path is not a literal. -/
def nonLiteralRoute (cls : Classifier) (md : MethodDecl) : Bool :=
  (routeVerb? cls md).any fun va => !(literalPath va.2).toBool

/-- Whether the extraction drops a class with a warning: a controller whose base path is not a
literal, or whose category is found and one of whose routes has a path that is not a literal. -/
def dropped (cls : Classifier) (model : Manifest) (h : PathHeuristic) (u : SourceFile)
    (c : ClassDecl) : Bool :=
  match controllerMark? cls c with
  | none => false
  | some a =>
    match literalPath a with
    | .error _ => true
    | .ok _ => (categoryOf model h u c).toBool && c.methods.any (nonLiteralRoute cls)

/-- What a shape reads of a class: its name, type parameters and properties. -/
def ClassDecl.shapeView (c : ClassDecl) : String × List String × List PropertyDecl :=
  (c.name, c.typeParams, c.properties)

/-! ### What unmarking keeps -/

section Unmark

variable {cls : Classifier} {drop : SourceFile → ClassDecl → Bool} {m : Manifest}

@[simp] theorem unmark_name (c : ClassDecl) : (c.unmark cls).name = c.name := rfl
@[simp] theorem unmark_typeParams (c : ClassDecl) : (c.unmark cls).typeParams = c.typeParams := rfl
@[simp] theorem unmark_properties (c : ClassDecl) : (c.unmark cls).properties = c.properties := rfl
@[simp] theorem unmark_methods (c : ClassDecl) : (c.unmark cls).methods = c.methods := rfl

@[simp] theorem controllerMark?_unmark (c : ClassDecl) :
    controllerMark? cls (c.unmark cls) = none := by
  simp [controllerMark?, ClassDecl.unmark, List.find?_filter]

/-- What the model's classes give through `g` is unchanged when `g` does not read the marks. -/
theorem classes_unmark_map {β : Type} (g : ClassDecl → β) (hg : ∀ c, g (c.unmark cls) = g c) :
    (m.unmark cls drop).classes.map g = m.classes.map g := by
  simp only [Manifest.classes, Manifest.unmark, List.flatMap_map, List.map_flatMap, List.map_map]
  congr 1
  funext u
  apply List.map_congr_left
  intro c _
  by_cases hc : drop u c <;> simp [hc, hg]

@[simp] theorem enums_unmark : (m.unmark cls drop).enums = m.enums := by
  simp [Manifest.enums, Manifest.unmark, List.flatMap_map]

theorem owningModule?_unmark : (m.unmark cls drop).owningModule? = m.owningModule? := by
  -- unmarking keeps every file's modules
  have h : ((m.unmark cls drop).units.flatMap (·.modules)) = m.units.flatMap (·.modules) := by
    simp only [Manifest.unmark, List.flatMap_map]
  funext n
  simp only [Manifest.owningModule?, h]

/-- The first class of a name, seen through what the shapes read of it. -/
theorem findClass?_unmark (n : String) :
    ((m.unmark cls drop).findClass? n).map ClassDecl.shapeView =
      (m.findClass? n).map ClassDecl.shapeView := by
  have h := @classes_unmark_map cls drop m _ ClassDecl.shapeView fun _ => rfl
  -- a search by name is a search of the views by their first part
  have hfind (l : List ClassDecl) : (l.map ClassDecl.shapeView).find? (·.1 == n) =
      (l.find? (·.name == n)).map ClassDecl.shapeView :=
    List.find?_map
  simp only [Manifest.findClass?]
  rw [← hfind, ← hfind, h]

theorem namedShape_unmark (n : String) (args : List TypeExpr) :
    (m.unmark cls drop).namedShape n args = m.namedShape n args := by
  have hv := @findClass?_unmark cls drop m n
  unfold Manifest.namedShape
  cases builtinShape? n args with
  | some _ => rfl
  | none =>
    simp only [Manifest.findEnum?, enums_unmark]
    cases h₁ : (m.unmark cls drop).findClass? n <;> cases h₂ : m.findClass? n <;>
      simp_all [ClassDecl.shapeView]

theorem shapeOf_unmark (t : TypeExpr) : (m.unmark cls drop).shapeOf t = m.shapeOf t := by
  cases t with
  | named n args => exact namedShape_unmark n args
  | tuple items => cases items <;> rfl
  | _ => rfl

theorem size_unmark : (m.unmark cls drop).size = m.size := by
  simp only [Manifest.size]
  rw [classes_unmark_map, enums_unmark]
  · simp [Manifest.unmark]
  · intro c
    rfl

end Unmark

/-! ### Extractions in environments that resolve alike -/

section Congr

variable {env env' : ResolverEnv} (hv : env.SameView env') (cls : Classifier)
include hv

open Resolver in
theorem routeOf_congr (md : MethodDecl) (verb : HttpMethod) (path : String) :
    routeOf env cls md verb path = routeOf env' cls md verb path := by
  have hpar : parameterOf cls env.model = parameterOf cls env'.model := by
    funext p
    simp only [parameterOf, parameterDescriptor_congr hv.shapeOf hv.size]
  simp only [routeOf, hpar, resolveBody_congr hv]

theorem routesFrom_congr (c : ClassDecl) (pub : Bool) (ms : List MethodDecl) :
    routesFrom env cls c pub ms = routesFrom env' cls c pub ms := by
  induction ms with
  | nil => simp only [routesFrom]
  | cons md rest ih => simp only [routesFrom, routeOf_congr hv cls, ih]

theorem controllersFrom_congr (hmod : env.model.owningModule? = env'.model.owningModule?)
    (h : PathHeuristic) (xs : List (SourceFile × ClassDecl)) :
    controllersFrom env cls h xs = controllersFrom env' cls h xs := by
  induction xs with
  | nil => simp only [controllersFrom]
  | cons x rest ih =>
    simp only [controllersFrom, routesOf, categoryOf, routesFrom_congr hv cls, hmod, ih]

end Congr

/-! ### Two extractions side by side -/

/-- How an entry of the class list of the unmarked model stands to the model's: the same class
in a file at the same path, or a dropped class, unmarked. -/
def SameEntry (cls : Classifier) (model : Manifest) (h : PathHeuristic)
    (x y : SourceFile × ClassDecl) : Prop :=
  y.1.path = x.1.path ∧ (y.2 = x.2 ∨ (y.2 = x.2.unmark cls ∧ dropped cls model h x.1 x.2))

theorem dropped_cases {cls : Classifier} {model : Manifest} {h : PathHeuristic} {u : SourceFile}
    {c : ClassDecl} (hd : dropped cls model h u c) :
    ∃ a, controllerMark? cls c = some a ∧ ((∃ e, literalPath a = .error e) ∨
      (∃ p k, literalPath a = .ok p ∧ categoryOf model h u c = .ok k ∧
        c.methods.any (nonLiteralRoute cls))) := by
  unfold dropped at hd
  split at hd
  · cases hd
  · next a hmark =>
    refine ⟨a, hmark, ?_⟩
    split at hd
    · next e he => exact .inl ⟨e, he⟩
    · next p hp =>
      rw [Bool.and_eq_true] at hd
      cases hcat : categoryOf model h u c with
      | error f => simp [hcat, Except.toBool] at hd
      | ok k => exact .inr ⟨p, k, hp, rfl, hd.2⟩

namespace Resolver

/-- A run of `x` that ends ends with an error. -/
def Fails {ε α : Type} (x : ExceptT ε ResolveM α) : Prop :=
  ∀ s r s', x.run.run s = some (r, s') → r.toBool = false

namespace Fails

variable {ε α β : Type}

protected theorem throw (e : ε) : Fails (throw e : ExceptT ε ResolveM α) := by
  intro s r s' h
  cases h
  rfl

/-- A computation that fails fails whatever follows it. -/
theorem bind_left {x : ExceptT ε ResolveM α} {f : α → ExceptT ε ResolveM β} (hx : Fails x) :
    Fails (x >>= f) := by
  intro s r s₂ h
  rw [ExceptT.run_bind, StateT.run_bind] at h
  obtain ⟨⟨r₁, s₁⟩, h₁, h₂⟩ := Option.bind_eq_some_iff.mp h
  have herr := hx s r₁ s₁ h₁
  cases r₁ with
  | ok a => cases herr
  | error e =>
    cases h₂
    rfl

/-- A computation followed by one that fails on each of its results fails. -/
theorem bind_right {x : ExceptT ε ResolveM α} {f : α → ExceptT ε ResolveM β}
    (hf : ∀ a, Fails (f a)) : Fails (x >>= f) := by
  intro s r s₂ h
  rw [ExceptT.run_bind, StateT.run_bind] at h
  obtain ⟨⟨r₁, s₁⟩, h₁, h₂⟩ := Option.bind_eq_some_iff.mp h
  cases r₁ with
  | ok a => exact hf a s₁ r s₂ h₂
  | error e =>
    cases h₂
    rfl

end Fails

variable {env : ResolverEnv} (cls : Classifier)

/-- The routes of methods one of which is a route whose path is not a literal fail: the routes
before it are extracted, and it throws. -/
theorem fails_routesFrom (c : ClassDecl) (pub : Bool) (ms : List MethodDecl)
    (hb : ms.any (nonLiteralRoute cls)) : Fails (routesFrom env cls c pub ms) := by
  induction ms with
  | nil => cases hb
  | cons md rest ih =>
    rw [List.any_cons, Bool.or_eq_true] at hb
    rw [routesFrom]
    cases hv : routeVerb? cls md with
    | none =>
      -- not a route: the one that throws comes later
      have hmd : nonLiteralRoute cls md = false := by simp [nonLiteralRoute, hv]
      exact ih (hb.resolve_left (by simp [hmd]))
    | some va =>
      obtain ⟨verb, a⟩ := va
      dsimp only
      cases hl : literalPath a with
      | error e => exact Fails.throw _
      | ok path =>
        have hmd : nonLiteralRoute cls md = false := by
          simp [nonLiteralRoute, hv, hl, Except.toBool]
        exact Fails.bind_right fun _ => (ih (hb.resolve_left (by simp [hmd]))).bind_left

variable (hs : env.model.Settled) (h : PathHeuristic)
include hs

/-- The routes of a dropped controller, extracted from a ready state, end in a ready state with
an error. -/
theorem keeps_routesOf_dropped {c : ClassDecl} (hb : c.methods.any (nonLiteralRoute cls)) :
    Keeps env (fun r => r.toBool = false) (routesOf env cls c).run := by
  intro s r s' hready hrun
  exact ⟨((matches_routesFrom hs cls c _ c.methods).keeps s r s' hready hrun).1,
    fails_routesFrom cls c _ c.methods hb s r s' hrun⟩

/-- A dropped class is extracted as its unmarked self, which is no controller: the one resolves
routes and warns where the other skips. -/
theorem matches_controllersFrom_dropped {u₁ u₂ : SourceFile} {c : ClassDecl}
    {xs ys : List (SourceFile × ClassDecl)} (hd : dropped cls env.model h u₁ c)
    (ih : Matches env (ExceptAlike (ControllersAlike (Canonical env)))
      (controllersFrom env cls h xs).run (controllersFrom env cls h ys).run) :
    Matches env (ExceptAlike (ControllersAlike (Canonical env)))
      (controllersFrom env cls h ((u₁, c) :: xs)).run
      (controllersFrom env cls h ((u₂, c.unmark cls) :: ys)).run := by
  obtain ⟨a, hmark, ⟨e, hlit⟩ | ⟨p, k, hlit, hcat, hb⟩⟩ := dropped_cases hd
  all_goals
    rw [controllersFrom, controllersFrom, controllerMark?_unmark, hmark]
    dsimp only
    rw [hlit]
    dsimp only
  · exact ih.except_warn_left _
  · rw [hcat]
    dsimp only
    -- the routes fail, keeping the state ready, and the controller is skipped with a warning
    refine Matches.except_lift_left (keeps_routesOf_dropped cls hs hb) fun r hr => ?_
    cases r with
    | ok _ => cases hr
    | error e => exact ih.except_warn_left _

/-- The extraction of a list of classes matches that of the same list with some dropped classes
unmarked, in files at the same paths. -/
theorem matches_controllersFrom_entries (G : SourceFile × ClassDecl → SourceFile × ClassDecl)
    (xs : List (SourceFile × ClassDecl)) (hx : ∀ x ∈ xs, SameEntry cls env.model h x (G x)) :
    Matches env (ExceptAlike (ControllersAlike (Canonical env)))
      (controllersFrom env cls h xs).run (controllersFrom env cls h (xs.map G)).run := by
  induction xs with
  | nil =>
    rw [List.map_nil, controllersFrom]
    exact Matches.except_pure ListsAlike.nil
  | cons x xs ih =>
    have ih := ih fun y hy => hx y (List.mem_cons_of_mem _ hy)
    obtain ⟨u, c⟩ := x
    obtain ⟨hpath, hsame | ⟨hunmark, hd⟩⟩ := hx (u, c) List.mem_cons_self
    all_goals
      rw [List.map_cons]
      rcases hG : G (u, c) with ⟨u', c'⟩
      rw [hG] at hpath
    · rw [hG] at hsame
      subst hsame
      exact matches_controllersFrom_cons hs cls h hpath.symm _ ih
    · rw [hG] at hunmark
      subst hunmark
      exact matches_controllersFrom_dropped cls hs h hd ih

end Resolver

/-! ### The document -/

/-- Where an entry of the model's class list goes in the unmarked model. -/
def Manifest.unmarkEntry (cls : Classifier) (drop : SourceFile → ClassDecl → Bool)
    (x : SourceFile × ClassDecl) : SourceFile × ClassDecl :=
  ({ x.1 with classes := x.1.classes.map fun c => if drop x.1 c then c.unmark cls else c },
    if drop x.1 x.2 then x.2.unmark cls else x.2)

section Document

variable {m : Manifest} {cfg : Config} {drop : SourceFile → ClassDecl → Bool}

theorem entries_unmark :
    ((m.unmark cfg.classifier drop).units.flatMap fun u => u.classes.map (u, ·)) =
      (m.units.flatMap fun u => u.classes.map (u, ·)).map
        (Manifest.unmarkEntry cfg.classifier drop) := by
  simp only [Manifest.unmark, List.flatMap_map, List.map_flatMap, List.map_map]
  rfl

theorem sameView_unmark :
    (cfg.resolverEnv m).SameView (cfg.resolverEnv (m.unmark cfg.classifier drop)) :=
  ⟨fun t => (shapeOf_unmark t).symm, size_unmark.symm, rfl, rfl⟩

/-- The unmarked model is extracted as the model's classes, some unmarked, in the model's own
environment. -/
theorem extractControllers_unmark :
    extractControllers (cfg.resolverEnv (m.unmark cfg.classifier drop)) cfg.classifier
        cfg.pathHeuristic =
      controllersFrom (cfg.resolverEnv m) cfg.classifier cfg.pathHeuristic
        ((m.units.flatMap fun u => u.classes.map (u, ·)).map
          (Manifest.unmarkEntry cfg.classifier drop)) := by
  show controllersFrom _ _ _ ((m.unmark cfg.classifier drop).units.flatMap fun u =>
    u.classes.map (u, ·)) = _
  rw [entries_unmark, ← controllersFrom_congr sameView_unmark cfg.classifier
    owningModule?_unmark.symm]

/-- Each entry of the model's class list keeps its file's path, and keeps its class or unmarks
a dropped one. -/
theorem sameEntry_unmarkEntry
    (hdrop : ∀ u ∈ m.units, ∀ c ∈ u.classes, drop u c →
      dropped cfg.classifier m cfg.pathHeuristic u c) :
    ∀ x ∈ m.units.flatMap (fun u => u.classes.map (u, ·)), SameEntry cfg.classifier m
      cfg.pathHeuristic x (Manifest.unmarkEntry cfg.classifier drop x) := by
  intro x hx
  obtain ⟨u, hu, hx⟩ := List.mem_flatMap.1 hx
  obtain ⟨c, hc, rfl⟩ := List.mem_map.1 hx
  refine ⟨rfl, ?_⟩
  by_cases hd : drop u c
  · exact .inr ⟨by simp [Manifest.unmarkEntry, hd], hdrop u hu c hc hd⟩
  · exact .inl (by simp [Manifest.unmarkEntry, hd])

/-- The document of an extraction reads its controllers and its arena, not its warnings. -/
theorem generation_document (ex : Extraction) :
    (ex.generation cfg).document =
      ((buildDocument ex.arena cfg (applyCategoryMapping cfg.categoryMapping ex.controllers)).run
        SchemaState.initial).1 := by
  unfold Extraction.generation
  dsimp only
  rcases (buildDocument ex.arena cfg
    (applyCategoryMapping cfg.categoryMapping ex.controllers)).run SchemaState.initial with
    ⟨doc, st⟩
  rfl

/-- The document of a model, read off the run of its extraction. -/
theorem generateDocument_document :
    (generateDocument m cfg).map (Except.map (·.document)) =
      ((extractControllers (cfg.resolverEnv m) cfg.classifier cfg.pathHeuristic).run.run
        ResolverState.initial).map fun p => p.1.map fun cs =>
          ((buildDocument p.2.arena cfg (applyCategoryMapping cfg.categoryMapping cs)).run
            SchemaState.initial).1 := by
  simp only [generateDocument, extraction, Option.map_map]
  congr 1
  funext p
  obtain ⟨r, st⟩ := p
  cases r <;> simp [Except.map, generation_document]

open Resolver in
/-- In a settled model, unmarking any controllers that the extraction drops with a warning
changes no document: the routes a dropped controller resolved before its failing one leave no
trace in any other operation or component. -/
theorem generateDocument_unmark_dropped (hs : m.Settled)
    (hdrop : ∀ u ∈ m.units, ∀ c ∈ u.classes, drop u c →
      dropped cfg.classifier m cfg.pathHeuristic u c) :
    (generateDocument (m.unmark cfg.classifier drop) cfg).map (Except.map (·.document)) =
      (generateDocument m cfg).map (Except.map (·.document)) := by
  have hs' : (cfg.resolverEnv m).model.Settled := hs
  rw [generateDocument_document, generateDocument_document, extractControllers_unmark]
  -- both extractions end, from the initial state
  have hinit : ResolverState.initial.Unbound := fun _ h => absurd h List.not_mem_nil
  obtain ⟨r₁, s₁, hrun₁, -⟩ := @halts_controllersFrom (cfg.resolverEnv m) hs.noTypeParams
    cfg.classifier cfg.pathHeuristic ((cfg.resolverEnv m).model.units.flatMap fun u =>
      u.classes.map (u, ·)) ResolverState.initial hinit
  obtain ⟨r₂, s₂, hrun₂, -⟩ := @halts_controllersFrom (cfg.resolverEnv m) hs.noTypeParams
    cfg.classifier cfg.pathHeuristic ((m.units.flatMap fun u => u.classes.map (u, ·)).map
      (Manifest.unmarkEntry cfg.classifier drop)) ResolverState.initial hinit
  -- side by side, they end in ready states with the same error or controllers alike
  obtain ⟨k₁, k₂, hr⟩ := matches_controllersFrom_entries cfg.classifier hs' cfg.pathHeuristic
    _ _ (sameEntry_unmarkEntry hdrop) _ _ _ _ _ _ (ResolverState.ready_initial _)
    (ResolverState.ready_initial _) hrun₁ hrun₂
  unfold extractControllers
  rw [hrun₁, hrun₂, Option.map_some, Option.map_some]
  cases r₁ with
  | error e₁ =>
    cases r₂ with
    | error e₂ =>
      cases hr
      simp only [Except.map]
    | ok _ => exact absurd hr id
  | ok cs₁ =>
    cases r₂ with
    | error _ => exact absurd hr id
    | ok cs₂ =>
      have hr : ControllersAlike (Canonical (cfg.resolverEnv m)) cs₁ cs₂ := hr
      -- both arenas are faithful to the canonical named types, which are coherent
      obtain ⟨hA₁, hf₁⟩ := faithful_of_run hs' cfg.classifier cfg.pathHeuristic hrun₁ k₁ hr.left
      obtain ⟨hA₂, hf₂⟩ := faithful_of_run hs' cfg.classifier cfg.pathHeuristic hrun₂ k₂ hr.right
      simp only [Except.map]
      rw [buildDocument_transfer (coherent_canonical hs') hA₁ hA₂ cfg
        (applyCategoryMapping_fold_eq cfg.categoryMapping hr.fold_eq)
        (fits_applyCategoryMapping _ hf₁) (fits_applyCategoryMapping _ hf₂)]

/-- `get_user`, answering a `User`. -/
def getUser : MethodDecl := ⟨"get_user", none, [⟨"Get", []⟩], [], some (.simple "User")⟩

/-- `broken`, whose path is the constant `NODE_PATH`. -/
def brokenRoute : MethodDecl := ⟨"broken", none, [⟨"Get", [.expr "NODE_PATH"]⟩], [], none⟩

/-- The user model: a user with tags, a user controller whose `get_user` resolves `User`, and
`Tag` with it, before `broken` drops the controller, and a tag controller. -/
def userTagModel : Manifest :=
  ⟨[{ path := "src/user.rs", modules := [], enums := [],
      classes := [
        { name := "Tag", docs := none, annotations := [], typeParams := [], methods := [],
          properties := [⟨"label", .simple "String", false, false, none, []⟩] },
        { name := "User", docs := none, annotations := [], typeParams := [], methods := [],
          properties := [⟨"tags", .named "Vec" [.simple "Tag"], false, false, none, []⟩] },
        { name := "UserController", docs := none, typeParams := [], properties := [],
          annotations := [⟨"Controller", [.literal "users"]⟩], methods := [getUser, brokenRoute] },
        { name := "TagController", docs := none, typeParams := [], properties := [],
          annotations := [⟨"Controller", [.literal "tags"]⟩],
          methods := [⟨"get_tag", none, [⟨"Get", []⟩], [], some (.simple "Tag")⟩] }] }]⟩

/-- Selects the user controller. -/
def isUserController (_ : SourceFile) (c : ClassDecl) : Bool := c.name == "UserController"

/-- The user controller resolves `User` and `Tag` before it is dropped, and unmarking it changes
no document. -/
theorem userController_dropped_document_unmarked :
    userTagModel.Settled ∧
      (∀ u ∈ userTagModel.units, ∀ c ∈ u.classes, isUserController u c →
        dropped Config.standard.classifier userTagModel Config.standard.pathHeuristic u c) ∧
      (generateDocument (userTagModel.unmark Config.standard.classifier isUserController)
          Config.standard).map (Except.map (·.document)) =
        (generateDocument userTagModel Config.standard).map (Except.map (·.document)) := by
  have hs : userTagModel.Settled := by decide +kernel
  have hdrop : ∀ u ∈ userTagModel.units, ∀ c ∈ u.classes, isUserController u c →
      dropped Config.standard.classifier userTagModel Config.standard.pathHeuristic u c := by
    decide +kernel
  exact ⟨hs, hdrop, generateDocument_unmark_dropped hs hdrop⟩

end Document

/-! ### A node controller with a constant route path -/

/-- `get_node`, answering the enumeration `Node`. -/
def getNode : MethodDecl := ⟨"get_node", none, [⟨"Get", []⟩], [], some (.simple "Node")⟩

/-- The node model: a tree whose node is an enumeration with payloads (the child trees, or a
number), a node controller with the given methods, and a tree controller. -/
def nodeTreeWith (nodeMethods : List MethodDecl) : Manifest :=
  ⟨[{ path := "src/tree.rs", modules := [],
      enums := [⟨"Node", [], [.named "Vec" [.simple "Tree"], .simple "i32"]⟩],
      classes := [
        { name := "Tree", docs := none, annotations := [], typeParams := [], methods := [],
          properties := [⟨"node", .named "Box" [.simple "Node"], false, false, none, []⟩] },
        { name := "NodeController", docs := none, typeParams := [], properties := [],
          annotations := [⟨"Controller", [.literal "nodes"]⟩], methods := nodeMethods },
        { name := "TreeController", docs := none, typeParams := [], properties := [],
          annotations := [⟨"Controller", [.literal "trees"]⟩],
          methods := [⟨"get_tree", none, [⟨"Get", []⟩], [], some (.simple "Tree")⟩] }] }]⟩

/-- Selects the node controller. -/
def isNodeController (_ : SourceFile) (c : ClassDecl) : Bool := c.name == "NodeController"

/-- The node controller's `get_node` is extracted before `broken` drops the controller, and
records `Node` as a free object: the document gains the component `Node`, and `Tree` refers to
it. Without the controller, `Tree` alone is a component, its node a free object. -/
theorem brokenNode_dropped_controller_leaves_component :
    (generateDocument (nodeTreeWith [getNode, brokenRoute]) Config.standard).map
        (fun r => r.toOption.map (·.document.schemas.map (·.1))) = some (some ["Node", "Tree"]) ∧
      (generateDocument ((nodeTreeWith [getNode, brokenRoute]).unmark Config.standard.classifier
          isNodeController) Config.standard).map
        (fun r => r.toOption.map (·.document.schemas.map (·.1))) = some (some ["Tree"]) := by
  decide +kernel

end ApiSpec
