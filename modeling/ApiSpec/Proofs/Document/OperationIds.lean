import Mathlib.Data.List.Perm.Subperm
import ApiSpec.Proofs.Document.Closure

/-!
# Operation ids

The operation a route adds is named `Controller_method` (`addRoute`), and nothing makes these
names unique: two controllers of one name in two version directories that both define `list`
give two operations named `UsersController_list` (`usersByVersion_repeats_operationId`). What
does hold is that operations and routes match one to one. A route adds one operation, and on a
path and method that already has one it replaces it; the paths stay sorted by path, so each path
has one item. The ids of a document are therefore a sub-multiset of the ids of the routes it is
built from, and those are the ids of verb methods of controller classes of the model.

* `opIds_setPathItem`: setting an operation at a path adds its id and drops at most the id of
  the operation it replaces.
* `returns_buildDocument`: the ids of a built document come from the controllers' routes.
* `Resolver.yields_controllersFrom`: the routes of an extraction are verb methods of controller
  classes, each once, in order.
* `operationIds_from_routes`: the ids of a generated document are a sub-multiset of the model's
  route ids, and pairwise distinct when those are.
-/

namespace ApiSpec

open scoped List

/-! ### Ids of documents, routes and models -/

/-- The ids of the operations on one path. -/
def PathItem.ids (p : PathItem) : List String := p.operations.map (·.2.operationId)

/-- The ids of the operations of some paths, path by path. -/
def opIds (paths : List (String × PathItem)) : List String := paths.flatMap (·.2.ids)

/-- The ids of the operations of a document. -/
def Document.operationIds (d : Document) : List String := opIds d.paths

/-- The ids the routes of some controllers give their operations. -/
def routeIds (cs : List ControllerDescriptor) : List String :=
  cs.flatMap fun c => c.routes.map fun r => c.name ++ "_" ++ r.name

/-- The ids a class can give its routes: `Class_method` for each method that plays an HTTP verb,
when the class plays `controller`. -/
def ClassDecl.routeIds (cls : Classifier) (c : ClassDecl) : List String :=
  if (controllerMark? cls c).isSome then
    (c.methods.filter fun md => (routeVerb? cls md).isSome).map fun md => c.name ++ "_" ++ md.name
  else []

/-- The ids the controller classes of a model can give their routes, file by file. -/
def Manifest.routeIds (m : Manifest) (cls : Classifier) : List String :=
  m.classes.flatMap (ClassDecl.routeIds cls)

@[simp] theorem opIds_nil : opIds [] = [] := rfl

@[simp] theorem opIds_cons (k : String) (v : PathItem) (rest : List (String × PathItem)) :
    opIds ((k, v) :: rest) = v.ids ++ opIds rest := rfl

@[simp] theorem routeIds_applyCategoryMapping (mapping : CategoryMapping)
    (cs : List ControllerDescriptor) : routeIds (applyCategoryMapping mapping cs) = routeIds cs := by
  simp [routeIds, applyCategoryMapping, List.flatMap_map]

/-- Setting an operation keeps the other methods' operations, and adds its own. -/
theorem ids_set_sublist (p : PathItem) (m : HttpMethod) (op : Operation) :
    (p.set m op).ids <+ op.operationId :: p.ids :=
  (List.filter_sublist.map _).cons_cons _

/-! ### Paths sorted by path -/

section Paths

/-- Paths sorted by path, so each path has one item. -/
def PathsSorted (paths : List (String × PathItem)) : Prop := paths.Pairwise (·.1 < ·.1)

/-- The item at a path, or the empty one: what `addRoute` adds an operation to. -/
def itemAt (path : String) (paths : List (String × PathItem)) : PathItem :=
  ((paths.find? (·.1 == path)).map (·.2)).getD PathItem.empty

variable {path k : String} {v : PathItem} {rest paths : List (String × PathItem)}

theorem itemAt_nil : itemAt path [] = PathItem.empty := rfl

theorem itemAt_self : itemAt k ((k, v) :: rest) = v := by
  simp [itemAt]

theorem itemAt_of_ne (hne : k ≠ path) : itemAt path ((k, v) :: rest) = itemAt path rest := by
  simp [itemAt, hne]

/-- A path before every path of a sorted list has no item there. -/
theorem itemAt_of_lt (h : PathsSorted ((k, v) :: rest)) (hlt : path < k) :
    itemAt path ((k, v) :: rest) = PathItem.empty := by
  have hbefore : ∀ e ∈ (k, v) :: rest, e.1 ≠ path := by
    intro e he
    rcases List.mem_cons.mp he with rfl | he
    · exact (String.ne_of_lt hlt).symm
    · exact (String.ne_of_lt (String.lt_trans hlt ((List.pairwise_cons.mp h).1 e he))).symm
  have hnone : ((k, v) :: rest).find? (·.1 == path) = none :=
    List.find?_eq_none.mpr fun e he => by simpa using hbefore e he
  simp [itemAt, hnone]

/-- Two different paths, the first not before the second, come the other way round. -/
theorem lt_of_not_lt_of_ne {a b : String} (hlt : ¬ a < b) (hne : a ≠ b) : b < a := by
  by_contra hba
  exact hne (String.le_antisymm (String.not_lt.mp hba) (String.not_lt.mp hlt))

/-- Setting an item keeps the paths sorted. -/
theorem pathsSorted_setPathItem (item : PathItem) (h : PathsSorted paths) :
    PathsSorted (setPathItem path item paths) := by
  induction paths with
  | nil => simp [setPathItem, PathsSorted]
  | cons e rest ih =>
    obtain ⟨k, v⟩ := e
    have hk := (List.pairwise_cons.mp h).1
    rw [setPathItem]
    split
    next hlt =>
      refine List.Pairwise.cons (fun e he => ?_) h
      rcases List.mem_cons.mp he with rfl | he
      · exact hlt
      · exact String.lt_trans hlt (hk e he)
    next hge =>
      split
      next heq =>
        obtain rfl : path = k := beq_iff_eq.mp heq
        exact List.Pairwise.cons hk h.of_cons
      next hne =>
        have hlt : k < path := lt_of_not_lt_of_ne hge fun h => hne (beq_iff_eq.mpr h)
        refine List.Pairwise.cons (fun e he => ?_) (ih h.of_cons)
        rcases mem_setPathItem he with rfl | he
        · exact hlt
        · exact hk e he

/-- On sorted paths, setting an operation at a path adds its id and drops at most the id of the
operation it replaces. -/
theorem opIds_setPathItem (h : PathsSorted paths) (m : HttpMethod) (op : Operation) :
    opIds (setPathItem path ((itemAt path paths).set m op) paths) <+~
      op.operationId :: opIds paths := by
  induction paths with
  | nil => simp [setPathItem, itemAt_nil, PathItem.ids, PathItem.set, PathItem.empty]
  | cons e rest ih =>
    obtain ⟨k, v⟩ := e
    rw [setPathItem]
    split
    next hlt =>
      -- a path before all others: a new item, nothing replaced
      rw [itemAt_of_lt h hlt]
      simp only [PathItem.ids, PathItem.set, PathItem.empty, opIds_cons, List.filter_nil,
        List.map_cons, List.map_nil, List.singleton_append]
      exact List.Subperm.refl _
    next hge =>
      split
      next heq =>
        -- the path's own item: one operation replaced at most
        obtain rfl : path = k := beq_iff_eq.mp heq
        rw [itemAt_self, opIds_cons, opIds_cons, ← List.cons_append]
        exact ((ids_set_sublist v m op).append_right _).subperm
      next hne =>
        -- a path further on
        rw [itemAt_of_ne fun h => hne (beq_iff_eq.mpr h.symm), opIds_cons, opIds_cons]
        exact ((List.subperm_append_left _).mpr (ih h.of_cons)).trans List.perm_middle.subperm

end Paths

/-! ### Building the document -/

namespace SchemaGen

/-- Whatever state the generator starts in, the value `x` returns satisfies `P`. -/
def Returns {α : Type} (x : SchemaM α) (P : α → Prop) : Prop := ∀ st, P (x.run st).1

variable {α β : Type} {x : SchemaM α} {P Q : α → Prop}

theorem returns_pure {a : α} (h : P a) : Returns (pure a) P := fun _ => h

theorem Returns.bind {f : α → SchemaM β} {R : β → Prop} (hx : Returns x Q)
    (hf : ∀ a, Q a → Returns (f a) R) : Returns (x >>= f) R :=
  fun st => hf _ (hx st) _

theorem Returns.imp (hx : Returns x P) (h : ∀ a, P a → Q a) : Returns x Q :=
  fun st => h _ (hx st)

theorem Returns.any {f : α → SchemaM β} {R : β → Prop} (hf : ∀ a, Returns (f a) R) :
    Returns (x >>= f) R :=
  fun st => hf (x.run st).1 _

end SchemaGen

open SchemaGen

section Build

variable (arena : Arena) (cfg : Config)

/-- A route sets one operation, named after the controller and the route, at its path. -/
theorem returns_addRoute (c : ControllerDescriptor) (r : RouteDescriptor)
    (paths : List (String × PathItem)) :
    Returns (addRoute arena cfg c r paths) fun paths' => ∃ op : Operation,
      op.operationId = c.name ++ "_" ++ r.name ∧
      paths' = setPathItem (routePath cfg c r) ((itemAt (routePath cfg c r) paths).set r.method op)
        paths := by
  unfold addRoute
  dsimp only
  -- the schemas only shape the operation's other fields
  refine Returns.any fun _ => ?_
  -- the request body, then the response: each built, or none; the rest of the block is the same
  -- in every branch
  split
  case' h_1 =>
    split
    case' isTrue => refine Returns.any fun _ => ?_
    case' isFalse => refine Returns.any fun _ => ?_
  case' h_2 => refine Returns.any fun _ => ?_
  all_goals
    split
    case' h_1 => refine Returns.any fun _ => ?_
    case' h_2 => refine Returns.any fun _ => ?_
    all_goals
      -- a second operation on the path and method only adds a warning
      split
      · exact Returns.any fun _ => returns_pure ⟨_, rfl, rfl⟩
      · exact returns_pure ⟨_, rfl, rfl⟩

/-- The routes of one controller, added in turn. -/
theorem returns_addRoutes (c : ControllerDescriptor) :
    ∀ (rs : List RouteDescriptor) (acc : List (String × PathItem)), PathsSorted acc →
      Returns (rs.foldlM (fun acc r => addRoute arena cfg c r acc) acc) fun paths =>
        PathsSorted paths ∧ opIds paths <+~ rs.map (fun r => c.name ++ "_" ++ r.name) ++ opIds acc
  | [], acc, h => returns_pure ⟨h, List.Subperm.refl _⟩
  | r :: rs, acc, h => by
    rw [List.foldlM_cons]
    refine (returns_addRoute arena cfg c r acc).bind fun acc' hacc' => ?_
    obtain ⟨op, hid, rfl⟩ := hacc'
    have hstep := @opIds_setPathItem (routePath cfg c r) acc h r.method op
    rw [hid] at hstep
    refine (returns_addRoutes c rs _ (pathsSorted_setPathItem _ h)).imp fun paths hp => ⟨hp.1, ?_⟩
    -- the ids of the later routes, then this route's, then those before
    exact hp.2.trans (((List.subperm_append_left _).mpr hstep).trans List.perm_middle.subperm)

/-- The routes of the controllers, added in turn. -/
theorem returns_addControllers :
    ∀ (cs : List ControllerDescriptor) (acc : List (String × PathItem)), PathsSorted acc →
      Returns (cs.foldlM (fun acc c => c.routes.foldlM (fun acc r => addRoute arena cfg c r acc) acc)
        acc) fun paths => PathsSorted paths ∧ opIds paths <+~ routeIds cs ++ opIds acc
  | [], acc, h => returns_pure ⟨h, List.Subperm.refl _⟩
  | c :: cs, acc, h => by
    rw [List.foldlM_cons]
    refine (returns_addRoutes arena cfg c c.routes acc h).bind fun acc' hacc' => ?_
    refine (returns_addControllers cs acc' hacc'.1).imp fun paths hp => ⟨hp.1, ?_⟩
    have hids : routeIds (c :: cs) = c.routes.map (fun r => c.name ++ "_" ++ r.name) ++ routeIds cs :=
      List.flatMap_cons
    rw [hids, List.append_assoc]
    exact hp.2.trans (((List.subperm_append_left _).mpr hacc'.2).trans
      (List.perm_append_comm_assoc _ _ _).subperm)

/-- The operation ids of a built document come from the controllers' routes, each route giving
at most one. -/
theorem returns_buildDocument (cs : List ControllerDescriptor) :
    Returns (buildDocument arena cfg cs) fun d => d.operationIds <+~ routeIds cs := by
  unfold buildDocument
  refine (returns_addControllers arena cfg cs [] List.Pairwise.nil).bind fun paths hp => ?_
  exact Returns.any fun _ => returns_pure (by simpa [Document.operationIds] using hp.2)

end Build

/-! ### The routes of an extraction -/

namespace Resolver

/-- Whatever state a run of `x` starts from, the value it ends with satisfies `P`. -/
def Yields {α : Type} (x : ResolveM α) (P : α → Prop) : Prop :=
  ∀ s a s', x.run s = some (a, s') → P a

/-- `P` of a value that is not an error. -/
def IfOk {ε α : Type} (P : α → Prop) : Except ε α → Prop
  | .ok a => P a
  | .error _ => True

section Yields

variable {α β ε : Type} {P Q : α → Prop}

theorem yields_pure {a : α} (h : P a) : Yields (pure a) P := by
  intro s b s' hrun
  cases hrun
  exact h

theorem Yields.bind {x : ResolveM α} {f : α → ResolveM β} {R : β → Prop} (hx : Yields x Q)
    (hf : ∀ a, Q a → Yields (f a) R) : Yields (x >>= f) R := by
  intro s b s₂ h
  rw [StateT.run_bind] at h
  obtain ⟨⟨a, s₁⟩, h₁, h₂⟩ := Option.bind_eq_some_iff.mp h
  exact hf a (hx s a s₁ h₁) s₁ b s₂ h₂

theorem Yields.imp {x : ResolveM α} (hx : Yields x P) (h : ∀ a, P a → Q a) : Yields x Q :=
  fun s a s' hrun => h a (hx s a s' hrun)

theorem IfOk.imp (h : ∀ a, P a → Q a) : ∀ r : Except ε α, IfOk P r → IfOk Q r
  | .ok a, hr => h a hr
  | .error _, _ => trivial

theorem yields_any (x : ResolveM α) : Yields x fun _ => True := fun _ _ _ _ => trivial

theorem Yields.except_bind {x : ExceptT ε ResolveM α} {f : α → ExceptT ε ResolveM β}
    {R : β → Prop} (hx : Yields x.run (IfOk Q)) (hf : ∀ a, Q a → Yields (f a).run (IfOk R)) :
    Yields (x >>= f).run (IfOk R) := by
  rw [ExceptT.run_bind]
  refine hx.bind fun r hr => ?_
  cases r with
  | ok a => exact hf a hr
  | error e => exact yields_pure trivial

theorem yields_except_pure {a : α} (h : P a) : Yields (pure a : ExceptT ε ResolveM α).run (IfOk P) := by
  rw [ExceptT.run_pure]
  exact yields_pure h

theorem yields_throw (e : ε) : Yields (throw e : ExceptT ε ResolveM α).run (IfOk P) := by
  rw [ExceptT.run_throw]
  exact yields_pure trivial

theorem Yields.lift {x : ResolveM α} (hx : Yields x P) :
    Yields (ExceptT.lift x : ExceptT ε ResolveM α).run (IfOk P) := by
  rw [ExceptT.run_lift, map_eq_pure_bind]
  exact hx.bind fun a ha => yields_pure ha

end Yields

variable {env : ResolverEnv} (cls : Classifier)

/-- The route of a method is named after the method. -/
theorem yields_routeOf (md : MethodDecl) (verb : HttpMethod) (path : String) :
    Yields (routeOf env cls md verb path) fun r => r.name = md.name := by
  unfold routeOf
  dsimp only
  -- the request body, then the response: each resolved, or none
  split
  case' h_1 => refine (yields_any _).bind fun _ _ => ?_
  case' h_2 => refine (yields_any _).bind fun _ _ => ?_
  all_goals
    split
    · exact (yields_any _).bind fun _ _ => yields_pure rfl
    · exact (yields_any _).bind fun _ _ => yields_pure rfl

/-- The routes of a controller are its methods that play an HTTP verb, in order. -/
theorem yields_routesFrom (c : ClassDecl) (classPublic : Bool) :
    (ms : List MethodDecl) → Yields (routesFrom env cls c classPublic ms).run (IfOk fun routes =>
      routes.map (·.name) = (ms.filter fun md => (routeVerb? cls md).isSome).map (·.name))
  | [] => by
    rw [routesFrom]
    exact yields_except_pure rfl
  | md :: rest => by
    rw [routesFrom]
    split
    next hv =>
      -- not a route: skipped
      simpa [hv] using yields_routesFrom c classPublic rest
    next verb a hv =>
      split
      · exact yields_throw _
      · refine (yields_routeOf cls md verb _).lift.except_bind fun r hr => ?_
        refine (yields_routesFrom c classPublic rest).except_bind fun tail htail => ?_
        exact yields_except_pure (by simp [hv, hr, htail])

/-- The routes of the extracted controllers are verb methods of controller classes, each once, in
the order of the classes. -/
theorem yields_controllersFrom (h : PathHeuristic) :
    (cs : List (SourceFile × ClassDecl)) → Yields (controllersFrom env cls h cs).run (IfOk fun ds =>
      routeIds ds <+ (cs.map (·.2)).flatMap (ClassDecl.routeIds cls))
  | [] => by
    rw [controllersFrom]
    exact yields_except_pure (List.Sublist.slnil)
  | (u, c) :: rest => by
    have hrest := yields_controllersFrom h rest
    -- a class that gives no controller leaves the ids of the rest
    have hskip : ∀ ds, routeIds ds <+ (rest.map (·.2)).flatMap (ClassDecl.routeIds cls) →
        routeIds ds <+ (((u, c) :: rest).map (·.2)).flatMap (ClassDecl.routeIds cls) :=
      fun ds hds => hds.trans (List.sublist_append_right _ _)
    rw [controllersFrom]
    split
    · exact hrest.imp (IfOk.imp hskip)
    next a hmark =>
      split
      · exact (yields_any _).lift.except_bind fun _ _ => hrest.imp (IfOk.imp hskip)
      · split
        · exact yields_throw _
        · refine (yields_routesFrom cls c _ c.methods).lift.except_bind fun r hr => ?_
          split
          · exact (yields_any _).lift.except_bind fun _ _ => hrest.imp (IfOk.imp hskip)
          next routes =>
            refine hrest.except_bind fun tail htail => yields_except_pure ?_
            -- the controller's routes are the class's verb methods
            have hnames : routes.map (fun r => c.name ++ "_" ++ r.name) =
                (c.methods.filter fun md => (routeVerb? cls md).isSome).map
                  fun md => c.name ++ "_" ++ md.name := by
              simpa [IfOk, List.map_map, Function.comp_def] using
                congrArg (List.map (c.name ++ "_" ++ ·)) hr
            have hclass : ClassDecl.routeIds cls c =
                (c.methods.filter fun md => (routeVerb? cls md).isSome).map
                  fun md => c.name ++ "_" ++ md.name := by
              simp [ClassDecl.routeIds, hmark]
            simpa [routeIds, hnames, hclass] using htail

end Resolver

open Resolver

/-- The routes of an extraction are verb methods of the model's controller classes. -/
theorem routeIds_extraction {m : Manifest} {cfg : Config} {ex : Extraction}
    (h : extraction m cfg = some (.ok ex)) : routeIds ex.controllers <+ m.routeIds cfg.classifier := by
  unfold extraction at h
  obtain ⟨⟨r, st⟩, hrun, hr⟩ := Option.map_eq_some_iff.mp h
  cases r with
  | error e => cases hr
  | ok cs =>
    cases hr
    have hpairs : ((m.units.flatMap fun u => u.classes.map (u, ·)).map (·.2)) = m.classes := by
      simp [Manifest.classes, List.map_flatMap, Function.comp_def]
    have hcs := @yields_controllersFrom (cfg.resolverEnv m) cfg.classifier cfg.pathHeuristic
      _ ResolverState.initial (.ok cs) st hrun
    simp only [IfOk, Config.resolverEnv, hpairs] at hcs
    exact hcs

/-- Each operation of a generated document comes from a verb method of a controller class of the
model, no method giving two, and is named `Class_method` after it: the ids of the document are a
sub-multiset of the model's route ids, and so pairwise distinct when those are. -/
theorem operationIds_from_routes {m : Manifest} {cfg : Config} {g : Generation}
    (h : generateDocument m cfg = some (.ok g)) :
    g.document.operationIds <+~ m.routeIds cfg.classifier ∧
      ((m.routeIds cfg.classifier).Nodup → g.document.operationIds.Nodup) := by
  unfold generateDocument at h
  obtain ⟨r, hex, hg⟩ := Option.map_eq_some_iff.mp h
  cases r with
  | error e => cases hg
  | ok ex =>
    cases hg
    have hdoc := returns_buildDocument ex.arena cfg
      (applyCategoryMapping cfg.categoryMapping ex.controllers) SchemaState.initial
    rw [routeIds_applyCategoryMapping] at hdoc
    have hsub := hdoc.trans (routeIds_extraction hex).subperm
    refine ⟨hsub, fun hnd => ?_⟩
    obtain ⟨l, hperm, hl⟩ := hsub
    exact hperm.nodup_iff.mp (hnd.sublist hl)

/-! ### One controller name in two versions -/

/-- `UsersController` with a `list` route, in a version directory. -/
def usersIn (version : String) : SourceFile :=
  { path := "src/api/" ++ version ++ "/users/users_controller.rs", enums := [], modules := [],
    classes := [
      { name := "UsersController", docs := none, typeParams := [], properties := [],
        annotations := [⟨"Controller", [.literal "users"]⟩],
        methods := [⟨"list", none, [⟨"Get", []⟩], [], none⟩] }] }

/-- The users controller of versions 1 and 2. -/
def usersByVersion : Manifest := ⟨[usersIn "v1", usersIn "v2"]⟩

/-- Versioning on, under `/api`. -/
def versionedConfig : Config := { Config.standard with versioning := ⟨true, "/api", none⟩ }

/-- The two versions' `list` routes sit at `/api/v1/users` and `/api/v2/users` and share the
id `UsersController_list`. -/
theorem usersByVersion_repeats_operationId :
    ∃ g, generateDocument usersByVersion versionedConfig = some (.ok g) ∧
      g.document.operationIds = ["UsersController_list", "UsersController_list"] ∧
      ¬ g.document.operationIds.Nodup := by
  have h : (generateDocument usersByVersion versionedConfig).map
      (fun r => r.toOption.map (·.document.operationIds)) =
        some (some ["UsersController_list", "UsersController_list"]) := by
    decide +kernel
  obtain ⟨r, hr, hids⟩ := Option.map_eq_some_iff.mp h
  cases r with
  | error e => cases hids
  | ok g =>
    have hg : g.document.operationIds = ["UsersController_list", "UsersController_list"] :=
      Option.some.inj hids
    exact ⟨g, hr, hg, by simp [hg]⟩

/-- Both operations come from the model's two `list` methods. -/
theorem usersByVersion_ids_from_routes :
    ∃ g, generateDocument usersByVersion versionedConfig = some (.ok g) ∧
      g.document.operationIds <+~ usersByVersion.routeIds versionedConfig.classifier ∧
      ((usersByVersion.routeIds versionedConfig.classifier).Nodup →
        g.document.operationIds.Nodup) := by
  have h : (generateDocument usersByVersion versionedConfig).map Except.toBool = some true := by
    decide +kernel
  obtain ⟨r, hr, hok⟩ := Option.map_eq_some_iff.mp h
  cases r with
  | error e => cases hok
  | ok g => exact ⟨g, hr, operationIds_from_routes hr⟩

end ApiSpec
