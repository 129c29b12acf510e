import ApiSpec.Proofs.Extract.Dropped
import Mathlib.Data.List.Find
import Mathlib.Data.List.Perm.Basic

/-!
# Extractions of a model in another order

The model may list its files, and the classes, enumerations and modules within each file, in any
order (`Manifest.Reordered`). The resolver reads a named type by a search for the first
declaration of its name, and a controller's category by a search for the first module that lists
it; with names that are pairwise distinct and controllers listed by at most one module, the
reordered model resolves every type as the model does (`sameView_reordered`). What changes is
the order in which the extraction visits the classes, and with it what the shared resolver has
met before each controller; in a settled model that changes each controller only up to folding.

* `Resolver.classStep`: the controller one class gives, if any; the extraction is its steps in
  order (`controllersFrom_cons`).
* `Resolver.Matches.both_swap`: two runs of two steps in either order, whose results do not
  depend on the state they start from, match.
* `Resolver.matches_controllersFrom_perm`: the extractions of two orders of the same classes
  both fail, or give controllers that are permutations of each other once folded; by induction
  on the permutation, whose swap case is `both_swap` and whose chaining needs the middle run to
  halt.
* `Resolver.matches_reordered`: so do the extractions of a model and of the model reordered.
-/

namespace ApiSpec

open scoped List

/-! ### Reordered models -/

/-- The same file with its classes, enumerations and modules listed in another order. -/
structure SourceFile.Reordered (u u' : SourceFile) : Prop where
  path : u'.path = u.path
  classes : u'.classes ~ u.classes
  enums : u'.enums ~ u.enums
  modules : u'.modules ~ u.modules

/-- The model with its files, and the declarations within each file, listed in another order. -/
def Manifest.Reordered (m m' : Manifest) : Prop :=
  ∃ us, List.Forall₂ SourceFile.Reordered m.units us ∧ us ~ m'.units

/-- The classes of a model with the file that declares each, file by file: what the extraction
visits. -/
def Manifest.classEntries (m : Manifest) : List (SourceFile × ClassDecl) :=
  m.units.flatMap fun u => u.classes.map (u, ·)

/-- What the extraction reads of an entry: the path of its file and its class. -/
def entryKey (x : SourceFile × ClassDecl) : String × ClassDecl := (x.1.path, x.2)

/-- An entry in an otherwise empty file at the given path. -/
def keyEntry (k : String × ClassDecl) : SourceFile × ClassDecl := (⟨k.1, [], [], []⟩, k.2)

namespace Manifest

variable {m m' : Manifest}

/-- Whatever a file gives that the reordering permutes, the reordered model gives a permutation
of, file by file. -/
theorem Reordered.flatMap_perm {β : Type} (hre : m.Reordered m') {f : SourceFile → List β}
    (hf : ∀ u u', u.Reordered u' → f u' ~ f u) :
    m'.units.flatMap f ~ m.units.flatMap f := by
  obtain ⟨us, hus, hperm⟩ := hre
  refine (hperm.symm.flatMap_right f).trans ?_
  clear hperm
  generalize m.units = l at hus ⊢
  induction hus with
  | nil => exact .nil
  | cons hu _ ih =>
    rw [List.flatMap_cons, List.flatMap_cons]
    exact (hf _ _ hu).append ih

theorem Reordered.classes (hre : m.Reordered m') : m'.classes ~ m.classes :=
  hre.flatMap_perm fun _ _ h => h.classes

theorem Reordered.enums (hre : m.Reordered m') : m'.enums ~ m.enums :=
  hre.flatMap_perm fun _ _ h => h.enums

theorem Reordered.modules (hre : m.Reordered m') :
    m'.units.flatMap (·.modules) ~ m.units.flatMap (·.modules) :=
  hre.flatMap_perm fun _ _ h => h.modules

theorem map_entryKey_classEntries (m : Manifest) :
    m.classEntries.map entryKey = m.units.flatMap fun u => u.classes.map (u.path, ·) := by
  simp [classEntries, List.map_flatMap, entryKey, Function.comp_def]

/-- The reordered model visits the same classes, in files at the same paths, in another order. -/
theorem Reordered.entryKeys (hre : m.Reordered m') :
    m'.classEntries.map entryKey ~ m.classEntries.map entryKey := by
  rw [map_entryKey_classEntries, map_entryKey_classEntries]
  refine hre.flatMap_perm fun u u' h => ?_
  rw [h.path]
  exact h.classes.map _

end Manifest

/-! ### Searches by name -/

/-- A search of a list for the member with a name that no other member has finds the same member
in every permutation of the list. -/
theorem find?_eq_of_perm {α : Type} {l l' : List α} (hp : l' ~ l) (g : α → String) (n : String)
    (hsub : ∀ x ∈ l, ∀ y ∈ l, g x = n → g y = n → x = y) :
    l'.find? (g · == n) = l.find? (g · == n) := by
  refine List.find?_eq_find?_of_perm hp fun x hx y hy => ?_
  exact hsub x (hp.subset hx.1) y (hp.subset hy.1) (beq_iff_eq.mp hx.2) (beq_iff_eq.mp hy.2)

/-- The members of a list of at most one member are equal. -/
theorem eq_of_mem_of_length_le_one {α : Type} {l : List α} (hl : l.length ≤ 1) {x y : α}
    (hx : x ∈ l) (hy : y ∈ l) : x = y := by
  rcases l with _ | ⟨z, _ | ⟨w, l⟩⟩
  · exact absurd hx List.not_mem_nil
  · rw [List.mem_singleton.mp hx, List.mem_singleton.mp hy]
  · simp at hl

theorem unique_of_nodup {α : Type} {l : List α} {g : α → String} (h : (l.map g).Nodup) :
    ∀ x ∈ l, ∀ y ∈ l, ∀ n : String, g x = n → g y = n → x = y :=
  fun _ hx _ hy _ hxn hyn => List.inj_on_of_nodup_map h hx hy (hxn.trans hyn.symm)

namespace Manifest

variable {m m' : Manifest}

section Names

variable (hre : m.Reordered m') (hnames : (m.classes.map (·.name) ++ m.enums.map (·.name)).Nodup)
include hre hnames

theorem findClass?_reordered (n : String) : m'.findClass? n = m.findClass? n :=
  find?_eq_of_perm hre.classes (·.name) n fun x hx y hy =>
    unique_of_nodup (List.nodup_append.mp hnames).1 x hx y hy n

theorem findEnum?_reordered (n : String) : m'.findEnum? n = m.findEnum? n :=
  find?_eq_of_perm hre.enums (·.name) n fun x hx y hy =>
    unique_of_nodup (List.nodup_append.mp hnames).2.1 x hx y hy n

theorem shapeOf_reordered (t : TypeExpr) : m'.shapeOf t = m.shapeOf t := by
  cases t with
  | named n args =>
    show m'.namedShape n args = m.namedShape n args
    unfold namedShape
    rw [findClass?_reordered hre hnames, findEnum?_reordered hre hnames]
  | tuple items => cases items <;> rfl
  | _ => rfl

omit hnames in
theorem size_reordered : m'.size = m.size := by
  have hsum {β : Type} {l l' : List β} (hp : l' ~ l) (f : β → Nat) :
      (l'.map f).foldr (· + ·) 0 = (l.map f).foldr (· + ·) 0 := by
    simpa only [List.sum_eq_foldr] using (hp.map f).sum_eq
  have hunits : m'.units.length = m.units.length := by
    obtain ⟨us, hus, hp⟩ := hre
    rw [← hp.length_eq, ← hus.length_eq]
  simp only [Manifest.size]
  rw [hsum hre.classes, hsum hre.enums, hunits]

end Names

/-- The module that lists a class listed by at most one module is found in every order. -/
theorem owningModule?_reordered (hre : m.Reordered m') {n : String}
    (hone : ((m.units.flatMap (·.modules)).filter (·.controllers.contains n)).length ≤ 1) :
    m'.owningModule? n = m.owningModule? n := by
  unfold owningModule?
  refine List.find?_eq_find?_of_perm hre.modules fun x hx y hy => ?_
  have hx' : x ∈ (m.units.flatMap (·.modules)).filter (·.controllers.contains n) :=
    List.mem_filter.mpr ⟨hre.modules.subset hx.1, hx.2⟩
  have hy' : y ∈ (m.units.flatMap (·.modules)).filter (·.controllers.contains n) :=
    List.mem_filter.mpr ⟨hre.modules.subset hy.1, hy.2⟩
  exact eq_of_mem_of_length_le_one hone hx' hy'

end Manifest

/-- The environment of the reordered model resolves every type as the model's does. -/
theorem sameView_reordered {m m' : Manifest} (hre : m.Reordered m')
    (hnames : (m.classes.map (·.name) ++ m.enums.map (·.name)).Nodup) (cfg : Config) :
    (cfg.resolverEnv m').SameView (cfg.resolverEnv m) :=
  ⟨Manifest.shapeOf_reordered hre hnames, Manifest.size_reordered hre, rfl, rfl⟩

/-! ### What the extraction reads of the classes it visits -/

section Congr

variable {env env' : ResolverEnv} (cls : Classifier) (h : PathHeuristic)

/-- The extraction reads of each entry only the path of its file and its class. -/
theorem controllersFrom_keys {xs ys : List (SourceFile × ClassDecl)}
    (hk : xs.map entryKey = ys.map entryKey) :
    controllersFrom env cls h xs = controllersFrom env cls h ys := by
  induction xs generalizing ys with
  | nil =>
    cases ys with
    | nil => rfl
    | cons _ _ => cases hk
  | cons x xs ih =>
    cases ys with
    | nil => cases hk
    | cons y ys =>
      obtain ⟨hxy, hrest⟩ := List.cons.inj hk
      obtain ⟨u, c⟩ := x
      obtain ⟨u', c'⟩ := y
      obtain ⟨hpath, rfl⟩ := Prod.mk.inj hxy
      rw [controllersFrom, controllersFrom, Resolver.categoryOf_path hpath, hpath, ih hrest]

theorem controllersFrom_keyEntry (xs : List (SourceFile × ClassDecl)) :
    controllersFrom env cls h xs = controllersFrom env cls h ((xs.map entryKey).map keyEntry) :=
  controllersFrom_keys cls h (by simp [entryKey, keyEntry, Function.comp_def])

/-- Environments that resolve alike, and find the same module for each controller, extract
alike. -/
theorem controllersFrom_congr_owners (hv : env.SameView env') {xs : List (SourceFile × ClassDecl)}
    (hmod : ∀ x ∈ xs, (controllerMark? cls x.2).isSome →
      env.model.owningModule? x.2.name = env'.model.owningModule? x.2.name) :
    controllersFrom env cls h xs = controllersFrom env' cls h xs := by
  induction xs with
  | nil => rfl
  | cons x xs ih =>
    have ih := ih fun y hy => hmod y (List.mem_cons_of_mem _ hy)
    obtain ⟨u, c⟩ := x
    rw [controllersFrom, controllersFrom]
    cases hm : controllerMark? cls c with
    | none => exact ih
    | some a =>
      have howner := hmod (u, c) List.mem_cons_self (by simp [hm])
      simp only [categoryOf, howner, routesOf, routesFrom_congr hv cls, ih]

end Congr

namespace Resolver

open ResolverState

variable {env : ResolverEnv}

/-! ### Two results that both fail or agree -/

/-- Two results of two extractions: both errors, or values related by `R`. -/
def BothAlike {ε α β : Type} (R : α → β → Prop) : Except ε α → Except ε β → Prop
  | .ok a, .ok b => R a b
  | .error _, .error _ => True
  | _, _ => False

namespace Matches

variable {α β γ δ ε : Type}

theorem both {R : α → β → Prop} {x : ResolveM (Except ε α)} {y : ResolveM (Except ε β)}
    (h : Matches env (ExceptAlike R) x y) : Matches env (BothAlike R) x y := by
  intro s₁ s₂ a b s₁' s₂' h₁ h₂ hx hy
  obtain ⟨h₁', h₂', hab⟩ := h s₁ s₂ a b s₁' s₂' h₁ h₂ hx hy
  refine ⟨h₁', h₂', ?_⟩
  cases a <;> cases b
  all_goals first | exact trivial | exact hab

theorem both_bind {R₁ : α → β → Prop} {S : γ → δ → Prop} {x : ExceptT ε ResolveM α}
    {y : ExceptT ε ResolveM β} {f : α → ExceptT ε ResolveM γ} {g : β → ExceptT ε ResolveM δ}
    (hx : Matches env (BothAlike R₁) x.run y.run)
    (hf : ∀ a b, R₁ a b → Matches env (BothAlike S) (f a).run (g b).run) :
    Matches env (BothAlike S) (x >>= f).run (y >>= g).run := by
  rw [ExceptT.run_bind, ExceptT.run_bind]
  refine hx.bind fun r₁ r₂ hr => ?_
  cases r₁ with
  | ok a =>
    cases r₂ with
    | ok b => exact hf a b hr
    | error e => exact hr.elim
  | error e₁ =>
    cases r₂ with
    | ok b => exact hr.elim
    | error e₂ => exact Matches.pure trivial

theorem both_map {R : α → β → Prop} {S : γ → δ → Prop} {x : ExceptT ε ResolveM α}
    {y : ExceptT ε ResolveM β} {f : α → γ} {g : β → δ} (h : Matches env (BothAlike R) x.run y.run)
    (hfg : ∀ a b, R a b → S (f a) (g b)) :
    Matches env (BothAlike S) (f <$> x).run (g <$> y).run := by
  rw [map_eq_pure_bind, map_eq_pure_bind]
  refine h.both_bind fun a b hab => ?_
  rw [ExceptT.run_pure, ExceptT.run_pure]
  exact Matches.pure (hfg a b hab)

/-- Two matches chain through a run in the middle that halts. -/
theorem trans {R : α → β → Prop} {R' : β → γ → Prop} {S : α → γ → Prop} {x : ResolveM α}
    {y : ResolveM β} {z : ResolveM γ} (hxy : Matches env R x y) (hyz : Matches env R' y z)
    (hy : Halts y) (hS : ∀ a b c, R a b → R' b c → S a c) : Matches env S x z := by
  intro s₁ s₃ a c s₁' s₃' h₁ h₃ hx hz
  obtain ⟨b, s₂', hy', -⟩ := hy s₁ h₁.unbound
  obtain ⟨h₁', -, hab⟩ := hxy s₁ s₁ a b s₁' s₂' h₁ h₁ hx hy'
  obtain ⟨-, h₃', hbc⟩ := hyz s₁ s₃ b c s₂' s₃' h₁ h₃ hy' hz
  exact ⟨h₁', h₃', hS a b c hab hbc⟩

end Matches

/-- A run of `x >>= f` that returns: `x` returned, and either `f` ran on its value or `x` failed
and the run stopped there. -/
theorem run_except_bind_eq_some {ε α β : Type} {x : ExceptT ε ResolveM α}
    {f : α → ExceptT ε ResolveM β} {s s'' : ResolverState} {r : Except ε β}
    (h : (x >>= f).run.run s = some (r, s'')) :
    ∃ rx s', x.run.run s = some (rx, s') ∧
      ((∃ a, rx = .ok a ∧ (f a).run.run s' = some (r, s'')) ∨
        (∃ e, rx = .error e ∧ r = .error e ∧ s'' = s')) := by
  rw [ExceptT.run_bind, StateT.run_bind] at h
  obtain ⟨⟨rx, s'⟩, hx, hf⟩ := Option.bind_eq_some_iff.mp h
  refine ⟨rx, s', hx, ?_⟩
  cases rx with
  | ok a => exact .inl ⟨a, rfl, hf⟩
  | error e =>
    cases hf
    exact .inr ⟨e, rfl, rfl, rfl⟩

/-- Two steps whose results do not depend on the state they start from, run in either order,
match: on each side the steps return results related as when run alone, and a failure of either
stops both sides. -/
theorem Matches.both_swap {α β γ δ ε : Type} {Ra : α → α → Prop} {Rb : β → β → Prop}
    {S : γ → δ → Prop} {a : ExceptT ε ResolveM α} {b : ExceptT ε ResolveM β}
    {f : α → β → ExceptT ε ResolveM γ} {g : β → α → ExceptT ε ResolveM δ}
    (ha : Matches env (BothAlike Ra) a.run a.run) (hb : Matches env (BothAlike Rb) b.run b.run)
    (hfg : ∀ u u' v v', Ra u u' → Rb v v' → Matches env (BothAlike S) (f u v).run (g v' u').run) :
    Matches env (BothAlike S) (a >>= fun u => b >>= f u).run (b >>= fun v => a >>= g v).run := by
  intro s₁ s₂ r r' s₁' s₂' h₁ h₂ hl hr
  obtain ⟨ra, s₁a, hra, hl⟩ := run_except_bind_eq_some hl
  obtain ⟨rb', s₂b, hrb', hr⟩ := run_except_bind_eq_some hr
  obtain ⟨h₁a, -, -⟩ := ha s₁ s₁ _ _ _ _ h₁ h₁ hra hra
  obtain ⟨-, h₂b, -⟩ := hb s₂ s₂ _ _ _ _ h₂ h₂ hrb' hrb'
  rcases hl with ⟨u, rfl, hl⟩ | ⟨e, rfl, rfl, rfl⟩
  · -- the left side runs `b` next, from where `a` left it
    obtain ⟨rb, s₁b, hrb, hl⟩ := run_except_bind_eq_some hl
    obtain ⟨h₁b, -, hb'⟩ := hb s₁a s₂ _ _ _ _ h₁a h₂ hrb hrb'
    rcases hl with ⟨v, rfl, hl⟩ | ⟨e, rfl, rfl, rfl⟩
    · rcases hr with ⟨v', rfl, hr⟩ | ⟨e', rfl, -, -⟩
      · obtain ⟨ra', s₂a, hra', hr⟩ := run_except_bind_eq_some hr
        obtain ⟨-, h₂a, ha'⟩ := ha s₁ s₂b _ _ _ _ h₁ h₂b hra hra'
        rcases hr with ⟨u', rfl, hr⟩ | ⟨e', rfl, -, -⟩
        · exact hfg u u' v v' ha' hb' s₁b s₂a r r' s₁' s₂' h₁b h₂a hl hr
        · exact ha'.elim
      · exact hb'.elim
    · rcases hr with ⟨v', rfl, -⟩ | ⟨e', rfl, rfl, rfl⟩
      · exact hb'.elim
      · exact ⟨h₁b, h₂b, trivial⟩
  · -- the left side stopped at `a`; the right side stops there too, or at `b`
    rcases hr with ⟨v', rfl, hr⟩ | ⟨e', rfl, rfl, rfl⟩
    · obtain ⟨ra', s₂a, hra', hr⟩ := run_except_bind_eq_some hr
      obtain ⟨-, h₂a, ha'⟩ := ha s₁ s₂b _ _ _ _ h₁ h₂b hra hra'
      rcases hr with ⟨u', rfl, -⟩ | ⟨e', rfl, rfl, rfl⟩
      · exact ha'.elim
      · exact ⟨h₁a, h₂a, trivial⟩
    · exact ⟨h₁a, h₂b, trivial⟩

/-! ### The extraction, class by class -/

/-- The controller one class gives, if any; a skipped class leaves its warning, and the category
heuristic's fault stops the extraction. -/
def classStep (env : ResolverEnv) (cls : Classifier) (h : PathHeuristic) :
    SourceFile × ClassDecl → ScanM (Option ControllerDescriptor)
  | (u, c) =>
    match controllerMark? cls c with
    | none => pure none
    | some a =>
      match literalPath a with
      | .error e => do
        skipController ⟨c.name, "non-literal base path argument: " ++ e⟩
        pure none
      | .ok basePath =>
        match categoryOf env.model h u c with
        | .error f => throw f
        | .ok category => do
          match ← (routesOf env cls c).run with
          | .error e =>
            skipController e
            pure none
          | .ok routes =>
            pure (some { name := c.name, basePath, sourcePath := u.path, category,
                         version := inferVersion u.path, docs := c.docs, routes,
                         guards := guardArguments cls c.annotations })

/-- The extraction is its class steps in order. -/
theorem controllersFrom_cons (cls : Classifier) (h : PathHeuristic)
    (x : SourceFile × ClassDecl) (rest : List (SourceFile × ClassDecl)) :
    controllersFrom env cls h (x :: rest) =
      classStep env cls h x >>= fun o => (o.toList ++ ·) <$> controllersFrom env cls h rest := by
  obtain ⟨u, c⟩ := x
  rw [controllersFrom, classStep]
  cases controllerMark? cls c with
  | none => simp
  | some a =>
    dsimp only
    cases literalPath a with
    | error e => simp
    | ok basePath =>
      dsimp only
      cases categoryOf env.model h u c with
      | error f => simp
      | ok category =>
        simp only [bind_assoc]
        congr 1
        funext r
        cases r <;> simp

/-- Two lists of controllers that are permutations of each other once folded, whose named types
satisfy `C`. -/
structure PermAlike (C : String → Descriptor → Prop) (cs₁ cs₂ : List ControllerDescriptor) :
    Prop where
  perm : cs₁.map ControllerDescriptor.fold ~ cs₂.map ControllerDescriptor.fold
  left : ∀ c ∈ cs₁, c.NodesIn C
  right : ∀ c ∈ cs₂, c.NodesIn C

namespace PermAlike

variable {C : String → Descriptor → Prop} {xs xs' ys ys' zs zs' : List ControllerDescriptor}

theorem of_alike (h : ControllersAlike C xs ys) : PermAlike C xs ys :=
  ⟨h.fold_eq ▸ List.Perm.refl _, h.left, h.right⟩

theorem append (hx : ControllersAlike C xs xs') (h : PermAlike C ys ys') :
    PermAlike C (xs ++ ys) (xs' ++ ys') where
  perm := by
    rw [List.map_append, List.map_append, hx.fold_eq]
    exact h.perm.append_left _
  left c hc := (List.mem_append.mp hc).elim (hx.left c) (h.left c)
  right c hc := (List.mem_append.mp hc).elim (hx.right c) (h.right c)

/-- Two controllers' worth of steps, in either order. -/
theorem swap (hx : ControllersAlike C xs xs') (hy : ControllersAlike C ys ys')
    (h : PermAlike C zs zs') : PermAlike C (xs ++ (ys ++ zs)) (ys' ++ (xs' ++ zs')) := by
  have h₁ := append hx (append hy h)
  refine ⟨h₁.perm.trans ?_, h₁.left, fun c hc => ?_⟩
  · simp only [List.map_append]
    exact List.perm_append_comm_assoc _ _ _
  · rcases List.mem_append.mp hc with hc | hc
    · exact hy.right c hc
    · rcases List.mem_append.mp hc with hc | hc
      · exact hx.right c hc
      · exact h.right c hc

theorem trans (h : PermAlike C xs ys) (h' : PermAlike C ys zs) : PermAlike C xs zs :=
  ⟨h.perm.trans h'.perm, h.left, h'.right⟩

end PermAlike

theorem bothAlike_trans {C : String → Descriptor → Prop} {ε : Type}
    {a b c : Except ε (List ControllerDescriptor)} (hab : BothAlike (PermAlike C) a b)
    (hbc : BothAlike (PermAlike C) b c) : BothAlike (PermAlike C) a c := by
  cases a <;> cases b <;> cases c
  all_goals first | exact trivial | exact hab.elim | exact hbc.elim | exact hab.trans hbc

section Settled

variable (hs : env.model.Settled) (cls : Classifier) (h : PathHeuristic)
include hs

/-- One class extracted from two ready states gives the same controller once folded, if any. -/
theorem matches_classStep (x : SourceFile × ClassDecl) :
    Matches env (ExceptAlike fun o₁ o₂ : Option ControllerDescriptor =>
        ControllersAlike (Canonical env) o₁.toList o₂.toList)
      (classStep env cls h x).run (classStep env cls h x).run := by
  obtain ⟨u, c⟩ := x
  rw [classStep]
  cases controllerMark? cls c with
  | none => exact Matches.except_pure ListsAlike.nil
  | some a =>
    dsimp only
    cases literalPath a with
    | error e => exact (matches_warn _).lift.except_bind fun _ _ _ => Matches.except_pure ListsAlike.nil
    | ok basePath =>
      dsimp only
      cases categoryOf env.model h u c with
      | error f => exact Matches.throw f
      | ok category =>
        dsimp only
        refine (matches_routesFrom hs cls c _ c.methods).lift.except_bind fun r₁ r₂ hr => ?_
        cases r₁ with
        | error e₁ =>
          cases r₂ with
          | error e₂ =>
            cases hr
            exact (matches_warn _).lift.except_bind fun _ _ _ => Matches.except_pure ListsAlike.nil
          | ok _ => exact hr.elim
        | ok routes₁ =>
          cases r₂ with
          | error _ => exact hr.elim
          | ok routes₂ =>
            have hr : RoutesAlike (Canonical env) routes₁ routes₂ := hr
            refine Matches.except_pure (ListsAlike.nil.cons ?_ hr.left hr.right)
            simp only [ControllerDescriptor.fold, hr.fold_eq]

/-- The same classes extracted from two ready states. -/
theorem matches_controllersFrom_self (xs : List (SourceFile × ClassDecl)) :
    Matches env (BothAlike (PermAlike (Canonical env)))
      (controllersFrom env cls h xs).run (controllersFrom env cls h xs).run := by
  have hm : Matches env (ExceptAlike (ControllersAlike (Canonical env)))
      (controllersFrom env cls h xs).run (controllersFrom env cls h xs).run := by
    induction xs with
    | nil =>
      rw [controllersFrom]
      exact Matches.except_pure ListsAlike.nil
    | cons x xs ih => exact matches_controllersFrom_cons hs cls h rfl x.2 ih
  exact Matches.both fun s₁ s₂ a b s₁' s₂' h₁ h₂ hx hy => by
    obtain ⟨h₁', h₂', hab⟩ := hm s₁ s₂ a b s₁' s₂' h₁ h₂ hx hy
    refine ⟨h₁', h₂', ?_⟩
    cases a <;> cases b
    all_goals first | exact hab | exact PermAlike.of_alike hab

/-- Two orders of the same classes, extracted from two ready states, both fail or give
controllers that are permutations of each other once folded. -/
theorem matches_controllersFrom_perm {xs ys : List (SourceFile × ClassDecl)} (hp : xs ~ ys) :
    Matches env (BothAlike (PermAlike (Canonical env)))
      (controllersFrom env cls h xs).run (controllersFrom env cls h ys).run := by
  induction hp with
  | nil => exact matches_controllersFrom_self hs cls h []
  | cons x _ ih =>
    rw [controllersFrom_cons, controllersFrom_cons]
    exact (matches_classStep hs cls h x).both.both_bind fun o₁ o₂ ho =>
      ih.both_map fun _ _ ht => PermAlike.append ho ht
  | swap x y l =>
    -- each side runs the two class steps, then the rest; the steps commute
    simp only [controllersFrom_cons, map_bind, Functor.map_map]
    exact Matches.both_swap (matches_classStep hs cls h y).both (matches_classStep hs cls h x).both
      fun _ _ _ _ hy hx => (matches_controllersFrom_self hs cls h l).both_map
        fun _ _ ht => PermAlike.swap hy hx ht
  | trans _ _ ih₁ ih₂ =>
    exact ih₁.trans ih₂ (halts_controllersFrom hs.noTypeParams cls h _)
      fun _ _ _ => bothAlike_trans

end Settled

/-! ### Reordered models -/

variable {m m' : Manifest}

/-- The extraction of the reordered model is the model's extraction, over the reordered model's
classes. -/
theorem extractControllers_reordered (hre : m.Reordered m')
    (hnames : (m.classes.map (·.name) ++ m.enums.map (·.name)).Nodup) (cfg : Config)
    (howner : ∀ c ∈ m.classes, (controllerMark? cfg.classifier c).isSome →
      ((m.units.flatMap (·.modules)).filter (·.controllers.contains c.name)).length ≤ 1) :
    extractControllers (cfg.resolverEnv m') cfg.classifier cfg.pathHeuristic =
      controllersFrom (cfg.resolverEnv m) cfg.classifier cfg.pathHeuristic m'.classEntries := by
  refine controllersFrom_congr_owners cfg.classifier cfg.pathHeuristic
    (sameView_reordered hre hnames cfg) fun x hx hmark => ?_
  -- an entry of the reordered model is a class of the model
  have hc : x.2 ∈ m.classes := by
    obtain ⟨u, hu, hx⟩ := List.mem_flatMap.mp hx
    obtain ⟨c, hc, rfl⟩ := List.mem_map.mp hx
    exact hre.classes.subset (List.mem_flatMap.mpr ⟨u, hu, hc⟩)
  exact Manifest.owningModule?_reordered hre (howner x.2 hc hmark)

/-- The extractions of a settled model and of the model reordered, from two ready states, both
fail or give controllers that are permutations of each other once folded. -/
theorem matches_reordered (hs : m.Settled) (hre : m.Reordered m')
    (hnames : (m.classes.map (·.name) ++ m.enums.map (·.name)).Nodup) (cfg : Config)
    (howner : ∀ c ∈ m.classes, (controllerMark? cfg.classifier c).isSome →
      ((m.units.flatMap (·.modules)).filter (·.controllers.contains c.name)).length ≤ 1) :
    Matches (cfg.resolverEnv m) (BothAlike (PermAlike (Canonical (cfg.resolverEnv m))))
      (extractControllers (cfg.resolverEnv m') cfg.classifier cfg.pathHeuristic).run
      (extractControllers (cfg.resolverEnv m) cfg.classifier cfg.pathHeuristic).run := by
  rw [extractControllers_reordered hre hnames cfg howner]
  show Matches _ _ (controllersFrom _ _ _ m'.classEntries).run
    (controllersFrom _ _ _ m.classEntries).run
  rw [controllersFrom_keyEntry _ _ m'.classEntries, controllersFrom_keyEntry _ _ m.classEntries]
  exact matches_controllersFrom_perm hs cfg.classifier cfg.pathHeuristic
    (hre.entryKeys.map keyEntry)

end Resolver

end ApiSpec
