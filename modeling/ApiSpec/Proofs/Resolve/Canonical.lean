import ApiSpec.Proofs.Resolve.History

/-!
# One description for each named type

A named type is described afresh the first time the resolver meets it, recorded, and taken from
the arena ever after; what it is described as depends on what was resolved before it only
through the named types inside it, which may come from the arena or be cut short by the cycle
guard. In a settled model (`Manifest.Settled`: no enumeration with payloads, no type parameter,
and no `<` in a declared name) every description of an identity is one fresh resolution of the
same properties, so any two of them agree once the named types inside them are folded.

* `Resolver.Canonical env k e`: `e` is a fresh description of the identity `k`: the properties
  of a class resolved from a state that binds nothing, or an enumeration of values.
* `Resolver.Resolves.canonical`: a resolution keeps every recorded named type canonical, and
  every named type inside its result is canonical; by induction on the derivation, one case per
  rule.
* `Resolver.canonical_coherent`: in a settled model two canonical descriptions of one identity
  agree up to folding inside (`Descriptor.foldIn`). The text of a named type tells its
  declaration, so both describe the same properties, and `Resolves.fold_eq` compares the two
  resolutions.
-/

namespace ApiSpec

/-- A model whose named types each have one description, whatever was resolved before them: no
enumeration carries payloads, no class declares type parameters, and no declared name has a `<`
in it, so the text of a named type tells which declaration it names. -/
structure Manifest.Settled (m : Manifest) : Prop where
  noPayloads : ∀ e ∈ m.enums, e.members = []
  noTypeParams : ∀ c ∈ m.classes, c.typeParams = []
  plainNames : ∀ n ∈ m.classes.map (·.name) ++ m.enums.map (·.name), '<' ∉ n.toList

instance (m : Manifest) : Decidable m.Settled :=
  decidable_of_iff ((∀ e ∈ m.enums, e.members = []) ∧ (∀ c ∈ m.classes, c.typeParams = []) ∧
      ∀ n ∈ m.classes.map (·.name) ++ m.enums.map (·.name), '<' ∉ n.toList)
    ⟨fun h => ⟨h.1, h.2.1, h.2.2⟩, fun h => ⟨h.1, h.2, h.3⟩⟩

namespace Descriptor

/-- A descriptor with the named types inside it folded: what two descriptions of one named type
have in common. -/
def foldIn : Descriptor → Descriptor
  | .object n fs => .object n (foldFields fs)
  | d => d

mutual

/-- Every named object and named enumeration in the descriptor, at any depth, satisfies `C` at
its name. -/
def NodesIn (C : String → Descriptor → Prop) : Descriptor → Prop
  | .object (some n) fs => C n (.object (some n) fs) ∧ FieldsIn C fs
  | .object none fs => FieldsIn C fs
  | .enumeration (some n) vs => C n (.enumeration (some n) vs)
  | .array e => NodesIn C e
  | _ => True

/-- Every named type in the types of the fields satisfies `C` at its name. -/
def FieldsIn (C : String → Descriptor → Prop) : List Field → Prop
  | [] => True
  | f :: fs => NodesIn C f.type ∧ FieldsIn C fs

end

variable {C : String → Descriptor → Prop}

@[simp] theorem nodesIn_array (e : Descriptor) : (Descriptor.array e).NodesIn C ↔ e.NodesIn C :=
  Iff.rfl

@[simp] theorem nodesIn_objectNone (fs : List Field) :
    (Descriptor.object none fs).NodesIn C ↔ FieldsIn C fs :=
  Iff.rfl

theorem nodesIn_getD {d : Option Descriptor} {d₀ : Descriptor} (h₀ : d₀.NodesIn C)
    (h : ∀ x ∈ d, x.NodesIn C) : (d.getD d₀).NodesIn C := by
  cases d with
  | none => exact h₀
  | some x => exact h x rfl

theorem nodesIn_of_ofPrimitiveName? {n : String} {d : Descriptor}
    (h : d ∈ ofPrimitiveName? n) : d.NodesIn C := by
  obtain ⟨⟨k, f⟩, -, rfl⟩ := Option.map_eq_some_iff.mp h
  exact trivial

end Descriptor

open Descriptor

/-! ### The declaration a named type names -/

namespace TypeExpr

/-- Before its first `<`, the text of a named type is its head. -/
theorem takeWhile_display {n : String} (hn : '<' ∉ n.toList) (args : List TypeExpr) :
    (TypeExpr.named n args).display.toList.takeWhile (· != '<') = n.toList := by
  have hall : ∀ c ∈ n.toList, (c != '<') = true := fun c hc => by
    rw [bne_iff_ne]
    rintro rfl
    exact hn hc
  cases args with
  | nil =>
    show n.toList.takeWhile _ = _
    simpa using @List.takeWhile_append_of_pos _ _ n.toList [] hall
  | cons a as =>
    show (n ++ "<" ++ displayList ", " (a :: as) ++ ">").toList.takeWhile _ = _
    rw [String.toList_append, String.toList_append, String.toList_append, List.append_assoc,
      List.append_assoc, List.takeWhile_append_of_pos hall]
    simp

theorem lt_mem_display {n : String} {a : TypeExpr} {as : List TypeExpr} :
    '<' ∈ (TypeExpr.named n (a :: as)).display.toList := by
  show '<' ∈ (n ++ "<" ++ displayList ", " (a :: as) ++ ">").toList
  simp

end TypeExpr

namespace Manifest

variable {m : Manifest}

/-- A class shape is the shape of a class of the model, found by its name, at some arguments. -/
theorem shapeOf_eq_object_some_iff {t : TypeExpr} {c : String} {b : List (String × TypeExpr)}
    {ps : List PropertyDecl} (h : m.shapeOf t = .object (some c) b ps) :
    ∃ cl args, t = .named cl.name args ∧ m.findClass? cl.name = some cl ∧ cl ∈ m.classes ∧
      ps = cl.properties ∧ b = cl.typeParams.zip args := by
  cases t with
  | named name args =>
    simp only [shapeOf, namedShape] at h
    split at h
    next sh hb => cases h ▸ builtinShape?_name? hb
    next =>
      split at h
      next cl hcl =>
        cases h
        have hname : cl.name = name := by simpa using List.find?_some hcl
        subst hname
        exact ⟨cl, args, rfl, hcl, List.mem_of_find?_eq_some hcl, rfl, rfl⟩
      next =>
        split at h
        next e _ => split at h <;> cases h
        next => split at h <;> cases h
  | tuple items => cases items <;> cases h
  | _ => cases h

/-- A named enumeration shape is the shape of an enumeration of the model, by its own name, that
no class shadows. -/
theorem shapeOf_eq_enumeration_some {t : TypeExpr} {k : String} {vs : List String}
    (h : m.shapeOf t = .enumeration (some k) vs) :
    ∃ e args, t = .named k args ∧ m.findClass? k = none ∧ e ∈ m.enums ∧ e.name = k ∧
      m.findEnum? k = some e ∧ vs = e.values := by
  cases t with
  | named name args =>
    simp only [shapeOf, namedShape] at h
    split at h
    next sh hb => cases h ▸ builtinShape?_name? hb
    next =>
      split at h
      next => cases h
      next hcl =>
        split at h
        next e he =>
          split at h
          next =>
            cases h
            have hname : e.name = name := by simpa using List.find?_some he
            subst hname
            exact ⟨e, args, rfl, hcl, List.mem_of_find?_eq_some he, rfl, he, rfl⟩
          next => cases h
        next => split at h <;> cases h
  | tuple items => cases items <;> cases h
  | _ => cases h

variable (hs : m.Settled)
include hs

theorem Settled.class_plain {cl : ClassDecl} (hcl : cl ∈ m.classes) : '<' ∉ cl.name.toList :=
  hs.plainNames _ (List.mem_append_left _ (List.mem_map_of_mem hcl))

theorem Settled.enum_plain {e : EnumDecl} (he : e ∈ m.enums) : '<' ∉ e.name.toList :=
  hs.plainNames _ (List.mem_append_right _ (List.mem_map_of_mem he))

/-- Two class shapes of types with one text describe the same properties, bound to nothing. -/
theorem Settled.props_eq {t₁ t₂ : TypeExpr} {c₁ c₂ : String} {b₁ b₂ : List (String × TypeExpr)}
    {ps₁ ps₂ : List PropertyDecl} (h₁ : m.shapeOf t₁ = .object (some c₁) b₁ ps₁)
    (h₂ : m.shapeOf t₂ = .object (some c₂) b₂ ps₂) (hd : t₁.display = t₂.display) :
    ps₁ = ps₂ := by
  obtain ⟨cl₁, args₁, rfl, hf₁, hm₁, rfl, -⟩ := shapeOf_eq_object_some_iff h₁
  obtain ⟨cl₂, args₂, rfl, hf₂, hm₂, rfl, -⟩ := shapeOf_eq_object_some_iff h₂
  -- the heads are the texts before the first `<`
  have hname : cl₁.name = cl₂.name := by
    rw [← String.toList_inj, ← TypeExpr.takeWhile_display (hs.class_plain hm₁) args₁,
      ← TypeExpr.takeWhile_display (hs.class_plain hm₂) args₂, hd]
  rw [hname, hf₂] at hf₁
  cases hf₁
  rfl

/-- No class shape has the text of an enumeration's name: the class would shadow the
enumeration, or the text would have a `<`. -/
theorem Settled.not_object_enumeration {t₁ t₂ : TypeExpr} {c : String}
    {b : List (String × TypeExpr)} {ps : List PropertyDecl} {vs : List String}
    (h₁ : m.shapeOf t₁ = .object (some c) b ps)
    (h₂ : m.shapeOf t₂ = .enumeration (some t₁.display) vs) : False := by
  obtain ⟨cl, args, rfl, hf, -, -, -⟩ := shapeOf_eq_object_some_iff h₁
  obtain ⟨e, -, -, hnone, he, hname, -, -⟩ := shapeOf_eq_enumeration_some h₂
  cases args with
  | nil => simp [TypeExpr.display, hf] at hnone
  | cons a as => exact hs.enum_plain he (hname ▸ TypeExpr.lt_mem_display)

end Manifest

/-! ### Canonical descriptions -/

namespace Resolver

open ResolverState

variable (env : ResolverEnv)

/-- `Canonical env k e`: `e` describes the identity `k` afresh: a class whose properties were
resolved from a state that binds nothing and records its named types under their names, or an
enumeration of values. -/
inductive Canonical : String → Descriptor → Prop
  | object {t c ps s fs s'} : env.model.shapeOf t = .object (some c) [] ps → Fields env ps s fs s' →
      s.ArenaNamed → s.Unbound → Canonical t.display (.object (some t.display) fs)
  | enumeration {t n vs} : env.model.shapeOf t = .enumeration (some n) vs →
      Canonical n (.enumeration (some n) vs)

variable {env}

theorem Canonical.cases {k : String} {e : Descriptor} (h : Canonical env k e) :
    (∃ t c ps s fs s', env.model.shapeOf t = .object (some c) [] ps ∧ s.ArenaNamed ∧
      s.Unbound ∧ Fields env ps s fs s' ∧ k = t.display ∧ e = .object (some k) fs) ∨
    ∃ t vs, env.model.shapeOf t = .enumeration (some k) vs ∧ e = .enumeration (some k) vs := by
  cases h with
  | object hs hf ha hu => exact .inl ⟨_, _, _, _, _, _, hs, ha, hu, hf, rfl, rfl⟩
  | enumeration hs => exact .inr ⟨_, _, hs, rfl⟩

/-- A canonical description is recorded under its own name. -/
theorem Canonical.fold_eq {k : String} {e : Descriptor} (h : Canonical env k e) :
    e.fold = .reference k := by
  cases h <;> rfl

theorem rewrite_eq_of_unbound {s₁ s₂ : ResolverState} (h₁ : s₁.Unbound) (h₂ : s₂.Unbound) :
    s₂.rewrite = s₁.rewrite := by
  funext t
  rw [rewrite_of_unbound h₁, rewrite_of_unbound h₂]

/-- In a settled model, two canonical descriptions of one identity agree once the named types
inside them are folded. -/
theorem canonical_coherent (hs : env.model.Settled) {k : String} {e₁ e₂ : Descriptor}
    (h₁ : Canonical env k e₁) (h₂ : Canonical env k e₂) : e₁.foldIn = e₂.foldIn := by
  have hm := not_isPayloadEnum hs.noPayloads
  rcases h₁.cases with ⟨t₁, c₁, ps₁, s₁, fs₁, s₁', hs₁, ha₁, hu₁, hf₁, rfl, rfl⟩ |
    ⟨t₁, vs₁, hs₁, rfl⟩ <;>
  rcases h₂.cases with ⟨t₂, c₂, ps₂, s₂, fs₂, s₂', hs₂, ha₂, hu₂, hf₂, hk, rfl⟩ |
    ⟨t₂, vs₂, hs₂, rfl⟩
  · -- one class, resolved twice from states that bind nothing
    rw [hs.props_eq hs₁ hs₂ hk] at hf₁
    simp only [foldIn, Fields.fold_eq hm hf₁ hf₂ ha₁ ha₂ (rewrite_eq_of_unbound hu₁ hu₂)]
  · exact (hs.not_object_enumeration hs₁ hs₂).elim
  · exact (hs.not_object_enumeration hs₂ (hk ▸ hs₁)).elim
  · obtain ⟨e₁, -, -, -, -, -, hf₁, rfl⟩ := Manifest.shapeOf_eq_enumeration_some hs₁
    obtain ⟨e₂, -, -, -, -, -, hf₂, rfl⟩ := Manifest.shapeOf_eq_enumeration_some hs₂
    rw [hf₁] at hf₂
    cases hf₂
    rfl

end Resolver

/-! ### Resolutions keep the arena canonical -/

namespace ResolverState

open Resolver

/-- Every recorded named type is a canonical description of its identity, and so is every named
type inside it. -/
def ArenaCanonical (env : ResolverEnv) (s : ResolverState) : Prop :=
  ∀ e ∈ s.arena.entries, Canonical env e.1 e.2 ∧ e.2.NodesIn (Canonical env)

variable {env : ResolverEnv} {s s₁ : ResolverState}

theorem ArenaCanonical.of_arena (h : s.ArenaCanonical env) (ha : s₁.arena = s.arena) :
    s₁.ArenaCanonical env := by
  unfold ArenaCanonical
  rw [ha]
  exact h

theorem ArenaCanonical.record {k : String} {d : Descriptor} (h : s.ArenaCanonical env)
    (hk : Canonical env k d) (hd : d.NodesIn (Canonical env)) : (s.record k d).ArenaCanonical env := by
  intro e he
  rcases Arena.mem_entries_insert he with rfl | he
  · exact ⟨hk, hd⟩
  · exact h e he

/-- Binding the arguments of no parameters binds nothing. -/
theorem Unbound.withScope_map {β : Type} {f : β → String × TypeExpr} {b : List β}
    (h : s.Unbound) (hb : b = []) : (s.withScope (b.map f)).Unbound := by
  intro sc hsc
  rcases List.mem_cons.mp hsc with rfl | hsc
  · rw [hb, List.map_nil]
  · exact h sc hsc

theorem ArenaCanonical.get? (h : s.ArenaCanonical env) {k : String} {d : Descriptor}
    (hd : s.arena.get? k = some d) : Canonical env k d ∧ d.NodesIn (Canonical env) :=
  h _ (Arena.mem_entries_of_get? hd)

end ResolverState

namespace Resolver

open ResolverState

variable {env : ResolverEnv}

theorem mem_notOwner {o : Option String} {d : Option Descriptor} {x : Descriptor}
    (h : x ∈ notOwner o d) : x ∈ d := by
  unfold notOwner at h
  split at h
  · split at h
    · cases h
    · exact h
  · exact h

mutual

theorem Resolves.canonical (hm : ∀ id, ¬ env.model.IsPayloadEnum id)
    (hng : ∀ c ∈ env.model.classes, c.typeParams = []) {t : TypeExpr} {s : ResolverState} {r : Option Descriptor}
    {s' : ResolverState} : Resolves env t s r s' → s.ArenaNamed → s.Unbound →
      s.ArenaCanonical env → s'.ArenaCanonical env ∧ ∀ d ∈ r, d.NodesIn (Canonical env)
  | .void _, _, _, hc | .null _, _, _, hc | .bareWrapper _ _, _, _, hc | .generic _ _, _, _, hc
  | .emptyObject _, _, _, hc | .unknown _, _, _, hc => ⟨hc, fun _ h => absurd h (Option.not_mem_none _)⟩
  | .primitive _, _, _, hc => ⟨hc, fun _ hd => nodesIn_of_ofPrimitiveName? hd⟩
  | .array _ hd, ha, hu, hc => by
    obtain ⟨hc', hnd⟩ := Resolves.canonical hm hng hd ha hu hc
    refine ⟨hc', ?_⟩
    rintro _ ⟨⟩
    exact nodesIn_getD trivial hnd
  | .enumeration (n := n) hs, _, _, hc => by
    cases n with
    | none => exact ⟨hc, by rintro _ ⟨⟩; exact trivial⟩
    | some k =>
      have hk : Canonical env k (.enumeration (some k) _) := Canonical.enumeration hs
      refine ⟨hc.record hk hk, ?_⟩
      rintro _ ⟨⟩
      exact hk
  | .namedUnion hs _, _, _, _ => absurd (Manifest.isPayloadEnum_of_shapeOf hs) (hm _)
  | .union _ hn, ha, hu, hc => Narrows.canonical hm hng hn ha hu hc
  | .wrapper _ _ hd, ha, hu, hc => Resolves.canonical hm hng hd ha hu hc
  | .namedObject (t := t) (c := c) hs ho, ha, hu, hc => by
    -- a class without type parameters binds nothing
    obtain ⟨cl, args, -, -, hcl, -, hb⟩ := Manifest.shapeOf_eq_object_some_iff hs
    rw [hng cl hcl, List.zip_nil_left] at hb
    exact NamedObject.canonical hm hng ho hb ⟨_, c, hb ▸ hs, rfl⟩ ha hu hc
  | .inlineObject _ hf, ha, hu, hc => by
    obtain ⟨hc', hfs⟩ := Fields.canonical hm hng hf ha hu hc
    refine ⟨hc', ?_⟩
    rintro _ ⟨⟩
    exact hfs

theorem Fields.canonical (hm : ∀ id, ¬ env.model.IsPayloadEnum id)
    (hng : ∀ c ∈ env.model.classes, c.typeParams = []) {ps : List PropertyDecl} {s : ResolverState} {fs : List Field}
    {s' : ResolverState} : Fields env ps s fs s' → s.ArenaNamed → s.Unbound →
      s.ArenaCanonical env → s'.ArenaCanonical env ∧ FieldsIn (Canonical env) fs
  | .nil, _, _, hc => ⟨hc, trivial⟩
  | .cons hd hfs, ha, hu, hc => by
    -- the first property keeps its named types under their names and binds nothing
    obtain ⟨hc₁, hnd⟩ := Resolves.canonical hm hng hd ha hu hc
    have k := Resolves.steady hm hd
    obtain ⟨hc₂, hnfs⟩ := Fields.canonical hm hng hfs (k.arenaNamed ha) (hu.of_scopes k.scopes_eq) hc₁
    exact ⟨hc₂, nodesIn_getD trivial hnd, hnfs⟩

theorem NamedObject.canonical (hm : ∀ id, ¬ env.model.IsPayloadEnum id)
    (hng : ∀ c ∈ env.model.classes, c.typeParams = []) {id : String} {b : List (String × TypeExpr)}
    {ps : List PropertyDecl} {s : ResolverState} {r : Option Descriptor} {s' : ResolverState} :
    NamedObject env id b ps s r s' → b = [] →
      (∃ t c, env.model.shapeOf t = .object (some c) [] ps ∧ t.display = id) →
      s.ArenaNamed → s.Unbound → s.ArenaCanonical env →
      s'.ArenaCanonical env ∧ ∀ d ∈ r, d.NodesIn (Canonical env)
  | .memo hd, _, _, _, _, hc => by
    refine ⟨hc, ?_⟩
    rintro _ ⟨⟩
    exact (hc.get? hd).2
  | .cycle _ _, _, _, _, _, hc => ⟨hc.of_arena rfl, by rintro _ ⟨⟩; exact trivial⟩
  | .fresh _ _ hf, hb, ⟨t, c, hsh, hid⟩, ha, hu, hc => by
    -- the properties are resolved with the class entered and nothing bound
    obtain ⟨hc₁, hfs⟩ := Fields.canonical hm hng hf (ha.of_arena rfl)
      (hu.enter.withScope_map hb) (hc.of_arena rfl)
    subst hb hid
    have hk := Canonical.object hsh hf (ha.of_arena rfl) (hu.enter.withScope_map rfl)
    refine ⟨(hc₁.of_arena rfl).record hk ⟨hk, hfs⟩, ?_⟩
    rintro _ ⟨⟩
    exact ⟨hk, hfs⟩

theorem Narrows.canonical (hm : ∀ id, ¬ env.model.IsPayloadEnum id)
    (hng : ∀ c ∈ env.model.classes, c.typeParams = []) {ms : List TypeExpr} {o : Option String} {s : ResolverState}
    {r : Option Descriptor} {s' : ResolverState} : Narrows env ms o s r s' → s.ArenaNamed →
      s.Unbound → s.ArenaCanonical env → s'.ArenaCanonical env ∧ ∀ d ∈ r, d.NodesIn (Canonical env)
  | .single _ hd, ha, hu, hc => by
    obtain ⟨hc', hnd⟩ := Resolves.canonical hm hng hd ha hu hc
    exact ⟨hc', fun x hx => hnd x (mem_notOwner hx)⟩
  | .several _ hw, ha, hu, hc => FirstWinning.canonical hm hng hw ha hu hc

theorem FirstWinning.canonical (hm : ∀ id, ¬ env.model.IsPayloadEnum id)
    (hng : ∀ c ∈ env.model.classes, c.typeParams = []) {o : Option String} {ms : List TypeExpr} {s : ResolverState}
    {r : Option Descriptor} {s' : ResolverState} : FirstWinning env o ms s r s' → s.ArenaNamed →
      s.Unbound → s.ArenaCanonical env → s'.ArenaCanonical env ∧ ∀ d ∈ r, d.NodesIn (Canonical env)
  | .nil, _, _, hc => ⟨hc, fun _ h => absurd h (Option.not_mem_none _)⟩
  | .win hd hw, ha, hu, hc => by
    -- the winner is the member's own descriptor
    obtain ⟨hc', hnd⟩ := Resolves.canonical hm hng hd ha hu hc
    exact ⟨hc', fun x hx => hnd x (eq_of_winner_eq_some hw ▸ hx)⟩
  | .skip hd _ hr, ha, hu, hc => by
    obtain ⟨hc₁, -⟩ := Resolves.canonical hm hng hd ha hu hc
    have k := Resolves.steady hm hd
    exact FirstWinning.canonical hm hng hr (k.arenaNamed ha) (hu.of_scopes k.scopes_eq) hc₁

end

end Resolver

end ApiSpec
