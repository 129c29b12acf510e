import ApiSpec.Proofs.Extract.References

/-!
# What a resolution owes to the resolutions before it

The resolver is shared by every route of an extraction. A named type met again is taken from the
arena, and a named type met while it is being described becomes a reference, so the descriptor
a type resolves to depends on what was resolved before it. It depends on nothing else: once
every named type in it is folded to a reference to its identity (`Descriptor.fold`), the
descriptor is the same whatever the resolver met before, as long as no enumeration carries
payloads.

An enumeration with payloads breaks this: it is recorded only when a member wins its narrowing,
and whether a member wins depends on what is on the stack. `Tree { node: Box<Node> }` with
`enum Node { Vec<Tree>, i32 }` narrows `Node` to an array when `Tree` is resolved first, and to
nothing, leaving a reference, when `Node` comes first.

* `Resolver.ResolvesAt`: a derivation read off the shape of its type, one case per branch of the
  resolver; `Resolves.inv` gives it for every derivation.
* `Resolves.steady`: a resolution keeps the bindings in scope and keeps every recorded named type
  under its own name (`ResolverState.ArenaNamed`).
* `Resolves.fold_eq`: two resolutions of one type, from states with the same bindings, agree up
  to folding; by induction on the first derivation, the second read off by `Resolves.inv`. The
  copies of a named type met over an extraction are therefore coherent, which is what lets the
  document of a settled model ignore the order of its classes (`generateDocument_reordered`).
-/

namespace ApiSpec

namespace Descriptor

mutual

/-- The descriptor with every named type folded to a reference to it: what it says up to the
unfolding of named types, which is all that a memo or a cycle guard may change. -/
def fold : Descriptor → Descriptor
  | .object (some n) _ => .reference n
  | .enumeration (some n) _ => .reference n
  | .object none fs => .object none (foldFields fs)
  | .array e => .array (fold e)
  | d => d

/-- Fields with their types folded. -/
def foldFields : List Field → List Field
  | [] => []
  | f :: fs => { f with type := fold f.type } :: foldFields fs

end

@[simp] theorem fold_freeObject : freeObject.fold = freeObject := rfl

@[simp] theorem fold_array (e : Descriptor) : (Descriptor.array e).fold = .array e.fold := rfl

@[simp] theorem fold_objectNone (fs : List Field) :
    (Descriptor.object none fs).fold = .object none (foldFields fs) := rfl

@[simp] theorem fold_getD (d : Option Descriptor) :
    (d.getD freeObject).fold = (d.map fold).getD freeObject := by
  cases d <;> rfl

theorem foldFields_eq_nil {fs : List Field} : foldFields fs = [] ↔ fs = [] := by
  cases fs <;> simp [foldFields]

end Descriptor

open Descriptor

/-- The example of a property reads only the primitive its type is, which folding keeps. -/
theorem exampleFor_fold (name : String) (d : Descriptor) : exampleFor name d.fold = exampleFor name d := by
  cases d with
  | primitive k f => rfl
  | array e => rfl
  | enumeration n vs => cases n <;> rfl
  | object n fs => cases n <;> rfl
  | reference id => rfl

namespace ResolverState

/-- Every named type is recorded under its own name: an object or an enumeration named by the
identity it is recorded at. -/
def ArenaNamed (s : ResolverState) : Prop :=
  ∀ e ∈ s.arena.entries, e.2.fold = .reference e.1

/-- What a resolution keeps: the bindings in scope, and named types under their names. -/
structure Steady (s s' : ResolverState) : Prop where
  scopes_eq : s'.scopes = s.scopes
  arenaNamed : s.ArenaNamed → s'.ArenaNamed

variable {s s₁ s₂ : ResolverState}

theorem Steady.refl (s : ResolverState) : s.Steady s := ⟨rfl, id⟩

theorem Steady.trans (h₁ : s.Steady s₁) (h₂ : s₁.Steady s₂) : s.Steady s₂ :=
  ⟨h₂.scopes_eq.trans h₁.scopes_eq, h₂.arenaNamed ∘ h₁.arenaNamed⟩


theorem ArenaNamed.of_arena (h : s.ArenaNamed) (ha : s₁.arena = s.arena) : s₁.ArenaNamed := by
  unfold ArenaNamed
  rw [ha]
  exact h

theorem ArenaNamed.record {k : String} {d : Descriptor} (h : s.ArenaNamed)
    (hd : d.fold = .reference k) : (s.record k d).ArenaNamed := by
  intro e he
  rcases Arena.mem_entries_insert he with rfl | he
  · exact hd
  · exact h e he

theorem ArenaNamed.get? (h : s.ArenaNamed) {k : String} {d : Descriptor}
    (hd : s.arena.get? k = some d) : d.fold = .reference k :=
  h _ (Arena.mem_entries_of_get? hd)

/-- The rewrite of a type reads only the bindings in scope. -/
theorem rewrite_eq_of_scopes (h : s₂.scopes = s₁.scopes) : s₂.rewrite = s₁.rewrite := by
  funext t
  unfold rewrite
  rw [h]

/-- Two runs that start with the same rewrite end with the same rewrite. -/
theorem Steady.rewrite_congr {s₁' s₂' : ResolverState} (h₁ : s₁.Steady s₁') (h₂ : s₂.Steady s₂')
    (h : s₂.rewrite = s₁.rewrite) : s₂'.rewrite = s₁'.rewrite := by
  rw [rewrite_eq_of_scopes h₁.scopes_eq, rewrite_eq_of_scopes h₂.scopes_eq, h]

end ResolverState

namespace Resolver

open ResolverState

variable {env : ResolverEnv}

/-! ### Derivations read off the shape -/

variable (env) in
/-- What a derivation from `s` for a type whose rewrite is `x` must be, one case per branch of
the resolver. -/
def ResolvesAt (x : TypeExpr) (s : ResolverState) (r : Option Descriptor) (s' : ResolverState) :
    Prop :=
  match env.model.shapeOf x with
  | .void | .null => r = none ∧ s' = s
  | .primitive n => r = Descriptor.ofPrimitiveName? n ∧ s' = s
  | .array e => ∃ d, Resolves env e s d s' ∧ r = some (.array (d.getD .freeObject))
  | .enumeration n vs => r = some (.enumeration n vs) ∧ s' = s.recordAs n (.enumeration n vs)
  | .union (some n) ms => NamedUnion env n ms s r s'
  | .union none ms => Narrows env ms none s r s'
  | .generic n as =>
    if env.wrappers.contains n then
      match as with
      | a :: _ => Resolves env a s r s'
      | [] => r = none ∧ s' = s
    else r = none ∧ s' = s
  | .object (some _) b ps => NamedObject env x.display b ps s r s'
  | .object none _ ps =>
    if ps.isEmpty then r = none ∧ s' = s
    else ∃ fs, Fields env ps s fs s' ∧ r = some (.object none fs)
  | .unknown _ => r = none ∧ s' = s

theorem Resolves.inv {t : TypeExpr} {s : ResolverState} {r : Option Descriptor}
    {s' : ResolverState} (h : Resolves env t s r s') : ResolvesAt env (s.rewrite t) s r s' := by
  cases h with
  | void hs | null hs | primitive hs | enumeration hs | unknown hs => simp [ResolvesAt, hs]
  | array hs hd =>
    simp only [ResolvesAt, hs]
    exact ⟨_, hd, rfl⟩
  | namedUnion hs hu =>
    simp only [ResolvesAt, hs]
    exact hu
  | union hs hn =>
    simp only [ResolvesAt, hs]
    exact hn
  | wrapper hs hw hd =>
    simp only [ResolvesAt, hs, hw, ↓reduceIte]
    exact hd
  | bareWrapper hs hw => simp only [ResolvesAt, hs, hw, ↓reduceIte, and_self]
  | generic hs hw => simp only [ResolvesAt, hs, hw, Bool.false_eq_true, ↓reduceIte, and_self]
  | namedObject hs ho =>
    simp only [ResolvesAt, hs]
    exact ho
  | emptyObject hs => simp [ResolvesAt, hs]
  | inlineObject hs hf =>
    simp only [ResolvesAt, hs, List.isEmpty_cons, Bool.false_eq_true, ↓reduceIte]
    exact ⟨_, hf, rfl⟩

/-- A derivation from a state read off the shape that another state with the same rewrite
gives its type. -/
theorem Resolves.inv_of_rewrite {t : TypeExpr} {s₁ s₂ : ResolverState} {r : Option Descriptor}
    {s' : ResolverState} (h : Resolves env t s₂ r s') (hsc : s₂.rewrite = s₁.rewrite) :
    ResolvesAt env (s₁.rewrite t) s₂ r s' := by
  rw [← hsc]
  exact h.inv

variable (env) in
theorem candidates_eq_of_rewrite {s₁ s₂ : ResolverState} (hsc : s₂.rewrite = s₁.rewrite)
    (ms : List TypeExpr) : candidates env s₂ ms = candidates env s₁ ms := by
  unfold candidates
  rw [hsc]

/-! ### What every resolution keeps -/

section Steady

mutual

theorem Resolves.steady (hm : ∀ id, ¬ env.model.IsPayloadEnum id)
    {t : TypeExpr} {s : ResolverState} {r : Option Descriptor}
    {s' : ResolverState} : Resolves env t s r s' → s.Steady s'
  | .void _ | .null _ | .primitive _ | .bareWrapper _ _ | .generic _ _ | .emptyObject _
  | .unknown _ => Steady.refl s
  | .array _ h => Resolves.steady hm h
  | .enumeration (n := n) _ => by
    cases n with
    | none => exact Steady.refl s
    | some n => exact ⟨rfl, fun h => h.record rfl⟩
  | .namedUnion hs _ => absurd (Manifest.isPayloadEnum_of_shapeOf hs) (hm _)
  | .union _ h => Narrows.steady hm h
  | .wrapper _ _ h => Resolves.steady hm h
  | .namedObject _ h => NamedObject.steady hm h
  | .inlineObject _ h => Fields.steady hm h

theorem Fields.steady (hm : ∀ id, ¬ env.model.IsPayloadEnum id)
    {ps : List PropertyDecl} {s : ResolverState} {fs : List Field}
    {s' : ResolverState} : Fields env ps s fs s' → s.Steady s'
  | .nil => Steady.refl s
  | .cons hd hfs => (Resolves.steady hm hd).trans (Fields.steady hm hfs)

theorem NamedObject.steady (hm : ∀ id, ¬ env.model.IsPayloadEnum id)
    {id : String} {b : List (String × TypeExpr)} {ps : List PropertyDecl}
    {s : ResolverState} {r : Option Descriptor} {s' : ResolverState} :
    NamedObject env id b ps s r s' → s.Steady s'
  | .memo _ => Steady.refl s
  | .cycle _ _ => ⟨rfl, fun h => h.of_arena rfl⟩
  | .fresh _ _ hf => by
    -- the properties are resolved under the class's own bindings, dropped afterwards
    have hk := Fields.steady hm hf
    refine ⟨by simp [hk.scopes_eq], fun h => ?_⟩
    exact ((hk.arenaNamed (h.of_arena rfl)).of_arena rfl).record rfl

theorem Narrows.steady (hm : ∀ id, ¬ env.model.IsPayloadEnum id)
    {ms : List TypeExpr} {o : Option String} {s : ResolverState}
    {r : Option Descriptor} {s' : ResolverState} : Narrows env ms o s r s' → s.Steady s'
  | .single _ hd => Resolves.steady hm hd
  | .several _ hw => FirstWinning.steady hm hw

theorem FirstWinning.steady (hm : ∀ id, ¬ env.model.IsPayloadEnum id)
    {o : Option String} {ms : List TypeExpr} {s : ResolverState}
    {r : Option Descriptor} {s' : ResolverState} : FirstWinning env o ms s r s' → s.Steady s'
  | .nil => Steady.refl s
  | .win hd _ => Resolves.steady hm hd
  | .skip hd _ hr => (Resolves.steady hm hd).trans (FirstWinning.steady hm hr)

end

end Steady

/-! ### Two resolutions of one type -/

/-- A named type resolves to itself, folded: from the arena, as a reference, or afresh. -/
theorem NamedObject.fold_result {id : String} {b : List (String × TypeExpr)}
    {ps : List PropertyDecl} {s : ResolverState} {r : Option Descriptor} {s' : ResolverState}
    (h : NamedObject env id b ps s r s') (ha : s.ArenaNamed) :
    r.map fold = some (.reference id) := by
  cases h with
  | memo hd => exact congrArg some (ha.get? hd)
  | cycle => rfl
  | fresh => rfl

@[simp] theorem notOwner_none (d : Option Descriptor) : notOwner none d = d := by
  unfold notOwner
  split
  · simp
  · rfl

/-- Whether a member wins a union with no owner reads only what folding keeps. -/
theorem winner_none_fold (d : Option Descriptor) :
    winner none (d.map fold) = (winner none d).map fold := by
  rcases d with _ | d
  · rfl
  · cases d with
    | primitive k f => rfl
    | array e => rfl
    | enumeration n vs => cases n <;> rfl
    | object n fs =>
      cases n with
      | none =>
        by_cases hfs : fs = []
        · subst hfs
          rfl
        · simp [winner, foldFields_eq_nil, hfs]
      | some n => rfl
    | reference id => rfl

/-- One member cannot win a union with no owner in one run and lose in another that agrees with
it up to folding. -/
theorem winner_none_eq_none_of_fold_eq {d₁ d₂ : Option Descriptor}
    (h : d₁.map fold = d₂.map fold) (hw : winner none d₂ = none) : winner none d₁ = none := by
  rw [← Option.map_eq_none_iff, ← winner_none_fold, h, winner_none_fold, hw, Option.map_none]

/-- A field folded is the field of the folded type. -/
theorem foldFields_fieldFor (p : PropertyDecl) (d : Option Descriptor) (fs : List Field) :
    foldFields (fieldFor env p d :: fs) = fieldFor env p (d.map fold) :: foldFields fs := by
  have hx : exampleFor p.name ((d.map fold).getD freeObject) = exampleFor p.name (d.getD freeObject) := by
    rw [← fold_getD, exampleFor_fold]
  simp [foldFields, fieldFor, hx]

section Independence

mutual

/-- Two resolutions of one type from states with the same bindings agree up to folding. -/
theorem Resolves.fold_eq (hm : ∀ id, ¬ env.model.IsPayloadEnum id)
    {t : TypeExpr} {s₁ : ResolverState} {r₁ : Option Descriptor}
    {s₁' : ResolverState} : Resolves env t s₁ r₁ s₁' → ∀ {s₂ r₂ s₂'}, Resolves env t s₂ r₂ s₂' →
      s₁.ArenaNamed → s₂.ArenaNamed → s₂.rewrite = s₁.rewrite → r₁.map fold = r₂.map fold
  | .void hs, _, _, _, h₂, _, _, hsc | .null hs, _, _, _, h₂, _, _, hsc
  | .bareWrapper hs _, _, _, _, h₂, _, _, hsc | .generic hs _, _, _, _, h₂, _, _, hsc
  | .emptyObject hs, _, _, _, h₂, _, _, hsc | .unknown hs, _, _, _, h₂, _, _, hsc => by
    have h := h₂.inv_of_rewrite hsc
    simp_all [ResolvesAt]
  | .primitive hs, _, _, _, h₂, _, _, hsc | .enumeration hs, _, _, _, h₂, _, _, hsc => by
    have h := h₂.inv_of_rewrite hsc
    simp only [ResolvesAt, hs] at h
    rw [h.1]
  | .array hs hd₁, _, _, _, h₂, ha₁, ha₂, hsc => by
    have h := h₂.inv_of_rewrite hsc
    simp only [ResolvesAt, hs] at h
    obtain ⟨d₂, hd₂, rfl⟩ := h
    have ih := Resolves.fold_eq hm hd₁ hd₂ ha₁ ha₂ hsc
    simp [ih]
  | .namedUnion hs _, _, _, _, _, _, _, _ => absurd (Manifest.isPayloadEnum_of_shapeOf hs) (hm _)
  | .union hs hn₁, _, _, _, h₂, ha₁, ha₂, hsc => by
    have h := h₂.inv_of_rewrite hsc
    simp only [ResolvesAt, hs] at h
    exact Narrows.fold_eq hm hn₁ rfl h ha₁ ha₂ hsc
  | .wrapper hs hw hd₁, _, _, _, h₂, ha₁, ha₂, hsc => by
    have h := h₂.inv_of_rewrite hsc
    simp only [ResolvesAt, hs, hw, if_true] at h
    exact Resolves.fold_eq hm hd₁ h ha₁ ha₂ hsc
  | .namedObject hs ho₁, _, _, _, h₂, ha₁, ha₂, hsc => by
    -- both are the class at one identity, whatever each found in its arena
    have h := h₂.inv_of_rewrite hsc
    simp only [ResolvesAt, hs] at h
    rw [ho₁.fold_result ha₁, h.fold_result ha₂]
  | .inlineObject hs hf₁, _, _, _, h₂, ha₁, ha₂, hsc => by
    have h := h₂.inv_of_rewrite hsc
    simp only [ResolvesAt, hs, List.isEmpty_cons, Bool.false_eq_true, if_false] at h
    obtain ⟨fs₂, hf₂, rfl⟩ := h
    simp [Fields.fold_eq hm hf₁ hf₂ ha₁ ha₂ hsc]
termination_by structural h => h

theorem Fields.fold_eq (hm : ∀ id, ¬ env.model.IsPayloadEnum id)
    {ps : List PropertyDecl} {s₁ : ResolverState} {fs₁ : List Field}
    {s₁' : ResolverState} : Fields env ps s₁ fs₁ s₁' → ∀ {s₂ fs₂ s₂'}, Fields env ps s₂ fs₂ s₂' →
      s₁.ArenaNamed → s₂.ArenaNamed → s₂.rewrite = s₁.rewrite → foldFields fs₁ = foldFields fs₂
  | .nil, _, _, _, .nil, _, _, _ => rfl
  | .cons hd₁ hfs₁, _, _, _, .cons hd₂ hfs₂, ha₁, ha₂, hsc => by
    -- the first property agrees, and leaves states that still have the same bindings
    have k₁ := Resolves.steady hm hd₁
    have k₂ := Resolves.steady hm hd₂
    rw [foldFields_fieldFor, foldFields_fieldFor, Resolves.fold_eq hm hd₁ hd₂ ha₁ ha₂ hsc,
      Fields.fold_eq hm hfs₁ hfs₂ (k₁.arenaNamed ha₁) (k₂.arenaNamed ha₂) (k₁.rewrite_congr k₂ hsc)]
termination_by structural h => h

theorem Narrows.fold_eq (hm : ∀ id, ¬ env.model.IsPayloadEnum id)
    {ms : List TypeExpr} {o : Option String} {s₁ : ResolverState} {r₁ : Option Descriptor}
    {s₁' : ResolverState} : Narrows env ms o s₁ r₁ s₁' → o = none → ∀ {s₂ r₂ s₂'},
      Narrows env ms o s₂ r₂ s₂' → s₁.ArenaNamed → s₂.ArenaNamed → s₂.rewrite = s₁.rewrite →
      r₁.map fold = r₂.map fold
  | .single hc₁ hd₁, ho, s₂, _, _, h₂, ha₁, ha₂, hsc => by
    -- both runs see the same candidates
    have hcs := candidates_eq_of_rewrite env hsc ms
    cases h₂ with
    | single hc₂ hd₂ =>
      rw [hcs, hc₁] at hc₂
      cases hc₂
      rw [ho, notOwner_none, notOwner_none]
      exact Resolves.fold_eq hm hd₁ hd₂ ha₁ ha₂ hsc
    | several hc₂ _ =>
      rw [hcs, hc₁] at hc₂
      cases hc₂
  | .several hc₁ hw₁, ho, s₂, _, _, h₂, ha₁, ha₂, hsc => by
    have hcs := candidates_eq_of_rewrite env hsc ms
    cases h₂ with
    | single hc₂ _ =>
      rw [hcs, hc₁] at hc₂
      cases hc₂
    | several _ hw₂ =>
      rw [hcs] at hw₂
      exact FirstWinning.fold_eq hm hw₁ ho hw₂ ha₁ ha₂ hsc
termination_by structural h => h

theorem FirstWinning.fold_eq (hm : ∀ id, ¬ env.model.IsPayloadEnum id)
    {ms : List TypeExpr} {o : Option String} {s₁ : ResolverState} {r₁ : Option Descriptor}
    {s₁' : ResolverState} : FirstWinning env o ms s₁ r₁ s₁' → o = none → ∀ {s₂ r₂ s₂'},
      FirstWinning env o ms s₂ r₂ s₂' → s₁.ArenaNamed → s₂.ArenaNamed →
      s₂.rewrite = s₁.rewrite → r₁.map fold = r₂.map fold
  | .nil, _, _, _, _, .nil, _, _, _ => rfl
  | .win hd₁ hw₁, _, _, _, _, .win hd₂ hw₂, ha₁, ha₂, hsc => by
    have ih := Resolves.fold_eq hm hd₁ hd₂ ha₁ ha₂ hsc
    rw [eq_of_winner_eq_some hw₁, eq_of_winner_eq_some hw₂] at ih
    exact ih
  | .win hd₁ hw₁, ho, _, _, _, .skip hd₂ hw₂ _, ha₁, ha₂, hsc => by
    rw [ho] at hw₁ hw₂
    rw [winner_none_eq_none_of_fold_eq (Resolves.fold_eq hm hd₁ hd₂ ha₁ ha₂ hsc) hw₂] at hw₁
    cases hw₁
  | .skip hd₁ hw₁ _, ho, _, _, _, .win hd₂ hw₂, ha₁, ha₂, hsc => by
    rw [ho] at hw₁ hw₂
    rw [winner_none_eq_none_of_fold_eq (Resolves.fold_eq hm hd₁ hd₂ ha₁ ha₂ hsc).symm hw₁] at hw₂
    cases hw₂
  | .skip hd₁ _ hr₁, ho, _, _, _, .skip hd₂ _ hr₂, ha₁, ha₂, hsc => by
    have k₁ := Resolves.steady hm hd₁
    have k₂ := Resolves.steady hm hd₂
    exact FirstWinning.fold_eq hm hr₁ ho hr₂ (k₁.arenaNamed ha₁) (k₂.arenaNamed ha₂)
      (k₁.rewrite_congr k₂ hsc)
termination_by structural h => h

end

end Independence

/-! ### Enumerations without payloads -/

theorem not_isPayloadEnum {m : Manifest} (hm : ∀ e ∈ m.enums, e.members = []) (id : String) :
    ¬ m.IsPayloadEnum id := by
  intro h
  obtain ⟨e, he, -, hne⟩ := h
  exact hne (hm e he)

end Resolver

end ApiSpec
