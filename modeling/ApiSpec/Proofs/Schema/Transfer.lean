import ApiSpec.Proofs.Schema.Termination
import ApiSpec.Proofs.Resolve.Canonical

/-!
# Generation reads descriptors up to folding

The generator makes a named type a component the first time it meets it, from the copy it meets
there (a named object or enumeration inside a descriptor, or the arena's entry behind a
reference), and a `$ref` every other time. So the schema of a descriptor, and every component
its generation makes, depend on the descriptor only up to folding (`Descriptor.fold`), as long
as all copies of one named type, in descriptors or in the arena, agree once the named types
inside them are folded.

* `SchemaGen.Coherent C`: `C` allows, for each identity, copies named by it that agree up to
  folding inside (`Descriptor.foldIn`).
* `SchemaGen.Fits C A d`: the named types inside `d` are allowed by `C`, and its references name
  keys of the arena `A`; `SchemaGen.Faithful C A`: so does every entry of `A`, a copy of its key.
* `SchemaGen.Generates.transfer`: a derivation over one faithful arena, for a descriptor that
  fits it, is a derivation with the same schema and the same states over any other faithful
  arena, for any descriptor that fits it and folds alike. The induction is on the derivation,
  with its three sibling relations; a named type met by a reference on one side and as a copy
  on the other is generated from the copy on both (`generates_of_copy`).
* `SchemaGen.generate_transfer`: so the generator's own runs agree.
-/

namespace ApiSpec

open Schema Descriptor SchemaState

namespace Descriptor

/-! ### Folding, read backwards -/

variable {d : Descriptor}

theorem eq_of_fold_eq_primitive {k : PrimitiveKind} {f : Option String}
    (h : d.fold = .primitive k f) : d = .primitive k f := by
  rcases d with _ | _ | ⟨_ | _, _⟩ | ⟨_ | _, _⟩ | _ <;> simp_all [fold]

theorem eq_of_fold_eq_array {e' : Descriptor} (h : d.fold = .array e') :
    ∃ e, d = .array e ∧ e.fold = e' := by
  rcases d with _ | e | ⟨_ | _, _⟩ | ⟨_ | _, _⟩ | _ <;> simp_all [fold]

theorem eq_of_fold_eq_enumeration {vs : List String} (h : d.fold = .enumeration none vs) :
    d = .enumeration none vs := by
  rcases d with _ | _ | ⟨_ | _, _⟩ | ⟨_ | _, _⟩ | _ <;> simp_all [fold]

theorem eq_of_fold_eq_object {fs' : List Field} (h : d.fold = .object none fs') :
    ∃ fs, d = .object none fs ∧ foldFields fs = fs' := by
  rcases d with _ | _ | ⟨_ | _, _⟩ | ⟨_ | _, fs⟩ | _ <;> simp_all [fold]

/-- What folds to a reference is that reference, or a named type of that name. -/
theorem fold_eq_reference_cases {k : String} (h : d.fold = .reference k) :
    d = .reference k ∨ SchemaGen.ownName? d = some k := by
  rcases d with _ | _ | ⟨_ | _, _⟩ | ⟨_ | _, _⟩ | _ <;>
    simp_all [fold, SchemaGen.ownName?]

theorem fold_eq_of_ownName? {k : String} (h : SchemaGen.ownName? d = some k) :
    d.fold = .reference k := by
  rcases d with _ | _ | ⟨_ | _, _⟩ | ⟨_ | _, _⟩ | _ <;> simp_all [fold, SchemaGen.ownName?]

theorem eq_of_foldIn_eq_object {k : String} {fs' : List Field}
    (h : d.foldIn = .object (some k) fs') : ∃ fs, d = .object (some k) fs ∧ foldFields fs = fs' := by
  rcases d with _ | _ | ⟨_ | _, _⟩ | ⟨_ | _, fs⟩ | _ <;> simp_all [foldIn]

/-- Fields that fold alike have the same names, the same marks of being required, and the same
data besides their types. -/
theorem foldFields_cons_eq {f₁ f₂ : Field} {fs₁ fs₂ : List Field}
    (h : foldFields (f₁ :: fs₁) = foldFields (f₂ :: fs₂)) :
    f₁.type.fold = f₂.type.fold ∧ f₁.name = f₂.name ∧
      SchemaGen.propertySchema f₁ = SchemaGen.propertySchema f₂ ∧ foldFields fs₁ = foldFields fs₂ := by
  obtain ⟨n₁, t₁, r₁, d₁, c₁, x₁⟩ := f₁
  obtain ⟨n₂, t₂, r₂, d₂, c₂, x₂⟩ := f₂
  simp only [foldFields, List.cons.injEq, FieldOf.mk.injEq] at h
  obtain ⟨⟨rfl, ht, rfl, rfl, rfl, rfl⟩, hfs⟩ := h
  exact ⟨ht, rfl, rfl, hfs⟩

theorem foldFields_eq_nil' {fs : List Field} (h : [] = foldFields fs) : fs = [] :=
  foldFields_eq_nil.mp h.symm

/-- The required names of fields that fold alike. -/
theorem required_foldFields (fs : List Field) :
    ((foldFields fs).filter (·.required)).map (·.name) = (fs.filter (·.required)).map (·.name) := by
  induction fs with
  | nil => rfl
  | cons f fs ih =>
    rw [foldFields]
    by_cases hr : f.required <;> simp [hr, ih]

end Descriptor

namespace SchemaGen

theorem objectSchema_congr {fs₁ fs₂ : List Field} (h : foldFields fs₁ = foldFields fs₂)
    (ms : List (String × Schema)) : objectSchema fs₁ ms = objectSchema fs₂ ms := by
  unfold objectSchema
  rw [← required_foldFields fs₁, ← required_foldFields fs₂, h]

theorem get?_of_mem_keys {A : Arena} {k : String} (h : k ∈ A.keys) : ∃ e, A.get? k = some e := by
  obtain ⟨⟨k', e⟩, hmem, rfl⟩ := List.mem_map.mp h
  have hs : (A.entries.find? (·.1 == k')).isSome :=
    List.find?_isSome.mpr ⟨(k', e), hmem, beq_self_eq_true k'⟩
  obtain ⟨x, hx⟩ := Option.isSome_iff_exists.mp hs
  exact ⟨x.2, by simp [Arena.get?, hx]⟩

/-! ### Copies that agree -/

variable (C : String → Descriptor → Prop)

/-- `C` allows, for each identity, copies under that identity's name that agree once the named
types inside them are folded. -/
structure Coherent : Prop where
  own : ∀ k e, C k e → ownName? e = some k
  agree : ∀ k e₁ e₂, C k e₁ → C k e₂ → e₁.foldIn = e₂.foldIn

/-- The named types inside `d` are allowed by `C`, and its references name keys of `A`. -/
structure Fits (A : Arena) (d : Descriptor) : Prop where
  nodes : d.NodesIn C
  refs : ∀ k ∈ d.refs, k ∈ A.keys

/-- Every entry of `A` is a copy of its key allowed by `C`, and fits `A`. -/
def Faithful (A : Arena) : Prop := ∀ k e, A.get? k = some e → C k e ∧ Fits C A e

variable {C} {A A₁ A₂ : Arena}

namespace Fits

theorem array {e : Descriptor} (h : Fits C A (.array e)) : Fits C A e := ⟨h.nodes, h.refs⟩

theorem fields {n : Option String} {fs : List Field} (h : Fits C A (.object n fs)) :
    Fits C A (.object none fs) := by
  refine ⟨?_, h.refs⟩
  cases n with
  | none => exact h.nodes
  | some _ => exact h.nodes.2

theorem head {f : Field} {fs : List Field} (h : Fits C A (.object none (f :: fs))) :
    Fits C A f.type :=
  ⟨h.nodes.1, fun k hk => h.refs k (List.mem_append_left _ hk)⟩

theorem tail {f : Field} {fs : List Field} (h : Fits C A (.object none (f :: fs))) :
    Fits C A (.object none fs) :=
  ⟨h.nodes.2, fun k hk => h.refs k (List.mem_append_right _ hk)⟩

/-- A named type that fits is a copy allowed by `C` at its name. -/
theorem top {d : Descriptor} {k : String} (h : Fits C A d) (ho : ownName? d = some k) : C k d := by
  rcases d with _ | _ | ⟨_ | _, _⟩ | ⟨_ | _, _⟩ | _ <;> simp only [ownName?, reduceCtorEq,
    Option.some.injEq] at ho
  · subst ho
    exact h.nodes
  · subst ho
    exact h.nodes.1

end Fits

/-- How two things to build a component from stand to each other: the same schema, fields that
fold alike, or descriptors that fold alike, each fitting its arena. -/
def BuildAlike (C : String → Descriptor → Prop) (A₁ A₂ : Arena) : Build → Build → Prop
  | .done s₁, .done s₂ => s₁ = s₂
  | .fields fs₁, .fields fs₂ => foldFields fs₁ = foldFields fs₂ ∧
      Fits C A₁ (.object none fs₁) ∧ Fits C A₂ (.object none fs₂)
  | .descriptor d₁, .descriptor d₂ => d₁.fold = d₂.fold ∧ Fits C A₁ d₁ ∧ Fits C A₂ d₂
  | _, _ => False

section Transfer

variable (hC : Coherent C) (h₂ : Faithful C A₂)
include hC h₂

/-- To generate a descriptor that folds to a reference, it is enough to generate every fitting
copy of its identity: the descriptor itself when it is named, or else the arena's entry behind
the reference. -/
theorem generates_of_copy {d : Descriptor} {i : String} {st st' : SchemaState} {s : Schema}
    (hd : d.fold = .reference i) (hfit : Fits C A₂ d)
    (hgen : ∀ e, C i e → Fits C A₂ e → Generates A₂ e st s st') : Generates A₂ d st s st' := by
  rcases fold_eq_reference_cases hd with rfl | hown
  · obtain ⟨e, he⟩ := get?_of_mem_keys (hfit.refs i (by simp [Descriptor.refs]))
    obtain ⟨hce, hfe⟩ := h₂ i e he
    exact .named he (by simp [hC.own i e hce]) (hgen e hce hfe)
  · exact hgen d (hfit.top hown) hfit

end Transfer

mutual

theorem Generates.transfer (hC : Coherent C) (h₁ : Faithful C A₁) (h₂ : Faithful C A₂)
    {d₁ : Descriptor} {st st' : SchemaState} {s : Schema} :
    Generates A₁ d₁ st s st' → ∀ {d₂}, d₁.fold = d₂.fold → Fits C A₁ d₁ → Fits C A₂ d₂ →
      Generates A₂ d₂ st s st'
  | .primitive, _, hd, _, _ => by
    rw [eq_of_fold_eq_primitive hd.symm]
    exact .primitive
  | .array h, _, hd, hf₁, hf₂ => by
    obtain ⟨e₂, rfl, he⟩ := eq_of_fold_eq_array hd.symm
    exact .array (Generates.transfer hC h₁ h₂ h he.symm hf₁.array hf₂.array)
  | .enumeration, _, hd, _, _ => by
    rw [eq_of_fold_eq_enumeration hd.symm]
    exact .enumeration
  | .namedEnumeration (i := i) h, _, hd, hf₁, hf₂ => by
    -- every copy of the enumeration has its values
    refine generates_of_copy hC h₂ hd.symm hf₂ fun e hce _ => ?_
    have he := hC.agree i _ e (hf₁.top rfl) hce
    rcases e with _ | _ | ⟨_ | _, _⟩ | ⟨_ | _, _⟩ | _ <;> simp only [foldIn,
      Descriptor.enumeration.injEq, Option.some.injEq, reduceCtorEq, false_and] at he
    obtain ⟨rfl, rfl⟩ := he
    -- the copy is built as the same schema
    exact .namedEnumeration (Ensures.transfer hC h₁ h₂ h (by exact rfl))
  | .object h, _, hd, hf₁, hf₂ => by
    obtain ⟨fs₂, rfl, hfs⟩ := eq_of_fold_eq_object hd.symm
    have hb : BuildAlike C A₁ A₂ (.fields _) (.fields fs₂) := ⟨hfs.symm, hf₁, hf₂⟩
    exact .object (Builds.transfer hC h₁ h₂ h hb)
  | @Generates.namedObject _ i fs₁ _ _ _ h, _, hd, hf₁, hf₂ => by
    -- every copy of the class has fields that fold alike
    refine generates_of_copy hC h₂ hd.symm hf₂ fun e hce hfe => ?_
    have he : e.foldIn = .object (some i) (foldFields fs₁) := (hC.agree i _ e (hf₁.top rfl) hce).symm
    obtain ⟨fs₂, rfl, hfs⟩ := eq_of_foldIn_eq_object he
    have hb : BuildAlike C A₁ A₂ (.fields fs₁) (.fields fs₂) := ⟨hfs.symm, hf₁.fields, hfe.fields⟩
    exact .namedObject (Ensures.transfer hC h₁ h₂ h hb)
  | .named (i := i) (d := e₁) hg _ h, _, hd, _, hf₂ => by
    -- the entry behind the reference is generated in place of any other copy
    obtain ⟨hce₁, hfe₁⟩ := h₁ i e₁ hg
    refine generates_of_copy hC h₂ hd.symm hf₂ fun e hce hfe => ?_
    exact Generates.transfer hC h₁ h₂ h (by rw [fold_eq_of_ownName? (hC.own i e₁ hce₁),
      fold_eq_of_ownName? (hC.own i e hce)]) hfe₁ hfe
  | .entry (i := i) hg hn _, _, _, _, _ => by
    have hown := hC.own i _ (h₁ i _ hg).1
    rw [hn] at hown
    cases hown
  | .dangling (i := i) hg _, _, _, hf₁, _ => by
    obtain ⟨e, he⟩ := get?_of_mem_keys (hf₁.refs i (by simp [Descriptor.refs]))
    rw [hg] at he
    cases he
termination_by structural h => h

theorem Members.transfer (hC : Coherent C) (h₁ : Faithful C A₁) (h₂ : Faithful C A₂)
    {acc ms : List (String × Schema)} {fs₁ : List Field}
    {st st' : SchemaState} :
    Members A₁ acc fs₁ st ms st' → ∀ {fs₂}, foldFields fs₁ = foldFields fs₂ →
      Fits C A₁ (.object none fs₁) → Fits C A₂ (.object none fs₂) → Members A₂ acc fs₂ st ms st'
  | .nil, _, hfs, _, _ => by
    rw [foldFields_eq_nil' (hfs.trans rfl)]
    exact .nil
  | .cons (f := f₁) h hm, fs₂, hfs, hf₁, hf₂ => by
    cases fs₂ with
    | nil => cases foldFields_eq_nil.mp hfs
    | cons f₂ fs₂ =>
      obtain ⟨ht, hname, hprop, hrest⟩ := foldFields_cons_eq hfs
      have hg := Generates.transfer hC h₁ h₂ h ht hf₁.head hf₂.head
      have ih := Members.transfer hC h₁ h₂ hm hrest hf₁.tail hf₂.tail
      rw [hname, hprop] at ih
      exact .cons hg ih
termination_by structural h => h

theorem Ensures.transfer (hC : Coherent C) (h₁ : Faithful C A₁) (h₂ : Faithful C A₂)
    {i : String} {b₁ : Build} {st st' : SchemaState} {s : Schema} :
    Ensures A₁ i b₁ st s st' → ∀ {b₂}, BuildAlike C A₁ A₂ b₁ b₂ → Ensures A₂ i b₂ st s st'
  | .live hc hl, _, _ => .live hc hl
  | .build hc hl hb, _, hab => .build hc hl (Builds.transfer hC h₁ h₂ hb hab)
termination_by structural h => h

theorem Builds.transfer (hC : Coherent C) (h₁ : Faithful C A₁) (h₂ : Faithful C A₂)
    {b₁ : Build} {st st' : SchemaState} {s : Schema} :
    Builds A₁ b₁ st s st' → ∀ {b₂}, BuildAlike C A₁ A₂ b₁ b₂ → Builds A₂ b₂ st s st'
  | .done, b₂, hab => by
    cases b₂ with
    | done => cases hab; exact .done
    | fields => cases hab
    | descriptor => cases hab
  | @Builds.fields _ fs₁ _ _ _ hm, b₂, hab => by
    cases b₂ with
    | fields fs₂ =>
      obtain ⟨hfs, hf₁, hf₂⟩ := hab
      rw [objectSchema_congr hfs]
      exact .fields (Members.transfer hC h₁ h₂ hm hfs hf₁ hf₂)
    | done => cases hab
    | descriptor => cases hab
  | .descriptor hg, b₂, hab => by
    cases b₂ with
    | descriptor d₂ => exact .descriptor (Generates.transfer hC h₁ h₂ hg hab.1 hab.2.1 hab.2.2)
    | done => cases hab
    | fields => cases hab
termination_by structural h => h

end

/-- Over two faithful arenas, the generator gives descriptors that fold alike the same schema
and the same end state, from every state. -/
theorem generate_transfer (hC : Coherent C) (h₁ : Faithful C A₁) (h₂ : Faithful C A₂)
    {d₁ d₂ : Descriptor} (hd : d₁.fold = d₂.fold) (hf₁ : Fits C A₁ d₁)
    (hf₂ : Fits C A₂ d₂) (st : SchemaState) : (generate A₂ d₂).run st = (generate A₁ d₁).run st := by
  have hg := Generates.transfer hC h₁ h₂ (generates_run A₁ d₁ st) hd hf₁ hf₂
  obtain ⟨hs, hst⟩ := (generates_run A₂ d₂ st).deterministic hg
  exact Prod.ext hs hst

end SchemaGen

end ApiSpec
