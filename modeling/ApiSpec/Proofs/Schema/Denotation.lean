import ApiSpec.Proofs.Schema.Transfer
import ApiSpec.Proofs.Schema.Naming
import Mathlib.Data.List.Sort

/-!
# The schema of a descriptor, as a function of it

Over an arena faithful to coherent copies (`SchemaGen.Faithful`), and with no two of the named
types met sharing a component name, the generator is a function of what it is given. The schema
of a descriptor is `schemaOf` of it: each named type in it is a `$ref` to the component named
after its identity, whichever copy it was met as and whatever was generated before. The
components a run builds are the named types it reaches (`SchemaGen.Reaches`), each built from
any of its copies; so after runs from a new generator, the components are exactly the named types
reached from all that was generated, in order of name, and nothing else decides them.

* `SchemaGen.schemaOf`: the schema of a descriptor read off the descriptor; folding named types
  changes nothing (`schemaOf_fold`), and all copies of a named type build one component
  (`schema_buildOf_eq`).
* `SchemaState.Proper`: a state whose identities have their own component names, whose
  components are sorted, each built from a copy, and refer only to live components.
* `SchemaState.Extends C D R st st'`: a run from `st` to `st'` that leaves the identities `R`
  live and builds only named types reached from them.
* `SchemaGen.Generates.spec`: a derivation from a proper state gives `schemaOf` of its
  descriptor and extends the state by the named types at its top; by induction on the
  derivation with its three sibling relations, one case per rule.
* `SchemaState.Extends.mem_schemas_iff`: from a new generator, the components are exactly those
  of the named types reached, so two runs that reach the same named types end with the same
  components (`schemas_eq_of_reaches`).
* `SchemaGen.Reaches.mem`: over a faithful arena, the named types reached from fitting
  descriptors are among the identities those descriptors and the arena's entries name
  (`Descriptor.identities`), so distinct component names for those identities suffice.
-/

namespace ApiSpec

open Schema Descriptor SchemaState

namespace SchemaGen

/-! ### The schema of a descriptor -/

mutual

/-- The schema of a descriptor when each named type in it is the component named after its
identity. -/
def schemaOf : Descriptor → Schema
  | .primitive k f => { Schema.ofType k.name with format := f }
  | .array e => { Schema.ofType "array" with items := some (schemaOf e) }
  | .enumeration none vs => enumSchema vs
  | .enumeration (some i) _ => refTo (componentName i)
  | .object none fs => objectSchema fs (membersOf [] fs)
  | .object (some i) _ => refTo (componentName i)
  | .reference i => refTo (componentName i)

/-- The members `acc` with those of the fields set in order, each from its type's schema. -/
def membersOf (acc : List (String × Schema)) : List Field → List (String × Schema)
  | [] => acc
  | f :: fs => membersOf (setKey f.name (propertySchema f (schemaOf f.type)) acc) fs

end

/-- What the component of a named type is built from, given one of its copies. -/
def buildOf : Descriptor → Build
  | .object _ fs => .fields fs
  | .enumeration _ vs => .done (enumSchema vs)
  | d => .descriptor d

/-- The schema a build gives. -/
def Build.schema : Build → Schema
  | .done s => s
  | .fields fs => objectSchema fs (membersOf [] fs)
  | .descriptor d => schemaOf d

/-- The identities at the top of what a build generates. -/
def Build.roots : Build → List String
  | .done _ => []
  | .fields fs => refsFields (foldFields fs)
  | .descriptor d => d.fold.refs

/-- What a build generates fits the arena `A`. -/
def Build.Fits (C : String → Descriptor → Prop) (A : Arena) : Build → Prop
  | .done _ => True
  | .fields fs => SchemaGen.Fits C A (.object none fs)
  | .descriptor d => SchemaGen.Fits C A d

theorem schemaOf_of_ownName? {d : Descriptor} {i : String} (h : ownName? d = some i) :
    schemaOf d = refTo (componentName i) := by
  rcases d with _ | _ | ⟨_ | _, _⟩ | ⟨_ | _, _⟩ | _ <;> simp_all [ownName?, schemaOf]

theorem objectSchema_foldFields (fs : List Field) (ms : List (String × Schema)) :
    objectSchema (foldFields fs) ms = objectSchema fs ms := by
  unfold objectSchema
  rw [required_foldFields]

mutual

/-- Folding the named types of a descriptor to references keeps its schema: a named type is a
`$ref` either way. -/
theorem schemaOf_fold : (d : Descriptor) → schemaOf d.fold = schemaOf d
  | .primitive .. => rfl
  | .array e => by rw [fold_array, schemaOf, schemaOf, schemaOf_fold e]
  | .enumeration none _ => rfl
  | .enumeration (some _) _ => rfl
  | .object none fs => by
    rw [fold_objectNone, schemaOf, schemaOf, membersOf_foldFields [] fs, objectSchema_foldFields]
  | .object (some _) _ => rfl
  | .reference _ => rfl

theorem membersOf_foldFields (acc : List (String × Schema)) :
    (fs : List Field) → membersOf acc (foldFields fs) = membersOf acc fs
  | [] => rfl
  | f :: fs => by
    rw [foldFields, membersOf, membersOf, membersOf_foldFields _ fs]
    rw [show ({ f with type := f.type.fold } : Field).type = f.type.fold from rfl, schemaOf_fold]
    rfl

end

theorem schema_buildOf_foldIn (e : Descriptor) : (buildOf e.foldIn).schema = (buildOf e).schema := by
  rcases e with _ | _ | ⟨_ | _, _⟩ | ⟨_ | _, fs⟩ | _
  all_goals try rfl
  all_goals
    simp only [foldIn, buildOf, Build.schema]
    rw [membersOf_foldFields, objectSchema_foldFields]

/-- Two copies of one named type build the same component. -/
theorem schema_buildOf_eq {C : String → Descriptor → Prop} (hC : Coherent C) {k : String}
    {e₁ e₂ : Descriptor} (h₁ : C k e₁) (h₂ : C k e₂) : (buildOf e₁).schema = (buildOf e₂).schema := by
  rw [← schema_buildOf_foldIn e₁, ← schema_buildOf_foldIn e₂, hC.agree k e₁ e₂ h₁ h₂]

theorem roots_buildOf {e : Descriptor} {i : String} (h : ownName? e = some i) :
    (buildOf e).roots = e.foldIn.refs := by
  rcases e with _ | _ | ⟨_ | _, _⟩ | ⟨_ | _, _⟩ | _ <;> simp_all [ownName?] <;> rfl

theorem fits_buildOf {C : String → Descriptor → Prop} {A : Arena} {e : Descriptor}
    (h : SchemaGen.Fits C A e) : (buildOf e).Fits C A := by
  rcases e with _ | _ | ⟨_ | _, _⟩ | ⟨_ | _, _⟩ | _
  all_goals first | exact trivial | exact h | exact h.fields

/-! ### The named types a generation meets -/

variable {C : String → Descriptor → Prop}

/-- The named types reached from the identities `R`: those, and the named types at the top of a
copy of one reached. -/
inductive Reaches (C : String → Descriptor → Prop) (R : List String) : String → Prop
  | root {k : String} : k ∈ R → Reaches C R k
  | step {k j : String} {e : Descriptor} : Reaches C R k → C k e → j ∈ e.foldIn.refs →
      Reaches C R j

theorem Reaches.mono {R R' : List String} (h : R ⊆ R') {k : String} (hk : Reaches C R k) :
    Reaches C R' k := by
  induction hk with
  | root hk => exact .root (h hk)
  | step _ he hj ih => exact .step ih he hj

/-- What is reached from identities reached from `R` is reached from `R`. -/
theorem Reaches.of_roots {R R' : List String} (h : ∀ j ∈ R', Reaches C R j) {k : String}
    (hk : Reaches C R' k) : Reaches C R k := by
  induction hk with
  | root hk => exact h _ hk
  | step _ he hj ih => exact .step ih he hj

theorem Reaches.of_copy {i : String} {e : Descriptor} (he : C i e) {k : String}
    (hk : Reaches C e.foldIn.refs k) : Reaches C [i] k :=
  hk.of_roots fun _ hj => .step (.root (List.mem_singleton_self i)) he hj

/-- Named types the generator may meet: every named type at the top of a copy of one of them is
one of them, and no two of them share a component name. -/
structure Domain (C : String → Descriptor → Prop) (D : String → Prop) : Prop where
  closed : ∀ k e, D k → C k e → ∀ j ∈ e.foldIn.refs, D j
  apart : ∀ k j, D k → D j → componentName k = componentName j → k = j

theorem Domain.reaches {D : String → Prop} (hD : Domain C D) {R : List String}
    (hR : ∀ j ∈ R, D j) {k : String} (hk : Reaches C R k) : D k := by
  induction hk with
  | root hk => exact hR _ hk
  | step _ he hj ih => exact hD.closed _ _ ih he _ hj

/-- The named types reached from `R`, when no two of them share a component name. -/
theorem domain_reaches {R : List String}
    (apart : ∀ k j, Reaches C R k → Reaches C R j → componentName k = componentName j → k = j) :
    Domain C (Reaches C R) :=
  ⟨fun _ _ hk he _ hj => .step hk he hj, apart⟩

/-! ### Inserting a component -/

theorem pairwise_insertSorted {c : String} {s : Schema} {l : List (String × Schema)}
    (h : l.Pairwise (·.1 < ·.1)) : (insertSorted c s l).Pairwise (·.1 < ·.1) := by
  induction l with
  | nil => simp [insertSorted]
  | cons e rest ih =>
    obtain ⟨k, v⟩ := e
    have hk := (List.pairwise_cons.mp h).1
    rw [insertSorted]
    split
    next hlt =>
      refine List.Pairwise.cons (fun e he => ?_) h
      rcases List.mem_cons.mp he with rfl | he
      · exact hlt
      · exact String.lt_trans hlt (hk e he)
    next hge =>
      split
      next heq =>
        obtain rfl : c = k := beq_iff_eq.mp heq
        exact List.Pairwise.cons hk h.of_cons
      next hne =>
        have hlt : k < c := by
          by_contra hkc
          exact hne (beq_iff_eq.mpr (String.le_antisymm (String.not_lt.mp hkc) (String.not_lt.mp hge)))
        refine List.Pairwise.cons (fun e he => ?_) (ih h.of_cons)
        rcases mem_insertSorted he with rfl | he
        · exact hlt
        · exact hk e he

end SchemaGen

open SchemaGen

namespace SchemaState

variable {C : String → Descriptor → Prop} {D : String → Prop}

/-! ### Proper states -/

/-- A state of the generator over the named types `D`: each identity named has its own component
name, and the components are sorted by name, each built from a copy of a named type of `D`
whose own named types are live. -/
structure Proper (C : String → Descriptor → Prop) (D : String → Prop) (st : SchemaState) :
    Prop where
  names : ∀ p ∈ st.names, D p.1 ∧ p.2 = componentName p.1
  sorted : st.schemas.Pairwise (·.1 < ·.1)
  built : ∀ e ∈ st.schemas, ∃ k c, D k ∧ C k c ∧ e = (componentName k, (buildOf c).schema)
  closed : ∀ k c, D k → C k c → componentName k ∈ st.keys →
    ∀ j ∈ c.foldIn.refs, st.Live (componentName j)

variable {st st' st₀ st₁ st₂ st₃ : SchemaState}

theorem proper_initial : SchemaState.initial.Proper C D :=
  ⟨nofun, List.Pairwise.nil, nofun, fun _ _ _ _ h => absurd h List.not_mem_nil⟩

theorem live_of_frame (hs : st'.schemas = st.schemas) (hi : st'.inProgress = st.inProgress)
    {n : String} (h : st.Live n) : st'.Live n :=
  (Step.of_frame hs hi).live h

/-- A step that changes the names only, to names of `D` after their identities, keeps a state
proper. -/
theorem Proper.of_frame (hp : st.Proper C D) (hn : ∀ p ∈ st'.names, D p.1 ∧ p.2 = componentName p.1)
    (hs : st'.schemas = st.schemas) (hi : st'.inProgress = st.inProgress) : st'.Proper C D where
  names := hn
  sorted := hs ▸ hp.sorted
  built := hs ▸ hp.built
  closed k c hk hc hkey j hj := by
    have hkey' : componentName k ∈ st.keys := by rw [keys, ← hs]; exact hkey
    exact live_of_frame hs hi (hp.closed k c hk hc hkey' j hj)

theorem Proper.mark (hp : st.Proper C D) (c : String) : (st.mark c).Proper C D where
  names := hp.names
  sorted := hp.sorted
  built := hp.built
  closed k e hk he hkey j hj := by
    rcases hp.closed k e hk he hkey j hj with h | h
    · exact .inl h
    · exact .inr (List.mem_cons_of_mem c h)

/-- The first free name of a base no name has taken is the base. -/
theorem freeName_of_not_mem {base : String} {taken : List String} (h : base ∉ taken) :
    freeName base taken = base := by
  obtain ⟨k, -, hk, -, hbefore⟩ := freeName_spec base taken
  cases k with
  | zero => exact hk
  | succ k => exact absurd (hbefore 0 (Nat.succ_pos k)) h

/-- In a proper state an identity of `D` is named after itself, and naming it keeps the state
proper. -/
theorem Proper.componentFor_eq (hp : st.Proper C D) (hD : Domain C D) {i : String} (hi : D i) :
    ((componentFor i).run st).1 = componentName i ∧ ((componentFor i).run st).2.Proper C D := by
  obtain ⟨hs, hip⟩ := componentFor_frame i st
  rcases componentFor_cases i st with ⟨hc, hst⟩ | ⟨hn, hc, hnames⟩
  · rw [hst]
    exact ⟨(hp.names _ (componentOf?_mem hc)).2, hp⟩
  · -- a new identity: no identity of `D` has its name yet, so it takes its own
    have hfree : componentName i ∉ st.names.map (·.2) := by
      intro hmem
      obtain ⟨p, hp', hpc⟩ := List.mem_map.mp hmem
      obtain ⟨hd, hpn⟩ := hp.names p hp'
      have hpi : p.1 = i := hD.apart _ _ hd hi (hpn.symm.trans hpc)
      have hsome : (st.names.find? (·.1 == i)).isSome := List.find?_isSome.mpr ⟨p, hp', by simp [hpi]⟩
      rw [componentOf?, Option.map_eq_none_iff] at hn
      rw [hn] at hsome
      cases hsome
    have hname : ((componentFor i).run st).1 = componentName i := by
      rw [hc, freeName_of_not_mem hfree]
    refine ⟨hname, hp.of_frame (fun p hmem => ?_) hs hip⟩
    rw [hnames] at hmem
    rcases List.mem_append.mp hmem with hmem | hmem
    · exact hp.names p hmem
    · rw [List.mem_singleton] at hmem
      subst hmem
      exact ⟨hi, hname⟩

/-! ### Runs that extend a state -/

/-- A run from `st` to `st'` over the named types `D` that met the identities `R` at the top of
what it generated: it keeps the components being built and every built one, ends in a proper
state, leaves each identity of `R` live, and builds only named types reached from `R`. -/
structure Extends (C : String → Descriptor → Prop) (D : String → Prop) (R : List String)
    (st st' : SchemaState) : Prop extends st.Step st' where
  proper : st'.Proper C D
  live : ∀ j ∈ R, st'.Live (componentName j)
  reached : ∀ n ∈ st'.keys, n ∈ st.keys ∨ ∃ k, Reaches C R k ∧ n = componentName k

namespace Extends

variable {R R' : List String}

theorem refl (hp : st.Proper C D) : st.Extends C D [] st :=
  ⟨Step.refl st, hp, nofun, fun _ h => .inl h⟩

theorem trans (h : st₁.Extends C D R st₂) (h' : st₂.Extends C D R' st₃) :
    st₁.Extends C D (R ++ R') st₃ where
  toStep := h.toStep.trans h'.toStep
  proper := h'.proper
  live j hj := by
    rcases List.mem_append.mp hj with hj | hj
    · exact h'.toStep.live (h.live j hj)
    · exact h'.live j hj
  reached n hn := by
    rcases h'.reached n hn with hn | ⟨k, hk, rfl⟩
    · rcases h.reached n hn with hn | ⟨k, hk, rfl⟩
      · exact .inl hn
      · exact .inr ⟨k, hk.mono (List.subset_append_left _ _), rfl⟩
    · exact .inr ⟨k, hk.mono (List.subset_append_right _ _), rfl⟩

/-- A warning changes no component. -/
theorem note (h : st.Extends C D R st') (n : Notice) : st.Extends C D R (st'.note n) where
  toStep := h.toStep.trans (Step.of_frame rfl rfl)
  proper := h.proper.of_frame h.proper.names rfl rfl
  live j hj := live_of_frame rfl rfl (h.live j hj)
  reached := h.reached

/-- Naming a component before a run changes no component. -/
theorem of_frame (h : st₀.Extends C D R st') (hs : st₀.schemas = st.schemas)
    (hi : st₀.inProgress = st.inProgress) : st.Extends C D R st' where
  toStep := (Step.of_frame hs hi).trans h.toStep
  proper := h.proper
  live := h.live
  reached n hn := by
    rcases h.reached n hn with hn | hn
    · exact .inl (by rw [keys, ← hs]; exact hn)
    · exact .inr hn

/-- A component found built or being built. -/
theorem of_live (hp : st.Proper C D) {i : String} (hl : st.Live (componentName i)) :
    st.Extends C D [i] st where
  toStep := Step.refl st
  proper := hp
  live j hj := by
    rw [List.mem_singleton.mp hj]
    exact hl
  reached _ hn := .inl hn

/-- A component built from a copy of its named type and recorded: the run that built it left
the named types at the top of the copy live. -/
theorem finish (hC : Coherent C) (hD : Domain C D) {i : String} {e : Descriptor} (hce : C i e)
    (hi : D i) (hb : (st₀.mark (componentName i)).Extends C D e.foldIn.refs st₁) :
    st₀.Extends C D [i] (st₁.finish (componentName i) (buildOf e).schema) where
  inProgress_eq := by
    rw [finish_inProgress, hb.inProgress_eq, mark_inProgress, List.erase_cons_head]
  keys_subset _ hn := (mem_finish_keys _ _ _).mpr (.inr (hb.keys_subset hn))
  proper := by
    have hip : st₁.inProgress = componentName i :: st₀.inProgress := hb.inProgress_eq
    refine ⟨hb.proper.names, pairwise_insertSorted hb.proper.sorted, fun x hx => ?_, ?_⟩
    · rcases SchemaGen.mem_insertSorted hx with rfl | hx
      · exact ⟨i, e, hi, hce, rfl⟩
      · exact hb.proper.built x hx
    · intro k c hk hc hkey j hj
      rcases (mem_finish_keys _ _ _).mp hkey with hkey | hkey
      · -- the component just built: its copies have the named types of `e` at their top
        obtain rfl := hD.apart _ _ hk hi hkey
        rw [hC.agree k c e hc hce] at hj
        exact live_finish hip (hb.live j hj)
      · exact live_finish hip (hb.proper.closed k c hk hc hkey j hj)
  live j hj := by
    rw [List.mem_singleton.mp hj]
    exact .inl ((mem_finish_keys _ _ _).mpr (.inl rfl))
  reached n hn := by
    rcases (mem_finish_keys _ _ _).mp hn with rfl | hn
    · exact .inr ⟨i, .root (List.mem_singleton_self i), rfl⟩
    · rcases hb.reached n hn with hn | ⟨k, hk, rfl⟩
      · exact .inl hn
      · exact .inr ⟨k, hk.of_copy hce, rfl⟩

end Extends

end SchemaState

namespace SchemaGen

variable {A : Arena} {C : String → Descriptor → Prop} {D : String → Prop}

/-! ### Derivations from proper states -/

mutual

/-- A derivation from a proper state gives the schema `schemaOf` reads off the descriptor, and
extends the state by the named types at the descriptor's top. -/
theorem Generates.spec (hC : Coherent C) (hA : Faithful C A) (hD : Domain C D)
    {d : Descriptor} {st st' : SchemaState} {s : Schema} :
    Generates A d st s st' → st.Proper C D → Fits C A d → (∀ j ∈ d.fold.refs, D j) →
      s = schemaOf d ∧ st.Extends C D d.fold.refs st'
  | .primitive, hp, _, _ => ⟨rfl, Extends.refl hp⟩
  | .array h, hp, hf, hr => by
    obtain ⟨rfl, he⟩ := Generates.spec hC hA hD h hp hf.array hr
    exact ⟨rfl, he⟩
  | .enumeration, hp, _, _ => ⟨rfl, Extends.refl hp⟩
  | .namedEnumeration (i := i) h, hp, hf, hr =>
    Ensures.spec hC hA hD h hp (hr i (List.mem_singleton_self i)) (hf.top rfl) hf rfl
  | .object h, hp, hf, hr => Builds.spec hC hA hD h hp hf hr
  | .namedObject (i := i) h, hp, hf, hr =>
    Ensures.spec hC hA hD h hp (hr i (List.mem_singleton_self i)) (hf.top rfl) hf rfl
  | .named (i := i) (d := e) hg _ h, hp, _, hr => by
    -- the entry behind the reference is a copy named `i`, whose own top is `i`
    obtain ⟨hce, hfe⟩ := hA i e hg
    have hown := hC.own i e hce
    have hfold : e.fold.refs = [i] := by rw [fold_eq_of_ownName? hown]; rfl
    obtain ⟨rfl, he⟩ := Generates.spec hC hA hD h hp hfe (hfold ▸ hr)
    rw [hfold] at he
    exact ⟨schemaOf_of_ownName? hown, he⟩
  | .entry (i := i) hg hn _, _, _, _ => by
    have hown := hC.own i _ (hA i _ hg).1
    rw [hn] at hown
    cases hown
  | .dangling (i := i) hg _, _, hf, _ => by
    obtain ⟨e, he⟩ := get?_of_mem_keys (hf.refs i (by simp [Descriptor.refs]))
    rw [hg] at he
    cases he
termination_by structural h => h

theorem Members.spec (hC : Coherent C) (hA : Faithful C A) (hD : Domain C D)
    {acc ms : List (String × Schema)} {fs : List Field} {st st' : SchemaState} :
    Members A acc fs st ms st' → st.Proper C D → Fits C A (.object none fs) →
      (∀ j ∈ refsFields (foldFields fs), D j) →
      ms = membersOf acc fs ∧ st.Extends C D (refsFields (foldFields fs)) st'
  | .nil, hp, _, _ => ⟨rfl, Extends.refl hp⟩
  | .cons h hm, hp, hf, hr => by
    obtain ⟨hs, h₁⟩ := Generates.spec hC hA hD h hp hf.head
      fun j hj => hr j (List.mem_append_left _ hj)
    obtain ⟨hms, h₂⟩ := Members.spec hC hA hD hm h₁.proper hf.tail
      fun j hj => hr j (List.mem_append_right _ hj)
    subst hs hms
    exact ⟨by rw [membersOf], h₁.trans h₂⟩
termination_by structural h => h

/-- An identity of `D` is referred to under its own name: it is named, and built from a copy
unless it is built or being built. -/
theorem Ensures.spec (hC : Coherent C) (hA : Faithful C A) (hD : Domain C D) {i : String}
    {b : Build} {st st' : SchemaState} {s : Schema} :
    Ensures A i b st s st' → st.Proper C D → D i → ∀ {e}, C i e → Fits C A e → b = buildOf e →
      s = refTo (componentName i) ∧ st.Extends C D [i] st'
  | .live hc hl, hp, hi, _, _, _, _ => by
    obtain ⟨hname, hp₀⟩ := hp.componentFor_eq hD hi
    obtain ⟨hs, hip⟩ := componentFor_frame i st
    rw [hc] at hname hp₀ hs hip
    subst hname
    exact ⟨rfl, (Extends.of_live hp₀ hl).of_frame hs hip⟩
  | .build hc _ hbs, hp, hi, e, hce, hfe, hb => by
    obtain ⟨hname, hp₀⟩ := hp.componentFor_eq hD hi
    obtain ⟨hs, hip⟩ := componentFor_frame i st
    rw [hc] at hname hp₀ hs hip
    -- the copy is built with its own named types at the top
    have hroots := roots_buildOf (hC.own i e hce)
    obtain ⟨hschema, hx⟩ := Builds.spec hC hA hD hbs (hp₀.mark _) (hb ▸ fits_buildOf hfe)
      (by rw [hb, hroots]; exact hD.closed i e hi hce)
    subst hname hb hschema
    rw [hroots] at hx
    exact ⟨rfl, (Extends.finish hC hD hce hi hx).of_frame hs hip⟩
termination_by structural h => h

theorem Builds.spec (hC : Coherent C) (hA : Faithful C A) (hD : Domain C D)
    {b : Build} {st st' : SchemaState} {s : Schema} :
    Builds A b st s st' → st.Proper C D → b.Fits C A → (∀ j ∈ b.roots, D j) →
      s = b.schema ∧ st.Extends C D b.roots st'
  | .done, hp, _, _ => ⟨rfl, Extends.refl hp⟩
  | .fields hm, hp, hf, hr => by
    obtain ⟨rfl, he⟩ := Members.spec hC hA hD hm hp hf hr
    exact ⟨rfl, he⟩
  | .descriptor hg, hp, hf, hr => Generates.spec hC hA hD hg hp hf hr
termination_by structural h => h

end

/-- The generator's own run from a proper state. -/
theorem generate_spec (hC : Coherent C) (hA : Faithful C A) (hD : Domain C D) {d : Descriptor}
    {st : SchemaState} (hp : st.Proper C D) (hf : Fits C A d) (hr : ∀ j ∈ d.fold.refs, D j) :
    ((generate A d).run st).1 = schemaOf d ∧
      st.Extends C D d.fold.refs ((generate A d).run st).2 :=
  Generates.spec hC hA hD (generates_run A d st) hp hf hr

end SchemaGen

/-! ### The components after runs from a new generator -/

namespace SchemaState

variable {C : String → Descriptor → Prop} {D : String → Prop} {R : List String}
  {st : SchemaState}

/-- From a new generator, the components built are those of the named types reached. -/
theorem Extends.mem_keys_iff (hD : Domain C D) (hR : ∀ j ∈ R, D j)
    (h : SchemaState.initial.Extends C D R st) {n : String} :
    n ∈ st.keys ↔ ∃ k, Reaches C R k ∧ n = componentName k := by
  have hip : st.inProgress = [] := h.inProgress_eq
  have hkey : ∀ {n}, st.Live n → n ∈ st.keys := fun hl => hl.resolve_right (by simp [hip])
  constructor
  · intro hn
    exact (h.reached n hn).resolve_left nofun
  · rintro ⟨k, hk, rfl⟩
    -- by induction on the reach: what a built component has at its top is live
    induction hk with
    | root hj => exact hkey (h.live _ hj)
    | step hk he hj ih => exact hkey (h.proper.closed _ _ (hD.reaches hR hk) he ih _ hj)

/-- From a new generator, the components are those of the named types reached, each built from
any of its copies. -/
theorem Extends.mem_schemas_iff (hC : Coherent C) (hD : Domain C D) (hR : ∀ j ∈ R, D j)
    (h : SchemaState.initial.Extends C D R st) {x : String × Schema} :
    x ∈ st.schemas ↔ ∃ k e, Reaches C R k ∧ C k e ∧ x = (componentName k, (buildOf e).schema) := by
  constructor
  · intro hx
    obtain ⟨k, e, hk, he, rfl⟩ := h.proper.built x hx
    obtain ⟨k', hk', hname⟩ := (h.mem_keys_iff hD hR).mp (List.mem_map_of_mem hx)
    obtain rfl := hD.apart _ _ hk (hD.reaches hR hk') hname
    exact ⟨k, e, hk', he, rfl⟩
  · rintro ⟨k, e, hk, he, rfl⟩
    obtain ⟨y, hy, hname⟩ := List.mem_map.mp ((h.mem_keys_iff hD hR).mpr ⟨k, hk, rfl⟩)
    obtain ⟨k', e', hk', he', rfl⟩ := h.proper.built y hy
    obtain rfl := hD.apart _ _ hk' (hD.reaches hR hk) hname
    rw [schema_buildOf_eq hC he he'] at *
    exact hy

/-- Two lists sorted by name with the same members are one list. -/
theorem eq_of_sorted_of_mem_iff {β : Type} {l₁ l₂ : List (String × β)}
    (h₁ : l₁.Pairwise (·.1 < ·.1)) (h₂ : l₂.Pairwise (·.1 < ·.1)) (h : ∀ x, x ∈ l₁ ↔ x ∈ l₂) :
    l₁ = l₂ := by
  have : Std.Irrefl fun a b : String × β => a.1 < b.1 := ⟨fun a => String.lt_irrefl a.1⟩
  have : Std.Antisymm fun a b : String × β => a.1 < b.1 :=
    ⟨fun a b hab hba => absurd (String.lt_trans hab hba) (String.lt_irrefl a.1)⟩
  exact h₁.eq_of_mem_iff h₂ h

/-- Two runs from a new generator that reach the same named types build the same components. -/
theorem schemas_eq_of_reaches (hC : Coherent C) (hD : Domain C D) {R₁ R₂ : List String}
    {st₁ st₂ : SchemaState} (hR₁ : ∀ j ∈ R₁, D j) (hR₂ : ∀ j ∈ R₂, D j)
    (h₁ : SchemaState.initial.Extends C D R₁ st₁) (h₂ : SchemaState.initial.Extends C D R₂ st₂)
    (hR : ∀ k, Reaches C R₁ k ↔ Reaches C R₂ k) : st₁.schemas = st₂.schemas := by
  refine eq_of_sorted_of_mem_iff h₁.proper.sorted h₂.proper.sorted fun x => ?_
  rw [h₁.mem_schemas_iff hC hD hR₁, h₂.mem_schemas_iff hC hD hR₂]
  simp only [hR]

end SchemaState

/-! ### Where the named types reached lie -/

namespace Descriptor

mutual

/-- Every identity a descriptor names, at any depth: its named objects and enumerations, and its
references. -/
def identities : Descriptor → List String
  | .object n fs => n.toList ++ identitiesFields fs
  | .enumeration n _ => n.toList
  | .array e => identities e
  | .reference i => [i]
  | .primitive .. => []

/-- The identities the types of fields name. -/
def identitiesFields : List Field → List String
  | [] => []
  | f :: fs => identities f.type ++ identitiesFields fs

end

theorem mem_identities_of_ownName? {d : Descriptor} {k : String} (h : ownName? d = some k) :
    k ∈ d.identities := by
  rcases d with _ | _ | ⟨_ | _, _⟩ | ⟨_ | _, _⟩ | _ <;> simp_all [ownName?, identities]

end Descriptor

namespace SchemaGen

variable {C : String → Descriptor → Prop} {A : Arena}

mutual

/-- A named type at the top of a fitting descriptor has a fitting copy: the named type itself,
whose identities are the descriptor's, or the arena's entry behind a reference. -/
theorem Fits.copy_of_fold (hA : Faithful C A) : {d : Descriptor} → Fits C A d →
    ∀ {j}, j ∈ d.fold.refs → ∃ e, C j e ∧ Fits C A e ∧ (A.get? j = some e ∨ e.identities ⊆ d.identities)
  | .primitive _ _, _, _, hj => absurd hj List.not_mem_nil
  | .enumeration none _, _, _, hj => absurd hj List.not_mem_nil
  | .enumeration (some _) _, hf, _, hj => by
    obtain rfl := List.mem_singleton.mp hj
    exact ⟨_, hf.top rfl, hf, .inr (List.Subset.refl _)⟩
  | .object (some _) _, hf, _, hj => by
    obtain rfl := List.mem_singleton.mp hj
    exact ⟨_, hf.top rfl, hf, .inr (List.Subset.refl _)⟩
  | .object none _, hf, _, hj => Fits.copy_of_foldFields hA hf hj
  | .array _, hf, _, hj => Fits.copy_of_fold hA hf.array hj
  | .reference _, hf, j, hj => by
    obtain rfl := List.mem_singleton.mp hj
    obtain ⟨e, he⟩ := get?_of_mem_keys (hf.refs j (List.mem_singleton_self j))
    obtain ⟨hce, hfe⟩ := hA j e he
    exact ⟨e, hce, hfe, .inl he⟩

theorem Fits.copy_of_foldFields (hA : Faithful C A) : {fs : List Field} →
    Fits C A (.object none fs) → ∀ {j}, j ∈ refsFields (foldFields fs) →
      ∃ e, C j e ∧ Fits C A e ∧ (A.get? j = some e ∨ e.identities ⊆ identitiesFields fs)
  | [], _, _, hj => absurd hj List.not_mem_nil
  | _ :: _, hf, _, hj => by
    rcases List.mem_append.mp hj with hj | hj
    · obtain ⟨e, hce, hfe, hx⟩ := Fits.copy_of_fold hA hf.head hj
      exact ⟨e, hce, hfe, hx.imp_right fun h => List.Subset.trans h (List.subset_append_left _ _)⟩
    · obtain ⟨e, hce, hfe, hx⟩ := Fits.copy_of_foldFields hA hf.tail hj
      exact ⟨e, hce, hfe, hx.imp_right fun h => List.Subset.trans h (List.subset_append_right _ _)⟩

end

/-- What sits at the top of a fitting copy of a named type, inside, has a fitting copy. -/
theorem Fits.copy_of_foldIn (hC : Coherent C) (hA : Faithful C A) {k : String} {e : Descriptor}
    (hce : C k e) (hf : Fits C A e) {j : String} (hj : j ∈ e.foldIn.refs) :
    ∃ e', C j e' ∧ Fits C A e' ∧ (A.get? j = some e' ∨ e'.identities ⊆ e.identities) := by
  -- a copy is a named object or a named enumeration, and only an object has anything inside
  have hown := hC.own k e hce
  rcases e with _ | _ | ⟨_ | _, _⟩ | ⟨_ | _, fs⟩ | _ <;> simp only [ownName?, reduceCtorEq] at hown
  · exact absurd hj List.not_mem_nil
  · obtain ⟨e', hce', hfe', hx⟩ := hf.fields.copy_of_foldFields hA hj
    exact ⟨e', hce', hfe', hx.imp_right fun h => List.Subset.trans h (List.subset_append_right _ _)⟩

/-- Over a faithful arena whose entries name only identities in `S`, every named type reached
from named types with fitting copies naming only identities in `S` has such a copy. -/
theorem Reaches.copy (hC : Coherent C) (hA : Faithful C A) {S : List String}
    (hS : ∀ k e, A.get? k = some e → e.identities ⊆ S) {R : List String}
    (hR : ∀ j ∈ R, ∃ e, C j e ∧ Fits C A e ∧ e.identities ⊆ S) {k : String}
    (hk : Reaches C R k) : ∃ e, C k e ∧ Fits C A e ∧ e.identities ⊆ S := by
  induction hk with
  | root hj => exact hR _ hj
  | step _ he hj ih =>
    obtain ⟨e₀, hce₀, hf₀, hs₀⟩ := ih
    -- the copies of one named type agree inside, so what the known copy has inside is reached
    rw [hC.agree _ _ _ he hce₀] at hj
    obtain ⟨e', hce', hfe', hx⟩ := hf₀.copy_of_foldIn hC hA hce₀ hj
    exact ⟨e', hce', hfe', hx.elim (hS _ _) fun h => List.Subset.trans h hs₀⟩

/-- So every named type reached is one of the identities in `S`. -/
theorem Reaches.mem (hC : Coherent C) (hA : Faithful C A) {S : List String}
    (hS : ∀ k e, A.get? k = some e → e.identities ⊆ S) {R : List String}
    (hR : ∀ j ∈ R, ∃ e, C j e ∧ Fits C A e ∧ e.identities ⊆ S) {k : String}
    (hk : Reaches C R k) : k ∈ S := by
  obtain ⟨e, hce, -, hs⟩ := hk.copy hC hA hS hR
  exact hs (mem_identities_of_ownName? (hC.own k e hce))

end SchemaGen

end ApiSpec
