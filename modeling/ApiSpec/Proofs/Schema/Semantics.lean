import ApiSpec.Proofs.Schema.References

/-!
# Big-step semantics of the schema generator

The generator follows references through the arena, whose entries may refer to each other and
to themselves, so its recursion is not on the descriptor; the program bounds it by a budget. A
generation with no bound is described by a derivation: `SchemaGen.Generates arena d st s st'`
says that the schema of `d` from the state `st` is `s`, and that the generator ends in `st'`.
`Members`, `Ensures` and `Builds` say the same of an object's fields, of a component, and of
what a component is built from. There is one rule for each branch of the code; a reference to a
named type of the arena is that type's own generation, under the type's own name.

* `SchemaState.componentFor_cases`: naming a component either finds the name the identity has,
  or gives it the first free candidate and records it.
* `SchemaGen.Stepwise`: a relation of states that holds across each step a run takes besides
  its nested runs; by induction on derivations it holds from the first state of every
  derivation to its last (`Generates.stepwise`).
* `SchemaState.Grows`: every run keeps the components being built and every built one, and
  extends the names given so far (`grows_stepwise`).
-/

namespace ApiSpec

open Schema SchemaGen

namespace SchemaState

/-! ### The state updates of the generator -/

/-- The component `c` marked as being built. -/
def mark (st : SchemaState) (c : String) : SchemaState := { st with inProgress := c :: st.inProgress }

/-- The component `c` recorded as built, with the schema `s`. -/
def finish (st : SchemaState) (c : String) (s : Schema) : SchemaState :=
  { st with inProgress := st.inProgress.erase c, schemas := insertSorted c s st.schemas }

/-- A warning recorded. -/
def note (st : SchemaState) (n : Notice) : SchemaState := { st with notices := st.notices ++ [n] }

/-- The component an identity has been given so far. -/
def componentOf? (st : SchemaState) (identity : String) : Option String :=
  (st.names.find? (·.1 == identity)).map (·.2)

/-- The test `ensure` makes: the component is built or being built. -/
def isLive (st : SchemaState) (c : String) : Bool :=
  st.schemas.any (·.1 == c) || st.inProgress.contains c

variable (st : SchemaState) (c : String) (s : Schema) (n : Notice)

@[simp] theorem mark_schemas : (st.mark c).schemas = st.schemas := rfl
@[simp] theorem mark_inProgress : (st.mark c).inProgress = c :: st.inProgress := rfl
@[simp] theorem mark_names : (st.mark c).names = st.names := rfl
@[simp] theorem mark_keys : (st.mark c).keys = st.keys := rfl
@[simp] theorem finish_inProgress : (st.finish c s).inProgress = st.inProgress.erase c := rfl
@[simp] theorem finish_schemas : (st.finish c s).schemas = insertSorted c s st.schemas := rfl
@[simp] theorem finish_names : (st.finish c s).names = st.names := rfl
@[simp] theorem note_schemas : (st.note n).schemas = st.schemas := rfl
@[simp] theorem note_inProgress : (st.note n).inProgress = st.inProgress := rfl
@[simp] theorem note_names : (st.note n).names = st.names := rfl
@[simp] theorem note_keys : (st.note n).keys = st.keys := rfl

theorem mem_finish_keys {k : String} : k ∈ (st.finish c s).keys ↔ k = c ∨ k ∈ st.keys :=
  mem_keys_insertSorted

theorem isLive_iff : st.isLive c = true ↔ st.Live c := by
  simp only [isLive, Live, keys, Bool.or_eq_true, List.any_eq_true, beq_iff_eq,
    List.contains_iff_mem, List.mem_map]

theorem componentOf?_eq_some_of_prefix {st st' : SchemaState} {i c : String}
    (h : st.names <+: st'.names) (hc : st.componentOf? i = some c) : st'.componentOf? i = some c := by
  obtain ⟨rest, hrest⟩ := h
  rw [componentOf?, ← hrest, List.find?_append]
  rw [componentOf?] at hc
  cases hf : st.names.find? (·.1 == i) with
  | none => rw [hf] at hc; cases hc
  | some e => rw [hf] at hc; simpa using hc

/-! ### Naming a component -/

/-- What `componentFor` does: an identity that has a component keeps it and nothing changes;
otherwise it takes the first candidate not taken, recorded after the names so far. -/
theorem componentFor_cases (i : String) (st : SchemaState) :
    (st.componentOf? i = some ((componentFor i).run st).1 ∧ ((componentFor i).run st).2 = st) ∨
    (st.componentOf? i = none ∧
      ((componentFor i).run st).1 = freeName (componentName i) (st.names.map (·.2)) ∧
      ((componentFor i).run st).2.names = st.names ++ [(i, ((componentFor i).run st).1)]) := by
  simp only [componentFor, warn, StateT.run_bind, StateT.run_get, pure_bind, componentOf?]
  split
  next e heq => exact .inl ⟨by rw [heq]; rfl, rfl⟩
  next heq =>
    refine .inr ⟨by rw [heq]; rfl, ?_⟩
    split <;> exact ⟨rfl, rfl⟩

theorem componentFor_names_extend (i : String) (st : SchemaState) :
    st.names <+: ((componentFor i).run st).2.names := by
  rcases componentFor_cases i st with ⟨_, h⟩ | ⟨_, _, h⟩
  · simp only [h, List.prefix_refl]
  · simp only [h, List.prefix_append]

/-- After `componentFor i`, the identity has the component it returned. -/
theorem componentOf?_componentFor (i : String) (st : SchemaState) :
    ((componentFor i).run st).2.componentOf? i = some ((componentFor i).run st).1 := by
  rcases componentFor_cases i st with ⟨hc, h⟩ | ⟨hn, _, h⟩
  · rw [h]; exact hc
  · rw [componentOf?, h, List.find?_append]
    rw [componentOf?, Option.map_eq_none_iff] at hn
    simp [hn]

theorem componentFor_of_componentOf? {i c : String} {st : SchemaState}
    (h : st.componentOf? i = some c) : (componentFor i).run st = (c, st) := by
  rcases componentFor_cases i st with ⟨hc, hst⟩ | ⟨hn, _⟩
  · rw [h, Option.some.injEq] at hc
    rw [Prod.ext_iff]
    exact ⟨hc.symm, hst⟩
  · rw [h] at hn; cases hn

end SchemaState

open SchemaState

namespace SchemaGen

/-! ### Derivations -/

/-- What a component is built from: a schema already made, an object's fields, or a
descriptor. -/
inductive Build where
  | done (s : Schema)
  | fields (fs : List Field)
  | descriptor (d : Descriptor)

/-- The schema of an object, given the schemas of its members. -/
def objectSchema (fields : List Field) (members : List (String × Schema)) : Schema :=
  let required := (fields.filter (·.required)).map (·.name)
  { Schema.ofType "object" with
    properties := some members, required := if required.isEmpty then none else some required }

/-- The name a descriptor is a component under when it is one of its own: that of a named
object or enumeration. -/
def ownName? : Descriptor → Option String
  | .object (some n) _ => some n
  | .enumeration (some n) _ => some n
  | _ => none

variable (arena : Arena)

mutual

/-- `Generates arena d st s st'`: the schema of `d` from `st` is `s`, in the state `st'`. -/
inductive Generates : Descriptor → SchemaState → Schema → SchemaState → Prop
  | primitive {k f st} : Generates (.primitive k f) st { Schema.ofType k.name with format := f } st
  | array {e st s st'} : Generates e st s st' →
      Generates (.array e) st { Schema.ofType "array" with items := some s } st'
  | enumeration {vs st} : Generates (.enumeration none vs) st (enumSchema vs) st
  | namedEnumeration {i vs st s st'} : Ensures i (.done (enumSchema vs)) st s st' →
      Generates (.enumeration (some i) vs) st s st'
  | object {fs st s st'} : Builds (.fields fs) st s st' → Generates (.object none fs) st s st'
  | namedObject {i fs st s st'} : Ensures i (.fields fs) st s st' →
      Generates (.object (some i) fs) st s st'
  | named {i d st s st'} : arena.get? i = some d → ownName? d ≠ none → Generates d st s st' →
      Generates (.reference i) st s st'
  | entry {i d st s st'} : arena.get? i = some d → ownName? d = none →
      Ensures i (.descriptor d) st s st' → Generates (.reference i) st s st'
  | dangling {i st s st'} : arena.get? i = none →
      Ensures i (.done (Schema.ofType "object")) (st.note (.danglingReference i)) s st' →
      Generates (.reference i) st s st'

/-- `Members arena acc fs st ms st'`: the members `acc` with those of `fs` set in order. -/
inductive Members : List (String × Schema) → List Field → SchemaState → List (String × Schema) →
    SchemaState → Prop
  | nil {acc st} : Members acc [] st acc st
  | cons {acc f fs st s st₁ ms st₂} : Generates f.type st s st₁ →
      Members (setKey f.name (propertySchema f s) acc) fs st₁ ms st₂ →
      Members acc (f :: fs) st ms st₂

/-- `Ensures arena i b st s st'`: the reference to the component of `i`, built from `b` unless
it is built or being built. -/
inductive Ensures : String → Build → SchemaState → Schema → SchemaState → Prop
  | live {i b st c st₀} : (componentFor i).run st = (c, st₀) → st₀.Live c →
      Ensures i b st (refTo c) st₀
  | build {i b st c st₀ s st₁} : (componentFor i).run st = (c, st₀) → ¬ st₀.Live c →
      Builds b (st₀.mark c) s st₁ → Ensures i b st (refTo c) (st₁.finish c s)

/-- `Builds arena b st s st'`: the schema that `b` builds is `s`. -/
inductive Builds : Build → SchemaState → Schema → SchemaState → Prop
  | done {s st} : Builds (.done s) st s st
  | fields {fs st ms st'} : Members [] fs st ms st' → Builds (.fields fs) st (objectSchema fs ms) st'
  | descriptor {d st s st'} : Generates d st s st' → Builds (.descriptor d) st s st'

end

/-! ### What every step keeps -/

/-- A relation of states that holds across each step of a run other than its nested runs:
naming a component, a warning, and recording a component around the run that built it. -/
structure Stepwise (P : SchemaState → SchemaState → Prop) : Prop where
  refl : ∀ st, P st st
  trans : ∀ {st₁ st₂ st₃}, P st₁ st₂ → P st₂ st₃ → P st₁ st₃
  name : ∀ i st, P st ((componentFor i).run st).2
  note : ∀ n st, P st (st.note n)
  build : ∀ c s {st st'}, P (st.mark c) st' → P st (st'.finish c s)

variable {arena} {P : SchemaState → SchemaState → Prop}

theorem Stepwise.name_eq (hP : Stepwise P) {i : String} {st st₀ : SchemaState} {c : String}
    (h : (componentFor i).run st = (c, st₀)) : P st st₀ := by
  have := hP.name i st
  rwa [h] at this

mutual

theorem Generates.stepwise (hP : Stepwise P) {d : Descriptor} {st st' : SchemaState} {s : Schema} :
    Generates arena d st s st' → P st st'
  | .primitive => hP.refl _
  | .array h => h.stepwise hP
  | .enumeration => hP.refl _
  | .namedEnumeration h => h.stepwise hP
  | .object h => h.stepwise hP
  | .namedObject h => h.stepwise hP
  | .named _ _ h => h.stepwise hP
  | .entry _ _ h => h.stepwise hP
  | .dangling _ h => hP.trans (hP.note _ _) (h.stepwise hP)

theorem Members.stepwise (hP : Stepwise P) {acc ms : List (String × Schema)} {fs : List Field}
    {st st' : SchemaState} : Members arena acc fs st ms st' → P st st'
  | .nil => hP.refl _
  | .cons h hs => hP.trans (h.stepwise hP) (hs.stepwise hP)

theorem Ensures.stepwise (hP : Stepwise P) {i : String} {b : Build} {st st' : SchemaState}
    {s : Schema} : Ensures arena i b st s st' → P st st'
  | .live hc _ => hP.name_eq hc
  | .build hc _ h => hP.trans (hP.name_eq hc) (hP.build _ _ (h.stepwise hP))

theorem Builds.stepwise (hP : Stepwise P) {b : Build} {st st' : SchemaState} {s : Schema} :
    Builds arena b st s st' → P st st'
  | .done => hP.refl _
  | .fields h => h.stepwise hP
  | .descriptor h => h.stepwise hP

end

/-! ### One result for each start -/

mutual

/-- The generator is a function: a descriptor has one derivation's result from each state. -/
theorem Generates.deterministic {d : Descriptor} {st st₁ : SchemaState} {s₁ : Schema} :
    Generates arena d st s₁ st₁ → ∀ {s₂ st₂}, Generates arena d st s₂ st₂ → s₁ = s₂ ∧ st₁ = st₂
  | .primitive, _, _, h₂ => by cases h₂; exact ⟨rfl, rfl⟩
  | .array h, _, _, h₂ => by
    cases h₂ with
    | array h' =>
      obtain ⟨rfl, rfl⟩ := h.deterministic h'
      exact ⟨rfl, rfl⟩
  | .enumeration, _, _, h₂ => by cases h₂; exact ⟨rfl, rfl⟩
  | .namedEnumeration h, _, _, h₂ => by
    cases h₂ with
    | namedEnumeration h' => exact h.deterministic h'
  | .object h, _, _, h₂ => by
    cases h₂ with
    | object h' => exact h.deterministic h'
  | .namedObject h, _, _, h₂ => by
    cases h₂ with
    | namedObject h' => exact h.deterministic h'
  | .named hg hn h, _, _, h₂ => by
    -- both runs read the same entry of the arena
    cases h₂ with
    | named hg' _ h' =>
      rw [hg, Option.some.injEq] at hg'
      subst hg'
      exact h.deterministic h'
    | entry hg' hn' _ =>
      rw [hg, Option.some.injEq] at hg'
      subst hg'
      exact absurd hn' hn
    | dangling hg' _ =>
      rw [hg] at hg'
      cases hg'
  | .entry hg hn h, _, _, h₂ => by
    cases h₂ with
    | named hg' hn' _ =>
      rw [hg, Option.some.injEq] at hg'
      subst hg'
      exact absurd hn hn'
    | entry hg' _ h' =>
      rw [hg, Option.some.injEq] at hg'
      subst hg'
      exact h.deterministic h'
    | dangling hg' _ =>
      rw [hg] at hg'
      cases hg'
  | .dangling hg h, _, _, h₂ => by
    cases h₂ with
    | named hg' _ _ =>
      rw [hg] at hg'
      cases hg'
    | entry hg' _ _ =>
      rw [hg] at hg'
      cases hg'
    | dangling _ h' => exact h.deterministic h'
termination_by structural h => h

theorem Members.deterministic {acc ms₁ : List (String × Schema)} {fs : List Field}
    {st st₁ : SchemaState} :
    Members arena acc fs st ms₁ st₁ → ∀ {ms₂ st₂}, Members arena acc fs st ms₂ st₂ →
      ms₁ = ms₂ ∧ st₁ = st₂
  | .nil, _, _, h₂ => by cases h₂; exact ⟨rfl, rfl⟩
  | .cons h hs, _, _, h₂ => by
    cases h₂ with
    | cons h' hs' =>
      obtain ⟨rfl, rfl⟩ := h.deterministic h'
      exact hs.deterministic hs'
termination_by structural h => h

theorem Ensures.deterministic {i : String} {b : Build} {st st₁ : SchemaState} {s₁ : Schema} :
    Ensures arena i b st s₁ st₁ → ∀ {s₂ st₂}, Ensures arena i b st s₂ st₂ → s₁ = s₂ ∧ st₁ = st₂
  | .live hc hl, _, _, h₂ => by
    -- both runs name the same component, and find it live or not alike
    cases h₂ with
    | live hc' _ =>
      rw [hc, Prod.mk.injEq] at hc'
      obtain ⟨rfl, rfl⟩ := hc'
      exact ⟨rfl, rfl⟩
    | build hc' hl' _ =>
      rw [hc, Prod.mk.injEq] at hc'
      obtain ⟨rfl, rfl⟩ := hc'
      exact absurd hl hl'
  | .build hc hl h, _, _, h₂ => by
    cases h₂ with
    | live hc' hl' =>
      rw [hc, Prod.mk.injEq] at hc'
      obtain ⟨rfl, rfl⟩ := hc'
      exact absurd hl' hl
    | build hc' _ h' =>
      rw [hc, Prod.mk.injEq] at hc'
      obtain ⟨rfl, rfl⟩ := hc'
      obtain ⟨rfl, rfl⟩ := h.deterministic h'
      exact ⟨rfl, rfl⟩
termination_by structural h => h

theorem Builds.deterministic {b : Build} {st st₁ : SchemaState} {s₁ : Schema} :
    Builds arena b st s₁ st₁ → ∀ {s₂ st₂}, Builds arena b st s₂ st₂ → s₁ = s₂ ∧ st₁ = st₂
  | .done, _, _, h₂ => by cases h₂; exact ⟨rfl, rfl⟩
  | .fields h, _, _, h₂ => by
    cases h₂ with
    | fields h' =>
      obtain ⟨rfl, rfl⟩ := h.deterministic h'
      exact ⟨rfl, rfl⟩
  | .descriptor h, _, _, h₂ => by
    cases h₂ with
    | descriptor h' => exact h.deterministic h'
termination_by structural h => h

end

end SchemaGen

namespace SchemaState

/-- What every run keeps: the components being built and every built one, and the names given
so far, which it may only extend. -/
structure Grows (st st' : SchemaState) : Prop extends st.Step st' where
  names_extend : st.names <+: st'.names

theorem grows_stepwise : Stepwise Grows where
  refl st := ⟨Step.refl st, List.prefix_refl _⟩
  trans h h' := ⟨h.toStep.trans h'.toStep, h.names_extend.trans h'.names_extend⟩
  name i st :=
    ⟨Step.of_frame (componentFor_frame i st).1 (componentFor_frame i st).2,
      componentFor_names_extend i st⟩
  note _ st := ⟨Step.of_frame rfl rfl, List.prefix_refl _⟩
  build c s {st st'} h := by
    -- the component leaves the components being built and joins the built ones
    have hip : st'.inProgress = c :: st.inProgress := h.inProgress_eq
    refine ⟨⟨by simp [hip], fun k hk => ?_⟩, h.names_extend⟩
    exact (mem_finish_keys st' c s).mpr (.inr (h.keys_subset hk))

theorem Grows.live {st st' : SchemaState} (h : st.Grows st') {n : String} (hn : st.Live n) :
    st'.Live n :=
  h.toStep.live hn

end SchemaState

end ApiSpec
