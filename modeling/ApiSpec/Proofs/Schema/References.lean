import ApiSpec.Schema.Generator

/-!
# The references of generated schemas

A schema refers to components by `$ref`, at any depth: in its properties, its items and its
`not`. The generator hands out a reference to a component as soon as the component is being
built, before it is finished, and finishes it later; so the invariant is about *live*
components, those built or being built.

* `SchemaState.Closed`: every built component refers to live components only.
* `SchemaGen.Triple P x Q`: from a closed state where `P` holds, a run of `x` ends in a closed
  state, keeps the components being built and every built one (`SchemaState.Step`), and its
  result satisfies `Q`. The rules follow the generator's `do` blocks.
* `triple_ensure`: a component is marked as being built, built, and recorded; what was live
  stays live, so the references the build handed out still point somewhere.
* `sound_generateWith`: whatever the budget, every schema the generator returns refers to live
  components only; by induction on the budget, one step lemma for each of the three mutually
  recursive builders.
-/

namespace ApiSpec

namespace Schema

/-- What a reference to a component starts with. -/
def refPrefix : String := "#/components/schemas/"

mutual

/-- The targets of the `$ref` keywords of a schema, at any depth. -/
def refs : Schema → List String
  | ⟨ref, _, _, _, properties, _, items, _, _, _, _, _, _, _, _, not, _⟩ =>
    ref.toList ++
      (match properties with
        | some ps => refsFields ps
        | none => []) ++
      (match items with
        | some i => refs i
        | none => []) ++
      (match not with
        | some n => refs n
        | none => [])

/-- The references of named schemas. -/
def refsFields : List (String × Schema) → List String
  | [] => []
  | (_, s) :: rest => refs s ++ refsFields rest

end

theorem refs_eq (s : Schema) :
    s.refs = s.ref.toList ++ (s.properties.map refsFields).getD [] ++ (s.items.map refs).getD [] ++
      (s.not.map refs).getD [] := by
  obtain ⟨ref, _, _, _, properties, _, items, _, _, _, _, _, _, _, _, not, _⟩ := s
  cases properties <;> cases items <;> cases not <;> rfl

theorem mem_refsFields {r : String} {ms : List (String × Schema)} :
    r ∈ refsFields ms ↔ ∃ e ∈ ms, r ∈ e.2.refs := by
  induction ms with
  | nil => simp [refsFields]
  | cons e ms ih =>
    obtain ⟨k, s⟩ := e
    simp [refsFields, ih]

@[simp] theorem refs_refTo (c : String) : (refTo c).refs = [refPrefix ++ c] := rfl

@[simp] theorem refs_typed (t : String) (f : Option String) :
    { ofType t with format := f }.refs = [] := rfl

@[simp] theorem refs_array (i : Schema) : { ofType "array" with items := some i }.refs = i.refs := by
  simp [refs_eq, ofType]

@[simp] theorem refs_object (ms : List (String × Schema)) (r : Option (List String)) :
    { ofType "object" with properties := some ms, required := r }.refs = refsFields ms := by
  simp [refs_eq, ofType]

@[simp] theorem refs_described (s : Schema) (d : Option String) (x : Option Json) :
    { s with description := d, sample := x }.refs = s.refs := by
  rw [refs_eq, refs_eq]

/-- Constraints add no reference: the excluded values are an enumeration. -/
theorem refs_constrain_subset (s : Schema) (c : Constraints) : (s.constrain c).refs ⊆ s.refs := by
  rw [refs_eq, refs_eq]
  cases h : c.notIn with
  | none => simp [constrain, h]
  | some vs =>
    have hn : ({ enumValues := some vs } : Schema).refs = [] := rfl
    simp only [constrain, h, Option.map_some, Option.getD_some, hn, List.append_nil]
    exact List.subset_append_left _ _

end Schema

open Schema SchemaGen

namespace SchemaState

/-- The names of the built components. -/
def keys (st : SchemaState) : List String := st.schemas.map (·.1)

/-- A component that is built or being built. -/
def Live (st : SchemaState) (n : String) : Prop := n ∈ st.keys ∨ n ∈ st.inProgress

/-- A reference to a live component. -/
def Covers (st : SchemaState) (r : String) : Prop := ∃ n, r = refPrefix ++ n ∧ st.Live n

/-- Every reference of a list is to a live component. -/
def CoversAll (st : SchemaState) (rs : List String) : Prop := ∀ r ∈ rs, st.Covers r

/-- Every built component refers to live components only. -/
def Closed (st : SchemaState) : Prop := ∀ e ∈ st.schemas, st.CoversAll e.2.refs

/-- What a run of the generator keeps: the components being built, and every built one. -/
structure Step (st st' : SchemaState) : Prop where
  inProgress_eq : st'.inProgress = st.inProgress
  keys_subset : st.keys ⊆ st'.keys

variable {st st' st'' : SchemaState}

theorem Step.refl (st : SchemaState) : st.Step st := ⟨rfl, List.Subset.refl _⟩

theorem Step.trans (h : st.Step st') (h' : st'.Step st'') : st.Step st'' :=
  ⟨h'.inProgress_eq.trans h.inProgress_eq, List.Subset.trans h.keys_subset h'.keys_subset⟩

theorem Step.of_frame (hs : st'.schemas = st.schemas) (hi : st'.inProgress = st.inProgress) :
    st.Step st' :=
  ⟨hi, by rw [keys, keys, hs]; exact List.Subset.refl _⟩

theorem Step.live (h : st.Step st') {n : String} (hn : st.Live n) : st'.Live n := by
  rcases hn with hn | hn
  · exact .inl (h.keys_subset hn)
  · exact .inr (h.inProgress_eq ▸ hn)

theorem Covers.mono {r : String} (h : st.Covers r) (hl : ∀ n, st.Live n → st'.Live n) :
    st'.Covers r := by
  obtain ⟨n, rfl, hn⟩ := h
  exact ⟨n, rfl, hl n hn⟩

theorem CoversAll.mono {rs : List String} (h : st.CoversAll rs)
    (hl : ∀ n, st.Live n → st'.Live n) : st'.CoversAll rs :=
  fun r hr => (h r hr).mono hl

theorem CoversAll.of_subset {rs rs' : List String} (h : st.CoversAll rs) (hs : rs' ⊆ rs) :
    st.CoversAll rs' :=
  fun r hr => h r (hs hr)

theorem coversAll_nil (st : SchemaState) : st.CoversAll [] := nofun

theorem CoversAll.append {rs rs' : List String} (h : st.CoversAll rs) (h' : st.CoversAll rs') :
    st.CoversAll (rs ++ rs') := by
  intro r hr
  rcases List.mem_append.mp hr with hr | hr
  · exact h r hr
  · exact h' r hr

theorem coversAll_flatMap {α : Type} {l : List α} {f : α → List String}
    (h : ∀ a ∈ l, st.CoversAll (f a)) : st.CoversAll (l.flatMap f) := by
  intro r hr
  obtain ⟨a, ha, hr⟩ := List.mem_flatMap.mp hr
  exact h a ha r hr

theorem Closed.mono (h : st.Closed) (hs : st'.schemas = st.schemas)
    (hl : ∀ n, st.Live n → st'.Live n) : st'.Closed := by
  intro e he
  rw [hs] at he
  exact (h e he).mono hl

theorem coversAll_refTo {c : String} (h : st.Live c) : st.CoversAll (refTo c).refs := by
  intro r hr
  rw [refs_refTo, List.mem_singleton] at hr
  exact ⟨c, hr, h⟩

/-- The test `ensure` makes before it builds a component. -/
theorem live_of_any {c : String}
    (h : (st.schemas.any (·.1 == c) || st.inProgress.contains c) = true) : st.Live c := by
  simp only [Bool.or_eq_true, List.any_eq_true, beq_iff_eq, List.contains_iff_mem] at h
  rcases h with ⟨e, he, rfl⟩ | h
  · exact .inl (List.mem_map_of_mem he)
  · exact .inr h

end SchemaState

open SchemaState

namespace SchemaGen

/-- A property of states that holds on while the live components grow. -/
def Stable (R : SchemaState → Prop) : Prop :=
  ∀ st st', R st → (∀ n, st.Live n → st'.Live n) → R st'

/-- From a closed state where `P` holds, a run of `x` ends in a closed state, as a step of the
generator, and its result satisfies `Q`. -/
def Triple {α : Type} (P : SchemaState → Prop) (x : SchemaM α) (Q : α → SchemaState → Prop) :
    Prop :=
  ∀ st, st.Closed → P st →
    (x.run st).2.Closed ∧ st.Step (x.run st).2 ∧ Q (x.run st).1 (x.run st).2

/-- A builder of schemas whose result refers to live components only. -/
def Sound (x : SchemaM Schema) : Prop := Triple (fun _ => True) x fun s st => st.CoversAll s.refs

theorem stable_coversAll (rs : List String) : Stable fun st => st.CoversAll rs :=
  fun _ _ h hl => h.mono hl

theorem Stable.and {R R' : SchemaState → Prop} (h : Stable R) (h' : Stable R') :
    Stable fun st => R st ∧ R' st :=
  fun st st' hr hl => ⟨h st st' hr.1 hl, h' st st' hr.2 hl⟩

namespace Triple

variable {α β : Type} {P P' R : SchemaState → Prop} {Q Q' : α → SchemaState → Prop} {x : SchemaM α}

theorem conseq (ht : Triple P x Q) (hp : ∀ st, P' st → P st) (hq : ∀ a st, Q a st → Q' a st) :
    Triple P' x Q' := by
  intro st hc hp'
  obtain ⟨hc', hstep, hq'⟩ := ht st hc (hp st hp')
  exact ⟨hc', hstep, hq _ _ hq'⟩

protected theorem pure {a : α} (h : ∀ st, P st → Q a st) : Triple P (pure a) Q :=
  fun st hc hp => ⟨hc, Step.refl st, h st hp⟩

protected theorem bind {Q₁ : α → SchemaState → Prop} {Q : β → SchemaState → Prop}
    {f : α → SchemaM β} (hx : Triple P x Q₁) (hf : ∀ a, Triple (Q₁ a) (f a) Q) :
    Triple P (x >>= f) Q := by
  intro st hc hp
  obtain ⟨hc₁, hs₁, hq₁⟩ := hx st hc hp
  obtain ⟨hc₂, hs₂, hq⟩ := hf _ _ hc₁ hq₁
  exact ⟨hc₂, hs₁.trans hs₂, hq⟩

/-- What the growth of the live components keeps holds across any run. -/
theorem frame (ht : Triple P x Q) (hR : Stable R) :
    Triple (fun st => P st ∧ R st) x (fun a st => Q a st ∧ R st) := by
  intro st hc hpr
  obtain ⟨hc', hstep, hq⟩ := ht st hc hpr.1
  exact ⟨hc', hstep, hq, hR _ _ hpr.2 fun _ => hstep.live⟩

theorem frame_true (ht : Triple (fun _ => True) x Q) (hR : Stable R) :
    Triple R x (fun a st => Q a st ∧ R st) :=
  (ht.frame hR).conseq (fun _ h => ⟨trivial, h⟩) fun _ _ h => h

/-- A computation that leaves the components alone keeps every stable property. -/
theorem of_frame (hx : ∀ st, (x.run st).2.schemas = st.schemas ∧
      (x.run st).2.inProgress = st.inProgress) (hR : Stable R) :
    Triple R x fun _ => R := by
  intro st hc hr
  have hstep := Step.of_frame (hx st).1 (hx st).2
  exact ⟨hc.mono (hx st).1 fun _ => hstep.live, hstep, hR _ _ hr fun _ => hstep.live⟩

protected theorem get : Triple P get fun a st => a = st ∧ P st :=
  fun st hc hp => ⟨hc, Step.refl st, rfl, hp⟩

theorem foldlM {γ : Type} {I : β → SchemaState → Prop} {f : β → γ → SchemaM β} {l : List γ}
    (hf : ∀ a ∈ l, ∀ b, Triple (I b) (f b a) I) (b : β) : Triple (I b) (l.foldlM f b) I := by
  induction l generalizing b with
  | nil => exact Triple.pure fun _ h => h
  | cons a l ih =>
    rw [List.foldlM_cons]
    exact (hf a (.head l) b).bind fun b' => ih (fun a ha => hf a (.tail _ ha)) b'

theorem mapM {γ : Type} {Q : β → SchemaState → Prop} {f : γ → SchemaM β} {l : List γ}
    (hf : ∀ a ∈ l, Triple (fun _ => True) (f a) Q) (hQ : ∀ b, Stable (Q b)) :
    Triple (fun _ => True) (l.mapM f) fun bs st => ∀ b ∈ bs, Q b st := by
  induction l with
  | nil =>
    rw [List.mapM_nil]
    exact Triple.pure fun _ _ _ => nofun
  | cons a l ih =>
    rw [List.mapM_cons]
    refine (hf a (.head l)).bind fun b => ?_
    refine ((ih fun a ha => hf a (.tail _ ha)).frame_true (hQ b)).bind fun bs =>
      Triple.pure fun st h => ?_
    intro b' hb'
    rcases List.mem_cons.mp hb' with rfl | hb'
    · exact h.2
    · exact h.1 b' hb'

end Triple

theorem sound_pure {s : Schema} (h : s.refs = []) : Sound (pure s) :=
  Triple.pure fun st _ => h ▸ coversAll_nil st

/-! ### Components -/

theorem componentFor_frame (identity : String) (st : SchemaState) :
    ((componentFor identity).run st).2.schemas = st.schemas ∧
      ((componentFor identity).run st).2.inProgress = st.inProgress := by
  simp only [componentFor, warn, StateT.run_bind, StateT.run_get, pure_bind]
  split
  · exact ⟨rfl, rfl⟩
  · split <;> exact ⟨rfl, rfl⟩

/-- What `ensure` does: it names the component, and builds it unless it is built or being
built. -/
theorem ensure_run (identity : String) (build : SchemaM Schema) (st : SchemaState) :
    (ensure identity build).run st =
      let c := ((componentFor identity).run st).1
      let st₀ := ((componentFor identity).run st).2
      if st₀.schemas.any (·.1 == c) || st₀.inProgress.contains c then (refTo c, st₀)
      else
        let st₁ := { st₀ with inProgress := c :: st₀.inProgress }
        let st₂ := (build.run st₁).2
        let st₃ := { st₂ with
          inProgress := st₂.inProgress.erase c
          schemas := insertSorted c (build.run st₁).1 st₂.schemas }
        (refTo c, st₃) := by
  unfold ensure
  simp only [StateT.run_bind, StateT.run_get, pure_bind]
  generalize (componentFor identity).run st = p
  obtain ⟨c, st₀⟩ := p
  change (pure (c, st₀) >>= _) = _
  rw [pure_bind]
  dsimp only
  split <;> rfl

theorem mem_insertSorted {c : String} {s : Schema} {l : List (String × Schema)}
    {e : String × Schema} (h : e ∈ insertSorted c s l) : e = (c, s) ∨ e ∈ l := by
  induction l with
  | nil => simpa [insertSorted] using h
  | cons e' l ih =>
    obtain ⟨k, v⟩ := e'
    unfold insertSorted at h
    split at h
    · simpa using h
    · split at h
      · simp only [List.mem_cons] at h ⊢
        rcases h with h | h
        · exact .inl h
        · exact .inr (.inr h)
      · simp only [List.mem_cons] at h ⊢
        rcases h with h | h
        · exact .inr (.inl h)
        · rcases ih h with h | h
          · exact .inl h
          · exact .inr (.inr h)

theorem mem_keys_insertSorted {c k : String} {s : Schema} {l : List (String × Schema)} :
    k ∈ (insertSorted c s l).map (·.1) ↔ k = c ∨ k ∈ l.map (·.1) := by
  induction l with
  | nil => simp [insertSorted]
  | cons e l ih =>
    obtain ⟨k', v⟩ := e
    unfold insertSorted
    split
    · simp
    · split
      next heq =>
        rw [beq_iff_eq] at heq
        subst heq
        simp
      next => simp only [List.map_cons, List.mem_cons, ih]; exact or_left_comm

/-- Recording a finished component: what was live stays live, the component now as built. -/
theorem live_finish {st : SchemaState} {c : String} {schema : Schema} {rest : List String}
    (hip : st.inProgress = c :: rest) {n : String} (hn : st.Live n) :
    SchemaState.Live { st with
      inProgress := st.inProgress.erase c
      schemas := insertSorted c schema st.schemas } n := by
  rw [hip, List.erase_cons_head]
  rcases hn with hn | hn
  · exact .inl (mem_keys_insertSorted.mpr (.inr hn))
  · rw [hip] at hn
    rcases List.mem_cons.mp hn with rfl | hn
    · exact .inl (mem_keys_insertSorted.mpr (.inl rfl))
    · exact .inr hn

/-- A component is built once: a reference to it is live from the moment it is being built, and
when it is recorded its own references are live. -/
theorem sound_ensure (identity : String) {build : SchemaM Schema} (hb : Sound build) :
    Sound (ensure identity build) := by
  intro st hc _
  obtain ⟨hs₀, hi₀⟩ := componentFor_frame identity st
  rw [ensure_run]
  generalize (componentFor identity).run st = p at hs₀ hi₀ ⊢
  obtain ⟨c, st₀⟩ := p
  dsimp only at hs₀ hi₀ ⊢
  have hstep₀ : st.Step st₀ := Step.of_frame hs₀ hi₀
  split
  next hlive => exact ⟨hc.mono hs₀ fun _ => hstep₀.live, hstep₀, coversAll_refTo (live_of_any hlive)⟩
  next =>
    -- the component is marked as being built, then built
    have hc₁ : SchemaState.Closed { st₀ with inProgress := c :: st₀.inProgress } :=
      hc.mono hs₀ fun n hn => hn.imp (hstep₀.keys_subset ·) fun h => .tail c (hi₀ ▸ h)
    obtain ⟨hc₂, hstep₂, hcov₂⟩ := hb _ hc₁ trivial
    generalize build.run { st₀ with inProgress := c :: st₀.inProgress } = q at hc₂ hstep₂ hcov₂ ⊢
    obtain ⟨schema, st₂⟩ := q
    dsimp only at hc₂ hstep₂ hcov₂ ⊢
    have hip : st₂.inProgress = c :: st.inProgress := hstep₂.inProgress_eq.trans (by rw [hi₀])
    -- then recorded, with what it refers to live
    refine ⟨?_, ⟨by simp [hip], ?_⟩, coversAll_refTo (.inl (mem_keys_insertSorted.mpr (.inl rfl)))⟩
    · intro e he
      rcases mem_insertSorted he with rfl | he
      · exact hcov₂.mono fun _ => live_finish hip
      · exact (hc₂ e he).mono fun _ => live_finish hip
    · intro k hk
      exact mem_keys_insertSorted.mpr (.inr (hstep₂.keys_subset (hstep₀.keys_subset hk)))

/-! ### Objects -/

theorem mem_setKey {α : Type} {k : String} {v : α} {l : List (String × α)} {e : String × α}
    (h : e ∈ setKey k v l) : e = (k, v) ∨ e ∈ l := by
  unfold setKey at h
  split at h
  · obtain ⟨⟨k', w⟩, he, rfl⟩ := List.mem_map.mp h
    dsimp only
    split
    next heq => exact .inl (by rw [beq_iff_eq.mp heq])
    next => exact .inr he
  · rcases List.mem_append.mp h with h | h
    · exact .inr h
    · exact .inl (List.mem_singleton.mp h)

theorem coversAll_refsFields_setKey {st : SchemaState} {ms : List (String × Schema)} {s : Schema}
    (h : st.CoversAll (refsFields ms)) (hs : st.CoversAll s.refs) (k : String) :
    st.CoversAll (refsFields (setKey k s ms)) := by
  intro r hr
  obtain ⟨e, he, hr⟩ := mem_refsFields.mp hr
  rcases mem_setKey he with rfl | he
  · exact hs r hr
  · exact h r (mem_refsFields.mpr ⟨e, he, hr⟩)

theorem refs_propertySchema_subset (f : Field) (s : Schema) :
    (propertySchema f s).refs ⊆ s.refs := by
  unfold propertySchema
  split
  · exact List.Subset.refl _
  · rw [refs_described]
    exact refs_constrain_subset s f.constraints

/-! ### The builders, one budget step at a time -/

section Generation

variable {arena : Arena} {fuel : Nat}

/-- One field is built, and set among the fields so far. -/
theorem triple_field (hg : ∀ d, Sound (generateWith arena fuel d)) (acc : List (String × Schema))
    (f : Field) :
    Triple (fun st => st.CoversAll (refsFields acc))
      (do let s ← generateWith arena fuel f.type; return setKey f.name (propertySchema f s) acc)
      fun acc' st => st.CoversAll (refsFields acc') := by
  refine ((hg f.type).frame_true (stable_coversAll _)).bind fun s => Triple.pure fun st h => ?_
  obtain ⟨hs, hacc⟩ := h
  exact coversAll_refsFields_setKey hacc (CoversAll.of_subset hs (refs_propertySchema_subset f s))
    f.name

theorem sound_objectWith_succ (hg : ∀ d, Sound (generateWith arena fuel d)) (fields : List Field) :
    Sound (objectWith arena (fuel + 1) fields) := by
  rw [objectWith]
  have hfold := Triple.foldlM (fun f _ acc => triple_field hg acc f) (l := fields) []
  refine (hfold.conseq (fun st _ => coversAll_nil st) fun _ _ h => h).bind fun members =>
    Triple.pure fun st h => ?_
  rw [refs_object]
  exact h

theorem sound_generateWith_succ (hg : ∀ d, Sound (generateWith arena fuel d))
    (ho : ∀ fields, Sound (objectWith arena fuel fields))
    (hr : ∀ identity, Sound (referenceWith arena fuel identity)) (d : Descriptor) :
    Sound (generateWith arena (fuel + 1) d) := by
  rw [generateWith.eq_def]
  dsimp only
  cases d with
  | primitive k f => exact sound_pure (refs_typed _ _)
  | array elem =>
    refine (hg elem).bind fun items => Triple.pure fun st h => ?_
    rw [refs_array]
    exact h
  | enumeration n values =>
    cases n with
    | none => exact sound_pure rfl
    | some identity => exact sound_ensure identity (sound_pure rfl)
  | object n fields =>
    cases n with
    | none => exact ho fields
    | some identity => exact sound_ensure identity (ho fields)
  | reference identity => exact hr identity

/-- A reference is followed through the arena: a named type that another identity points to is
built under its own name, and an identity with no entry becomes a free object, as a component
all the same. -/
theorem sound_referenceWith_succ (hg : ∀ d, Sound (generateWith arena fuel d))
    (ho : ∀ fields, Sound (objectWith arena fuel fields)) (identity : String) :
    Sound (referenceWith arena (fuel + 1) identity) := by
  rw [referenceWith.eq_def]
  dsimp only
  split
  · split
    · exact sound_ensure identity (ho _)
    · exact hg _
  · split
    · exact sound_ensure identity (sound_pure rfl)
    · exact hg _
  · exact sound_ensure identity (hg _)
  · refine (Triple.of_frame (fun _ => ⟨rfl, rfl⟩) fun _ _ h _ => h).bind fun _ => ?_
    exact sound_ensure identity (sound_pure rfl)

end Generation

/-- Every schema the generator builds refers to live components only, whatever the budget. -/
theorem sound_generateWith (arena : Arena) : ∀ fuel,
    (∀ d, Sound (generateWith arena fuel d)) ∧ (∀ fields, Sound (objectWith arena fuel fields)) ∧
      ∀ identity, Sound (referenceWith arena fuel identity)
  | 0 => by
    -- out of budget, every builder gives the free object
    refine ⟨fun d => ?_, fun fields => ?_, fun identity => ?_⟩
    · rw [generateWith]
      exact sound_pure rfl
    · rw [objectWith]
      exact sound_pure rfl
    · rw [referenceWith]
      exact sound_pure rfl
  | fuel + 1 => by
    obtain ⟨hg, ho, hr⟩ := sound_generateWith arena fuel
    exact ⟨sound_generateWith_succ hg ho hr, sound_objectWith_succ hg,
      sound_referenceWith_succ hg ho⟩

theorem sound_generate (arena : Arena) (d : Descriptor) : Sound (generate arena d) :=
  (sound_generateWith arena _).1 d

end SchemaGen

end ApiSpec
