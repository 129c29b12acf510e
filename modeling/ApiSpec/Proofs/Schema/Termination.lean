import ApiSpec.Proofs.Schema.Semantics
import ApiSpec.Proofs.Resolve.References

/-!
# Schema generation ends

A reference is followed through the arena, and the arena is any finite map: its entries may
refer to each other and to themselves, and an entry may hold another type's descriptor, as the
entry of a named union holds the member it narrowed to. Following an entry always passes
through `ensure`, which builds the entry's component at most once: while it is being built, and
after, a reference to it is only a `$ref`.

* `SchemaGen.owner`: the identity whose component an arena entry is built as.
* `SchemaState.claimed`: that component is named and live; it stays so along every run.
* `SchemaGen.openWeight`: the entries whose component is not claimed, each counted by its size.
  Building an entry's component claims it (`openWeight_mark_lt`), and no run gives a claim up.
* `SchemaGen.fuelled`: with a budget over twice the open weight and the size of the descriptor,
  a run of the generator is a derivation of the unbounded semantics. The induction is on the
  budget; between two entries followed the descriptor gets smaller, and following an entry
  takes its weight off.
* `SchemaGen.generate_ends`: the budget of `generate` covers that from every state, so the
  schema of every descriptor over every arena is a finished derivation, and the run leaves the
  components being built as it found them.
-/

namespace ApiSpec

open Schema SchemaGen SchemaState

namespace SchemaGen

/-! ### Sizes -/

theorem size_le_sizeFields {f : Field} : {fs : List Field} → f ∈ fs → size f.type ≤ sizeFields fs
  | g :: fs, h => by
    rw [sizeFields]
    rcases List.mem_cons.mp h with rfl | h
    · omega
    · have := size_le_sizeFields h
      omega

/-! ### The weight of the entries still open -/

/-- The identity whose component an arena entry is built as: a named object or enumeration
under its own name, any other descriptor under the entry's key. -/
def owner (k : String) (d : Descriptor) : String := (ownName? d).getD k

end SchemaGen

namespace SchemaState

/-- The component of the identity `o` is named and built or being built. -/
def claimed (st : SchemaState) (o : String) : Bool :=
  match st.componentOf? o with
  | some c => st.isLive c
  | none => false

theorem claimed_iff {st : SchemaState} {o : String} :
    st.claimed o = true ↔ ∃ c, st.componentOf? o = some c ∧ st.Live c := by
  unfold claimed
  cases st.componentOf? o with
  | none => simp
  | some c => simp [isLive_iff]

/-- A claim is kept while the names extend and the live components grow. -/
theorem claimed_mono {st st' : SchemaState} (hn : st.names <+: st'.names)
    (hl : ∀ n, st.Live n → st'.Live n) {o : String} (h : st.claimed o = true) :
    st'.claimed o = true := by
  obtain ⟨c, hc, hlive⟩ := claimed_iff.mp h
  exact claimed_iff.mpr ⟨c, componentOf?_eq_some_of_prefix hn hc, hl c hlive⟩

end SchemaState

namespace SchemaGen

/-- The entries whose component is not claimed, each by its size and one. -/
def openWeight (st : SchemaState) : List (String × Descriptor) → Nat
  | [] => 0
  | e :: es => (if st.claimed (owner e.1 e.2) then 0 else size e.2 + 1) + openWeight st es

section Weight

variable {st st' : SchemaState}

/-- One entry's weight: a claim kept can only take it off. -/
theorem entryWeight_anti (hc : ∀ o, st.claimed o = true → st'.claimed o = true) (o : String)
    (w : Nat) : (if st'.claimed o then 0 else w) ≤ (if st.claimed o then 0 else w) := by
  cases h : st.claimed o
  · cases st'.claimed o <;> simp only [Bool.false_eq_true, ↓reduceIte] <;> omega
  · simp only [hc o h, ↓reduceIte]
    omega

theorem openWeight_anti (hc : ∀ o, st.claimed o = true → st'.claimed o = true) :
    (es : List (String × Descriptor)) → openWeight st' es ≤ openWeight st es
  | [] => Nat.le_refl 0
  | e :: es => by
    have ih := openWeight_anti hc es
    have he := entryWeight_anti hc (owner e.1 e.2) (size e.2 + 1)
    simp only [openWeight]
    omega

/-- Claiming the component of an open entry takes the entry's weight off. -/
theorem openWeight_add_le (hc : ∀ o, st.claimed o = true → st'.claimed o = true)
    {e : String × Descriptor} (hopen : st.claimed (owner e.1 e.2) = false)
    (hclaim : st'.claimed (owner e.1 e.2) = true) :
    {es : List (String × Descriptor)} → e ∈ es →
      openWeight st' es + size e.2 + 1 ≤ openWeight st es
  | e' :: es, he => by
    simp only [openWeight]
    rcases List.mem_cons.mp he with rfl | he
    · have := openWeight_anti hc es
      simp only [hopen, hclaim, Bool.false_eq_true, ↓reduceIte]
      omega
    · have ih := openWeight_add_le hc hopen hclaim he
      have he' := entryWeight_anti hc (owner e'.1 e'.2) (size e'.2 + 1)
      omega

theorem openWeight_le_total :
    (es : List (String × Descriptor)) →
      openWeight st es ≤ (es.map fun e => size e.2 + 1).foldr (· + ·) 0
  | [] => Nat.le_refl 0
  | e :: es => by
    have := openWeight_le_total es
    simp only [openWeight, List.map_cons, List.foldr_cons]
    split <;> omega

theorem openWeight_le_of_grows (h : st.Grows st') (es : List (String × Descriptor)) :
    openWeight st' es ≤ openWeight st es :=
  openWeight_anti (fun _ => claimed_mono h.names_extend fun _ => h.live) es

end Weight

/-! ### Building a component claims it -/

section Claim

variable {arena : Arena} {o c : String} {st st₀ : SchemaState}

/-- Naming a component and marking it never gives a claim up. -/
theorem claimed_mark_mono (hc : (componentFor o).run st = (c, st₀)) :
    ∀ o', st.claimed o' = true → (st₀.mark c).claimed o' = true := by
  have hg : st.Grows st₀ := grows_stepwise.name_eq hc
  have hn : st.names <+: (st₀.mark c).names := hg.names_extend
  refine fun _ => claimed_mono hn fun n hn => ?_
  rcases hg.live hn with hn | hn
  · exact .inl hn
  · exact .inr (.tail c hn)

theorem openWeight_mark_le (hc : (componentFor o).run st = (c, st₀)) :
    openWeight (st₀.mark c) arena.entries ≤ openWeight st arena.entries :=
  openWeight_anti (claimed_mark_mono hc) _

/-- The component `ensure` builds was not claimed before it was named, and is claimed once it
is marked. -/
theorem claimed_mark (hc : (componentFor o).run st = (c, st₀)) (hl : ¬ st₀.Live c) :
    st.claimed o = false ∧ (st₀.mark c).claimed o = true := by
  constructor
  · -- a claimed identity keeps its live name, and `ensure` would have found it
    cases h : st.claimed o with
    | false => rfl
    | true =>
      obtain ⟨c', hc', hlive⟩ := claimed_iff.mp h
      rw [componentFor_of_componentOf? hc', Prod.mk.injEq] at hc
      obtain ⟨rfl, rfl⟩ := hc
      exact absurd hlive hl
  · have hname := componentOf?_componentFor o st
    rw [hc] at hname
    exact claimed_iff.mpr ⟨c, hname, .inr (List.mem_cons_self ..)⟩

/-- Following an arena entry: once `ensure` marks the entry's component, the entry's weight is
off. -/
theorem openWeight_mark_lt {i : String} {d : Descriptor} (hget : arena.get? i = some d)
    (ho : owner i d = o) (hc : (componentFor o).run st = (c, st₀)) (hl : ¬ st₀.Live c) :
    openWeight (st₀.mark c) arena.entries + size d + 1 ≤ openWeight st arena.entries := by
  obtain ⟨hopen, hclaim⟩ := claimed_mark hc hl
  subst ho
  exact openWeight_add_le (e := (i, d)) (claimed_mark_mono hc) hopen hclaim
    (Arena.mem_entries_of_get? hget)

end Claim

/-! ### Runs that are derivations -/

section Runs

variable {arena : Arena}

theorem run_bind {α β : Type} (x : SchemaM α) (f : α → SchemaM β) (st : SchemaState) :
    (x >>= f).run st = (f (x.run st).1).run (x.run st).2 := rfl

/-- A run of `ensure` is an `Ensures` derivation when the build's run is one from each state
it can start in. -/
theorem ensures_run {i : String} {b : Build} {build : SchemaM Schema} {st : SchemaState}
    (hb : ∀ c st₀, (componentFor i).run st = (c, st₀) → ¬ st₀.Live c →
      Builds arena b (st₀.mark c) (build.run (st₀.mark c)).1 (build.run (st₀.mark c)).2) :
    Ensures arena i b st ((ensure i build).run st).1 ((ensure i build).run st).2 := by
  rw [ensure_run]
  generalize hp : (componentFor i).run st = p at hb
  obtain ⟨c, st₀⟩ := p
  dsimp only
  split
  next hlive => exact .live hp (live_of_any hlive)
  next hnot =>
    have hl : ¬ st₀.Live c := fun h => hnot ((isLive_iff st₀ c).mpr h)
    exact .build hp hl (hb c st₀ rfl hl)

/-- The fold over an object's fields is a `Members` derivation when each field's run is one
from every state the fields before it can lead to. -/
theorem members_run {g : Descriptor → SchemaM Schema} :
    (fs : List Field) → (acc : List (String × Schema)) → (st : SchemaState) →
    (∀ f ∈ fs, ∀ st', st.Grows st' →
      Generates arena f.type st' ((g f.type).run st').1 ((g f.type).run st').2) →
    Members arena acc fs st
      ((fs.foldlM (fun acc (f : Field) => do
        let s ← g f.type
        return setKey f.name (propertySchema f s) acc) acc).run st).1
      ((fs.foldlM (fun acc (f : Field) => do
        let s ← g f.type
        return setKey f.name (propertySchema f s) acc) acc).run st).2
  | [], acc, st, _ => .nil
  | f :: fs, acc, st, hg => by
    have h₁ := hg f (.head fs) st (grows_stepwise.refl st)
    rw [List.foldlM_cons, run_bind, run_bind]
    -- the fields after `f` start where `f`'s run ended
    refine .cons h₁ (members_run fs _ _ fun f' hf' st' hgr => ?_)
    exact hg f' (.tail f hf') st' (grows_stepwise.trans (h₁.stepwise grows_stepwise) hgr)

end Runs

/-! ### A budget that suffices -/

/-- With the budget `fuel`, each builder's run is a derivation, given enough budget for the
open weight and the size of what it builds. -/
structure Fuelled (arena : Arena) (fuel : Nat) : Prop where
  generate : ∀ st d, 2 * (openWeight st arena.entries + size d) + 1 ≤ fuel →
    Generates arena d st ((generateWith arena fuel d).run st).1 ((generateWith arena fuel d).run st).2
  object : ∀ st fs, 2 * (openWeight st arena.entries + sizeFields fs) + 2 ≤ fuel →
    Builds arena (.fields fs) st ((objectWith arena fuel fs).run st).1
      ((objectWith arena fuel fs).run st).2
  reference : ∀ st i, 2 * openWeight st arena.entries + 2 ≤ fuel →
    Generates arena (.reference i) st ((referenceWith arena fuel i).run st).1
      ((referenceWith arena fuel i).run st).2

section Fuel

variable {arena : Arena} {fuel : Nat}

theorem fuelled_zero : Fuelled arena 0 :=
  ⟨fun _ _ h => by omega, fun _ _ h => by omega, fun _ _ h => by omega⟩

theorem object_succ (hf : Fuelled arena fuel) (st : SchemaState) (fs : List Field)
    (h : 2 * (openWeight st arena.entries + sizeFields fs) + 2 ≤ fuel + 1) :
    Builds arena (.fields fs) st ((objectWith arena (fuel + 1) fs).run st).1
      ((objectWith arena (fuel + 1) fs).run st).2 := by
  refine .fields (members_run fs [] st fun (f : Field) hf' st' hg => hf.generate st' f.type ?_)
  have := size_le_sizeFields hf'
  have := openWeight_le_of_grows hg arena.entries
  omega

theorem generate_succ (hf : Fuelled arena fuel) (st : SchemaState) (d : Descriptor)
    (h : 2 * (openWeight st arena.entries + size d) + 1 ≤ fuel + 1) :
    Generates arena d st ((generateWith arena (fuel + 1) d).run st).1
      ((generateWith arena (fuel + 1) d).run st).2 := by
  cases d with
  | primitive k f => exact .primitive
  | array e =>
    simp only [size] at h
    exact .array (hf.generate st e (by omega))
  | enumeration n vs =>
    cases n with
    | none => exact .enumeration
    | some i => exact .namedEnumeration (ensures_run fun _ _ _ _ => .done)
  | object n fs =>
    simp only [size] at h
    cases n with
    | none => exact .object (hf.object st fs (by omega))
    | some i =>
      refine .namedObject (ensures_run fun c st₀ hc _ => hf.object _ fs ?_)
      have : openWeight (st₀.mark c) arena.entries ≤ _ := openWeight_mark_le hc
      omega
  | reference i =>
    simp only [size] at h
    exact hf.reference st i (by omega)

/-- A descriptor the arena holds for `i`, when it is neither a named object nor a named
enumeration, is built under `i`. -/
theorem ownName?_eq_none {d : Descriptor}
    (ho : ∀ n fs, d = .object (some n) fs → False) (he : ∀ n vs, d = .enumeration (some n) vs → False) :
    ownName? d = none := by
  cases d with
  | object n fs => cases n with
    | none => rfl
    | some n => exact (ho n fs rfl).elim
  | enumeration n vs => cases n with
    | none => rfl
    | some n => exact (he n vs rfl).elim
  | primitive k f => rfl
  | array e => rfl
  | reference i => rfl

/-- A named object held by the entry `i` is built under its own name once the entry's weight
is off, so its fields need no more budget than twice the open weight before. -/
theorem namedObject_entry {i n : String} {fs : List Field} {g : Nat} {st : SchemaState}
    (hget : arena.get? i = some (.object (some n) fs)) (hg : Fuelled arena g)
    (h : 2 * openWeight st arena.entries ≤ g) :
    Generates arena (.reference i) st ((ensure n (objectWith arena g fs)).run st).1
      ((ensure n (objectWith arena g fs)).run st).2 := by
  refine .named hget nofun (.namedObject (ensures_run fun c st₀ hc hl => hg.object _ fs ?_))
  have := openWeight_mark_lt hget rfl hc hl
  simp only [size] at this
  omega

/-- Following a reference: an entry is built under its owner, which takes the entry's weight
off before its fields or its descriptor are built; a named union's entry goes through one more
step of the budget on the way. -/
theorem reference_succ (hf : Fuelled arena fuel) (hp : Fuelled arena (fuel - 1)) (st : SchemaState)
    (i : String) (h : 2 * openWeight st arena.entries + 2 ≤ fuel + 1) :
    Generates arena (.reference i) st ((referenceWith arena (fuel + 1) i).run st).1
      ((referenceWith arena (fuel + 1) i).run st).2 := by
  rw [referenceWith.eq_def]
  dsimp only
  split
  next n fs hget =>
    split
    next heq =>
      rw [beq_iff_eq] at heq
      subst heq
      exact namedObject_entry hget hf (by omega)
    next =>
      -- a named union's entry: the object is generated under its own name, one step on
      obtain ⟨g, rfl⟩ : ∃ g, fuel = g + 1 := ⟨fuel - 1, by omega⟩
      exact namedObject_entry hget hp (by omega)
  next n vs hget =>
    have hown : ownName? (.enumeration (some n) vs) ≠ none := nofun
    split
    next heq =>
      rw [beq_iff_eq] at heq
      subst heq
      exact .named hget hown (.namedEnumeration (ensures_run fun _ _ _ _ => .done))
    next =>
      obtain ⟨g, rfl⟩ : ∃ g, fuel = g + 1 := ⟨fuel - 1, by omega⟩
      exact .named hget hown (.namedEnumeration (ensures_run fun _ _ _ _ => .done))
  next d ho he hget =>
    have hown := ownName?_eq_none ho he
    refine .entry hget hown (ensures_run fun c st₀ hc hl => .descriptor (hf.generate _ d ?_))
    have := openWeight_mark_lt hget (by rw [owner, hown]; rfl) hc hl
    omega
  next hget =>
    exact .dangling hget (ensures_run fun _ _ _ _ => .done)

theorem fuelled_succ (hf : Fuelled arena fuel) (hp : Fuelled arena (fuel - 1)) :
    Fuelled arena (fuel + 1) :=
  ⟨generate_succ hf, object_succ hf, reference_succ hf hp⟩

end Fuel

theorem fuelled (arena : Arena) : (fuel : Nat) → Fuelled arena fuel
  | 0 => fuelled_zero
  | 1 => fuelled_succ fuelled_zero fuelled_zero
  | fuel + 2 => fuelled_succ (fuelled arena (fuel + 1)) (fuelled arena fuel)

theorem budget_eq (arena : Arena) (d : Descriptor) :
    budget arena d =
      ((arena.entries.map fun e => size e.2 + 1).foldr (· + ·) 0 + size d + 3) *
        ((arena.entries.map fun e => size e.2 + 1).foldr (· + ·) 0 + size d + 3) := rfl

/-- The budget of `generate` covers every open weight: no entry weighs more than all of them. -/
theorem fuel_le_budget (arena : Arena) (d : Descriptor) (st : SchemaState) :
    2 * (openWeight st arena.entries + size d) + 1 ≤ budget arena d := by
  have ht : openWeight st arena.entries ≤ _ := openWeight_le_total arena.entries
  rw [budget_eq]
  generalize (arena.entries.map fun e => size e.2 + 1).foldr (· + ·) 0 = t at ht ⊢
  have : 3 * (t + size d + 3) ≤ (t + size d + 3) * (t + size d + 3) :=
    Nat.mul_le_mul_right _ (by omega)
  omega

/-- A run of `generate` is a derivation. -/
theorem generates_run (arena : Arena) (d : Descriptor) (st : SchemaState) :
    Generates arena d st ((generate arena d).run st).1 ((generate arena d).run st).2 :=
  (fuelled arena (budget arena d)).generate st d (fuel_le_budget arena d st)

/-- Generating the schema of any descriptor over any arena, from any state, ends: the run within
the budget is the one finished run of the unbounded generator, and it leaves the components
being built as they were. -/
theorem generate_ends (arena : Arena) (d : Descriptor) (st : SchemaState) :
    Generates arena d st ((generate arena d).run st).1 ((generate arena d).run st).2 ∧
      (∀ s st', Generates arena d st s st' →
        s = ((generate arena d).run st).1 ∧ st' = ((generate arena d).run st).2) ∧
      ((generate arena d).run st).2.inProgress = st.inProgress := by
  have hg := generates_run arena d st
  exact ⟨hg, fun _ _ h => h.deterministic hg, (hg.stepwise grows_stepwise).inProgress_eq⟩

end SchemaGen

end ApiSpec
