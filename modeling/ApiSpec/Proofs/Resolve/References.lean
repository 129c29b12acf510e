import ApiSpec.Proofs.Resolve.Termination

/-!
# What references name

A resolution writes `reference id` only for an identity on its stack. A class on the stack is
recorded under its identity when it is left, so its references come to name an arena key; an
enumeration with payloads is recorded only when its narrowing finds a winner, so a reference to
it may stay unrecorded. Every reference therefore names a recorded type, a type still being
described, or an enumeration with payloads (`ResolverState.Names`).

* `Resolver.Resolves.keeps`: a resolution keeps the arena closed under that reading
  (`ResolverState.Closed`), leaves the stack as it found it, loses no arena key, and its result
  refers only to such names (`ResolverState.Keeps`). The proof follows the derivation, one case
  per rule, with the five sibling relations.
* `Resolver.resolve_keeps`, `Resolver.resolveBody_keeps`: the same for the resolver's runs.
* `Resolver.refs_parameterDescriptor`: the descriptor of a route parameter refers to nothing.
-/

namespace ApiSpec

namespace Descriptor

mutual

/-- The identities a descriptor refers to, at any depth, in order. -/
def refs : Descriptor → List String
  | .reference id => [id]
  | .array e => refs e
  | .object _ fs => refsFields fs
  | .primitive .. | .enumeration .. => []

/-- The identities the types of fields refer to. -/
def refsFields : List Field → List String
  | [] => []
  | f :: fs => refs f.type ++ refsFields fs

end

/-- The identities an optional descriptor refers to. -/
def refsOpt : Option Descriptor → List String
  | some d => d.refs
  | none => []

@[simp] theorem refs_freeObject : freeObject.refs = [] := rfl

@[simp] theorem refs_getD_freeObject (d : Option Descriptor) :
    (d.getD freeObject).refs = refsOpt d := by
  cases d <;> rfl

@[simp] theorem refsOpt_ofPrimitiveName? (n : String) : refsOpt (ofPrimitiveName? n) = [] := by
  unfold ofPrimitiveName?
  cases primitiveOf? n <;> rfl

theorem refs_getD_ofPrimitiveName? (n : String) (d : Descriptor) (hd : d.refs = []) :
    ((ofPrimitiveName? n).getD d).refs = [] := by
  unfold ofPrimitiveName?
  cases primitiveOf? n with
  | none => exact hd
  | some _ => rfl

end Descriptor

namespace Arena

/-- The identities recorded, in order. -/
def keys (a : Arena) : List String := a.entries.map (·.1)

theorem mem_keys_of_mem {a : Arena} {k : String} {d : Descriptor} (h : (k, d) ∈ a.entries) :
    k ∈ a.keys :=
  List.mem_map_of_mem (f := (·.1)) h

theorem mem_entries_of_get? {a : Arena} {k : String} {d : Descriptor} (h : a.get? k = some d) :
    (k, d) ∈ a.entries := by
  unfold get? at h
  obtain ⟨⟨k', d'⟩, hfind, rfl⟩ := Option.map_eq_some_iff.mp h
  have hk : k' = k := by simpa using List.find?_some hfind
  exact hk ▸ List.mem_of_find?_eq_some hfind

/-- Recording keeps every entry of another identity and adds the new one. -/
theorem mem_entries_insert {a : Arena} {k : String} {d : Descriptor} {e : String × Descriptor}
    (h : e ∈ (a.insert k d).entries) : e = (k, d) ∨ e ∈ a.entries := by
  unfold insert at h
  split at h
  · obtain ⟨⟨k', d'⟩, hmem, rfl⟩ := List.mem_map.mp h
    by_cases hk : k' = k
    · left
      simp [hk]
    · right
      simpa [hk] using hmem
  · rcases List.mem_append.mp h with h | h
    · exact .inr h
    · exact .inl (List.mem_singleton.mp h)

theorem mem_keys_insert {a : Arena} {k x : String} {d : Descriptor} :
    x ∈ (a.insert k d).keys ↔ x = k ∨ x ∈ a.keys := by
  unfold insert keys
  split
  next hany =>
    -- a recorded identity keeps its place, so the keys stay as they were
    rw [List.map_map, List.map_congr_left (g := Prod.fst) fun e _ => by
      obtain ⟨k', v⟩ := e
      dsimp only [Function.comp]
      split <;> rfl]
    have hk : k ∈ a.entries.map (·.1) := by
      obtain ⟨e, he, hek⟩ := List.any_eq_true.mp hany
      exact List.mem_map.mpr ⟨e, he, by simpa using hek⟩
    constructor
    · exact .inr
    · rintro (rfl | h)
      · exact hk
      · exact h
  next => simp [or_comm]

end Arena

namespace Manifest

/-- An enumeration of the model whose members carry payloads, by its name: the resolver narrows
it like a union. -/
def IsPayloadEnum (m : Manifest) (id : String) : Prop :=
  ∃ e ∈ m.enums, e.name = id ∧ e.members ≠ []

theorem isPayloadEnum_of_shapeOf {m : Manifest} {t : TypeExpr} {n : String} {ms : List TypeExpr}
    (h : m.shapeOf t = .union (some n) ms) : m.IsPayloadEnum n := by
  obtain ⟨e, he, rfl, -, hne⟩ := shapeOf_eq_union_some h
  exact ⟨e, he, rfl, hne⟩

end Manifest

namespace ResolverState

variable {m : Manifest}

/-- The identities a reference may name in state `s`: recorded, on the stack, or an enumeration
with payloads. -/
def Names (m : Manifest) (s : ResolverState) (id : String) : Prop :=
  id ∈ s.arena.keys ∨ id ∈ s.stack ∨ m.IsPayloadEnum id

/-- Every reference inside a recorded descriptor names something. -/
def Closed (m : Manifest) (s : ResolverState) : Prop :=
  ∀ e ∈ s.arena.entries, ∀ id ∈ e.2.refs, s.Names m id

/-- What a resolution from `s` to `s'` whose result refers to `ids` keeps. -/
structure Keeps (m : Manifest) (s : ResolverState) (ids : List String) (s' : ResolverState) :
    Prop where
  stack_eq : s'.stack = s.stack
  keys_subset : s.arena.keys ⊆ s'.arena.keys
  closed : s'.Closed m
  named : ∀ id ∈ ids, s'.Names m id

variable {s s₁ s₂ : ResolverState} {id : String} {ids ids₁ ids₂ : List String}

theorem Names.mono (h : s.Names m id) (hst : s₁.stack = s.stack)
    (hkeys : s.arena.keys ⊆ s₁.arena.keys) : s₁.Names m id := by
  rcases h with h | h | h
  · exact .inl (hkeys h)
  · exact .inr (.inl (hst ▸ h))
  · exact .inr (.inr h)

/-- Leaving an identity keeps every name, once the identity is recorded or is an enumeration with
payloads. -/
theorem Names.exit {x : String} (h : s₁.Names m x) (hst : s₁.stack = id :: s₂.stack)
    (hkeys : s₁.arena.keys ⊆ s₂.arena.keys) (hid : id ∈ s₂.arena.keys ∨ m.IsPayloadEnum id) :
    s₂.Names m x := by
  rcases h with h | h | h
  · exact .inl (hkeys h)
  · rw [hst, List.mem_cons] at h
    rcases h with rfl | h
    · rcases hid with hid | hid
      · exact .inl hid
      · exact .inr (.inr hid)
    · exact .inr (.inl h)
  · exact .inr (.inr h)

/-- A state is closed when each of its entries is an old one, all of whose names it keeps, or
refers only to names. -/
theorem Closed.of_entries (hc : s.Closed m) (hn : ∀ x, s.Names m x → s₁.Names m x)
    (he : ∀ e ∈ s₁.arena.entries, e ∈ s.arena.entries ∨ ∀ x ∈ e.2.refs, s₁.Names m x) :
    s₁.Closed m := by
  intro e hmem x hx
  rcases he e hmem with hold | hnew
  · exact hn x (hc e hold x hx)
  · exact hnew x hx

theorem Closed.mono (hc : s.Closed m) (hst : s₁.stack = s.stack)
    (hentries : s₁.arena.entries = s.arena.entries) : s₁.Closed m :=
  hc.of_entries (fun _ h => h.mono hst (by simp [Arena.keys, hentries]))
    fun e he => .inl (hentries ▸ he)

theorem Closed.enter (hc : s.Closed m) : (s.enter id).Closed m :=
  hc.of_entries (fun _ h => by
      rcases h with h | h | h
      · exact .inl h
      · exact .inr (.inl (List.mem_cons_of_mem _ h))
      · exact .inr (.inr h))
    fun e he => .inl he

theorem Closed.record {k : String} {d : Descriptor} (hc : s.Closed m)
    (hd : ∀ x ∈ d.refs, (s.record k d).Names m x) : (s.record k d).Closed m :=
  hc.of_entries
    (fun _ h => h.mono rfl fun _ hx => Arena.mem_keys_insert.mpr (.inr hx))
    fun _ he => (Arena.mem_entries_insert he).elim (fun h => .inr (h ▸ hd)) .inl

/-- A payload enumeration is recorded only when its narrowing gives a descriptor. -/
theorem keep_cases (s : ResolverState) (id : String) (r : Option Descriptor) :
    s.keep id r = s ∨ ∃ d, r = some d ∧ s.keep id r = s.record id d := by
  unfold keep
  split
  · exact .inl rfl
  · exact .inl rfl
  · exact .inr ⟨_, rfl, rfl⟩

theorem keys_subset_record (k : String) (d : Descriptor) :
    s.arena.keys ⊆ (s.record k d).arena.keys :=
  fun _ hx => Arena.mem_keys_insert.mpr (.inr hx)

theorem Keeps.refl (hc : s.Closed m) (h : ∀ x ∈ ids, s.Names m x) : Keeps m s ids s :=
  ⟨rfl, List.Subset.refl _, hc, h⟩

theorem Keeps.nil (hc : s.Closed m) : Keeps m s [] s :=
  Keeps.refl hc nofun

theorem Keeps.trans (h₁ : Keeps m s ids₁ s₁) (h₂ : Keeps m s₁ ids₂ s₂) :
    Keeps m s (ids₁ ++ ids₂) s₂ where
  stack_eq := h₂.stack_eq.trans h₁.stack_eq
  keys_subset := List.Subset.trans h₁.keys_subset h₂.keys_subset
  closed := h₂.closed
  named x hx := by
    rcases List.mem_append.mp hx with hx | hx
    · exact (h₁.named x hx).mono h₂.stack_eq h₂.keys_subset
    · exact h₂.named x hx

theorem Keeps.of_subset (h : Keeps m s ids s₁) (hsub : ids₂ ⊆ ids) : Keeps m s ids₂ s₁ :=
  ⟨h.stack_eq, h.keys_subset, h.closed, fun x hx => h.named x (hsub hx)⟩

end ResolverState

namespace Resolver

open ResolverState Descriptor

variable {env : ResolverEnv}

/-! ### What a member of a union hands on -/

theorem refsOpt_notOwner_subset (o : Option String) (d : Option Descriptor) :
    refsOpt (notOwner o d) ⊆ refsOpt d := by
  unfold notOwner
  split
  next id => split <;> simp [refsOpt]
  next => exact List.Subset.refl _

/-- A member that wins gives the union its own descriptor. -/
theorem eq_of_winner_eq_some {o : Option String} {d : Option Descriptor} {w : Descriptor}
    (h : winner o d = some w) : d = some w := by
  unfold winner at h
  split at h
  next => split at h <;> cases h; rfl
  next => cases h; rfl
  next => cases h; rfl
  next => split at h <;> cases h; rfl
  next => cases h

theorem refsFields_cons_fieldFor (p : PropertyDecl) (d : Option Descriptor) (fs : List Field) :
    refsFields (fieldFor env p d :: fs) = refsOpt d ++ refsFields fs := by
  simp [refsFields, fieldFor]

/-! ### Every rule keeps the arena closed -/

mutual

/-- A resolution keeps the arena closed, the stack and the keys, and refers only to names. -/
theorem Resolves.keeps {t : TypeExpr} {s : ResolverState} {r : Option Descriptor}
    {s' : ResolverState} : Resolves env t s r s' → s.Closed env.model →
      Keeps env.model s (refsOpt r) s'
  | .void _, hc | .null _, hc | .bareWrapper _ _, hc | .generic _ _, hc | .emptyObject _, hc
  | .unknown _, hc => Keeps.nil hc
  | .primitive _, hc => by
    rw [refsOpt_ofPrimitiveName?]
    exact Keeps.nil hc
  | .array _ h, hc => by
    simpa [refsOpt, refs] using Resolves.keeps h hc
  | .enumeration (n := n) _, hc => by
    cases n with
    | none => exact Keeps.nil hc
    | some n =>
      exact ⟨rfl, keys_subset_record _ _, hc.record nofun, nofun⟩
  | .namedUnion hs h, hc => NamedUnion.keeps h (Manifest.isPayloadEnum_of_shapeOf hs) hc
  | .union _ h, hc => Narrows.keeps h hc
  | .wrapper _ _ h, hc => Resolves.keeps h hc
  | .namedObject _ h, hc => NamedObject.keeps h hc
  | .inlineObject _ h, hc => Fields.keeps h hc

theorem Fields.keeps {ps : List PropertyDecl} {s : ResolverState} {fs : List Field}
    {s' : ResolverState} : Fields env ps s fs s' → s.Closed env.model →
      Keeps env.model s (refsFields fs) s'
  | .nil, hc => Keeps.nil hc
  | .cons hd hfs, hc => by
    have h₁ := Resolves.keeps hd hc
    rw [refsFields_cons_fieldFor]
    exact h₁.trans (Fields.keeps hfs h₁.closed)

theorem NamedObject.keeps {id : String} {b : List (String × TypeExpr)} {ps : List PropertyDecl}
    {s : ResolverState} {r : Option Descriptor} {s' : ResolverState} :
    NamedObject env id b ps s r s' → s.Closed env.model → Keeps env.model s (refsOpt r) s'
  | .memo hd, hc => Keeps.refl hc (hc _ (Arena.mem_entries_of_get? hd))
  | .cycle _ hon, hc =>
    ⟨rfl, List.Subset.refl _, hc.mono rfl rfl, by
      intro x hx
      rw [show x = id by simpa [refsOpt, refs] using hx]
      exact .inr (.inl (by simpa using hon))⟩
  | @NamedObject.fresh _ _ _ _ _ fs s₁ _ _ hf, hc => by
    -- the properties are resolved with the class on the stack, then the class is recorded
    have hk := Fields.keeps hf (hc.enter.mono rfl rfl)
    have hst : s₁.stack = id :: s.stack := by simpa using hk.stack_eq
    have hkeys : s₁.arena.keys ⊆
        ((s₁.dropScope.leave id).record id (.object (some id) fs)).arena.keys :=
      keys_subset_record _ _
    have hid : id ∈ ((s₁.dropScope.leave id).record id (.object (some id) fs)).arena.keys :=
      Arena.mem_keys_insert.mpr (.inl rfl)
    have hexit : ∀ x, s₁.Names env.model x →
        ((s₁.dropScope.leave id).record id (.object (some id) fs)).Names env.model x :=
      fun x h => h.exit (by simp [hst]) hkeys (.inl hid)
    refine ⟨by simp [hst], ?_, ?_, fun x hx => hexit x (hk.named x hx)⟩
    · exact List.Subset.trans (by simpa [Arena.keys] using hk.keys_subset) hkeys
    · exact hk.closed.of_entries hexit fun e he =>
        (Arena.mem_entries_insert he).elim
          (fun h => .inr (h ▸ fun x hx => hexit x (hk.named x hx))) .inl

theorem NamedUnion.keeps {id : String} {ms : List TypeExpr} {s : ResolverState}
    {r : Option Descriptor} {s' : ResolverState} :
    NamedUnion env id ms s r s' → env.model.IsPayloadEnum id → s.Closed env.model →
      Keeps env.model s (refsOpt r) s'
  | .memo hd, _, hc => Keeps.refl hc (hc _ (Arena.mem_entries_of_get? hd))
  | .cycle _ hon, _, hc =>
    ⟨rfl, List.Subset.refl _, hc.mono rfl rfl, by
      intro x hx
      rw [show x = id by simpa [refsOpt, refs] using hx]
      exact .inr (.inl (by simpa using hon))⟩
  | @NamedUnion.fresh _ _ _ _ r s₁ _ _ hn, hpe, hc => by
    -- the members are narrowed with the enumeration on the stack; it is recorded only when a
    -- member wins, and is an enumeration with payloads either way
    have hk := Narrows.keeps hn hc.enter
    have hst : s₁.stack = id :: s.stack := by simpa using hk.stack_eq
    have hleave : ∀ x, s₁.Names env.model x → (s₁.leave id).Names env.model x :=
      fun x h => h.exit (by simp [hst]) (List.Subset.refl _) (.inr hpe)
    have hclosed : (s₁.leave id).Closed env.model :=
      hk.closed.of_entries hleave fun e he => .inl he
    have hkeys : s.arena.keys ⊆ (s₁.leave id).arena.keys := by
      simpa [Arena.keys] using hk.keys_subset
    rcases keep_cases (s₁.leave id) id r with hkeep | ⟨d, rfl, hkeep⟩ <;> rw [hkeep]
    · exact ⟨by simp [hst], hkeys, hclosed, fun x hx => hleave x (hk.named x hx)⟩
    · have hrec : ∀ x, (s₁.leave id).Names env.model x →
          ((s₁.leave id).record id d).Names env.model x :=
        fun x h => h.mono rfl (keys_subset_record _ _)
      exact ⟨by simp [hst], List.Subset.trans hkeys (keys_subset_record _ _),
        hclosed.record fun x hx => hrec x (hleave x (hk.named x hx)),
        fun x hx => hrec x (hleave x (hk.named x hx))⟩

theorem Narrows.keeps {ms : List TypeExpr} {o : Option String} {s : ResolverState}
    {r : Option Descriptor} {s' : ResolverState} :
    Narrows env ms o s r s' → s.Closed env.model → Keeps env.model s (refsOpt r) s'
  | .single _ hd, hc => (Resolves.keeps hd hc).of_subset (refsOpt_notOwner_subset _ _)
  | .several _ hw, hc => FirstWinning.keeps hw hc

theorem FirstWinning.keeps {o : Option String} {ms : List TypeExpr} {s : ResolverState}
    {r : Option Descriptor} {s' : ResolverState} :
    FirstWinning env o ms s r s' → s.Closed env.model → Keeps env.model s (refsOpt r) s'
  | .nil, hc => Keeps.nil hc
  | .win hd hw, hc => by
    have h := Resolves.keeps hd hc
    rwa [eq_of_winner_eq_some hw] at h
  | .skip hd _ hr, hc => by
    have h₁ := Resolves.keeps hd hc
    exact (h₁.trans (FirstWinning.keeps hr h₁.closed)).of_subset (List.subset_append_right _ _)

end

/-! ### The resolver's runs -/

theorem resolve_keeps {t : TypeExpr} {s s' : ResolverState} {r : Option Descriptor}
    (h : resolve env t s = some (r, s')) (hc : s.Closed env.model) :
    Keeps env.model s (refsOpt r) s' :=
  (resolves_of_eq_some h).keeps hc

theorem resolveBody_keeps {t : TypeExpr} {s s' : ResolverState} {r : Option Descriptor}
    (h : (resolveBody env t).run s = some (r, s')) (hc : s.Closed env.model) :
    Keeps env.model s (refsOpt r) s' := by
  obtain ⟨⟨d, s₁⟩, hd, hr⟩ := Option.map_eq_some_iff.mp h
  cases hr
  refine (resolve_keeps hd hc).of_subset ?_
  cases d with
  | none => exact List.Subset.refl _
  | some d =>
    by_cases hp : d.isPrimitive <;> simp [Option.filter, hp, refsOpt]

/-- The descriptor of a route parameter refers to nothing: it is a primitive, an array of one
or an enumeration of values. -/
theorem refs_shallowWith (model : Manifest) :
    (fuel : Nat) → (seen : List String) → (t : TypeExpr) → (shallowWith model fuel seen t).refs = []
  | 0, _, _ => rfl
  | fuel + 1, seen, t => by
    unfold shallowWith
    dsimp only
    split
    · rfl
    · split
      next name _ => exact refs_getD_ofPrimitiveName? name _ rfl
      next elem _ => exact refs_shallowWith model fuel _ elem
      next => rfl
      next =>
        split
        next mem _ => exact refs_shallowWith model fuel _ mem
        next => rfl
      all_goals rfl

theorem refs_parameterDescriptor (model : Manifest) (t : TypeExpr) :
    (parameterDescriptor model t).refs = [] :=
  refs_shallowWith model _ _ t

end Resolver

end ApiSpec
