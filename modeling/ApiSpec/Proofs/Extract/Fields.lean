import ApiSpec.Proofs.Resolve.Parameter
import ApiSpec.Proofs.Document.OperationIds

/-!
# The fields an extraction yields

The only fields the resolver makes are those `fieldFor` builds, from a property and the
resolution of its type; the types it records are made of such fields too. So a property of
fields that holds of everything `fieldFor` builds holds of every field, at any depth, of every
route's parameters, body and response, and of every recorded type.

* `Descriptor.EveryField P d`: every field of `d`, at any depth, satisfies `P`.
* `Resolves.everyField`: a resolution that starts from an arena whose fields satisfy `P` gives a
  descriptor whose fields do, and leaves such an arena; by induction on the derivation.
* `Resolver.Preserves I x P`: from a state where `I` holds, a run of `x` that ends keeps `I`,
  and its value satisfies `P`. It is `Yields` with an invariant of the state, which an error
  of the extraction does not end: a controller whose routes fail is skipped, and the extraction
  goes on over the arena its routes filled.
* `extraction_everyField`: every field of an extraction satisfies `P`.
-/

namespace ApiSpec

namespace Descriptor

mutual

/-- Every field of the descriptor, at any depth, satisfies `P`. -/
def EveryField (P : Field → Prop) : Descriptor → Prop
  | .array e => EveryField P e
  | .object _ fs => EveryFieldIn P fs
  | _ => True

/-- Every field of the list, and every field within their types, satisfies `P`. -/
def EveryFieldIn (P : Field → Prop) : List Field → Prop
  | [] => True
  | f :: fs => P f ∧ EveryField P f.type ∧ EveryFieldIn P fs

end

variable {P : Field → Prop}

theorem everyFieldIn_iff {fs : List Field} :
    EveryFieldIn P fs ↔ ∀ f ∈ fs, P f ∧ f.type.EveryField P := by
  induction fs with
  | nil => simp [EveryFieldIn]
  | cons f fs ih => simp [EveryFieldIn, ih, and_assoc]

@[simp] theorem everyField_array {e : Descriptor} :
    (Descriptor.array e).EveryField P ↔ e.EveryField P := by
  simp [EveryField]

@[simp] theorem everyField_object {n : Option String} {fs : List Field} :
    (Descriptor.object n fs).EveryField P ↔ ∀ f ∈ fs, P f ∧ f.type.EveryField P := by
  rw [EveryField, everyFieldIn_iff]

/-- A resolution that gives nothing stands for the free object, which has no fields. -/
theorem everyField_getD_freeObject {r : Option Descriptor} (h : ∀ d ∈ r, d.EveryField P) :
    (r.getD freeObject).EveryField P := by
  cases r with
  | none => simp [freeObject]
  | some d => exact h d rfl

theorem IsShallow.everyField : {d : Descriptor} → d.IsShallow → d.EveryField P
  | .primitive _ _, _ => by simp [EveryField]
  | .array _, h => everyField_array.mpr (IsShallow.everyField h)
  | .enumeration _ _, _ => by simp [EveryField]
  | .object _ _, h => h.elim
  | .reference _, h => h.elim

end Descriptor

open Descriptor

namespace ResolverState

/-- Every field of every recorded type satisfies `P`. -/
def ArenaFields (P : Field → Prop) (s : ResolverState) : Prop :=
  ∀ e ∈ s.arena.entries, e.2.EveryField P

variable {P : Field → Prop} {s s₁ : ResolverState}

theorem ArenaFields.of_arena (h : s.ArenaFields P) (ha : s₁.arena = s.arena) :
    s₁.ArenaFields P := by
  unfold ArenaFields
  rw [ha]
  exact h

theorem ArenaFields.record {k : String} {d : Descriptor} (h : s.ArenaFields P)
    (hd : d.EveryField P) : (s.record k d).ArenaFields P := by
  intro e he
  rcases Arena.mem_entries_insert he with rfl | he
  · exact hd
  · exact h e he

theorem ArenaFields.get? (h : s.ArenaFields P) {k : String} {d : Descriptor}
    (hd : s.arena.get? k = some d) : d.EveryField P :=
  h _ (Arena.mem_entries_of_get? hd)

theorem ArenaFields.recordAs {n : Option String} {d : Descriptor} (h : s.ArenaFields P)
    (hd : d.EveryField P) : (s.recordAs n d).ArenaFields P := by
  cases n with
  | none => exact h
  | some k => exact h.record hd

theorem ArenaFields.keep {k : String} {r : Option Descriptor} (h : s.ArenaFields P)
    (hr : ∀ d ∈ r, d.EveryField P) : (s.keep k r).ArenaFields P := by
  unfold ResolverState.keep
  split
  · exact h
  · exact h
  · exact h.record (hr _ rfl)

end ResolverState

open ResolverState

namespace Resolver

/-! ### One resolution -/

section Resolution

variable {env : ResolverEnv} {P : Field → Prop}

mutual

/-- A resolution from an arena whose fields satisfy `P` gives a descriptor whose fields do, and
leaves such an arena: each field it makes is one `fieldFor` builds, over the resolution of the
field's type. -/
theorem Resolves.everyField (hP : ∀ p d, P (fieldFor env p d)) {t : TypeExpr}
    {s : ResolverState} {r : Option Descriptor} {s' : ResolverState} :
    Resolves env t s r s' → s.ArenaFields P → (∀ d ∈ r, d.EveryField P) ∧ s'.ArenaFields P
  | .void _, h | .null _, h | .bareWrapper _ _, h | .generic _ _, h | .emptyObject _, h
  | .unknown _, h => ⟨nofun, h⟩
  | .primitive (n := n) _, h => by
    refine ⟨fun d hd => ?_, h⟩
    -- a primitive name stands for a primitive descriptor, which has no fields
    obtain ⟨⟨k, f⟩, -, rfl⟩ := Option.map_eq_some_iff.mp (Option.mem_def.mp hd)
    simp [EveryField]
  | .array _ hd, h => by
    obtain ⟨he, h'⟩ := Resolves.everyField hP hd h
    refine ⟨fun d hd => ?_, h'⟩
    cases hd
    exact everyField_array.mpr (everyField_getD_freeObject he)
  | .enumeration _, h =>
    ⟨fun d hd => by cases hd; simp [EveryField], h.recordAs (by simp [EveryField])⟩
  | .namedUnion _ hn, h => NamedUnion.everyField hP hn h
  | .union _ hn, h => Narrows.everyField hP hn h
  | .wrapper _ _ hd, h => Resolves.everyField hP hd h
  | .namedObject _ hn, h => NamedObject.everyField hP hn h
  | .inlineObject _ hf, h => by
    obtain ⟨hfs, h'⟩ := Fields.everyField hP hf h
    refine ⟨fun d hd => ?_, h'⟩
    cases hd
    exact everyField_object.mpr (everyFieldIn_iff.mp hfs)
termination_by structural h => h

/-- The fields of declarations, resolved in order. -/
theorem Fields.everyField (hP : ∀ p d, P (fieldFor env p d)) {ps : List PropertyDecl}
    {s : ResolverState} {fs : List Field} {s' : ResolverState} :
    Fields env ps s fs s' → s.ArenaFields P → EveryFieldIn P fs ∧ s'.ArenaFields P
  | .nil, h => ⟨trivial, h⟩
  | .cons hd hfs, h => by
    obtain ⟨hd', h₁⟩ := Resolves.everyField hP hd h
    obtain ⟨hfs', h₂⟩ := Fields.everyField hP hfs h₁
    exact ⟨⟨hP _ _, everyField_getD_freeObject hd', hfs'⟩, h₂⟩
termination_by structural h => h

theorem NamedObject.everyField (hP : ∀ p d, P (fieldFor env p d)) {id : String}
    {b : List (String × TypeExpr)} {ps : List PropertyDecl} {s : ResolverState}
    {r : Option Descriptor} {s' : ResolverState} :
    NamedObject env id b ps s r s' → s.ArenaFields P →
      (∀ d ∈ r, d.EveryField P) ∧ s'.ArenaFields P
  | .memo hget, h => ⟨fun d hd => by cases hd; exact h.get? hget, h⟩
  | .cycle _ _, h => ⟨fun d hd => by cases hd; simp [EveryField], h.of_arena rfl⟩
  | .fresh _ _ hf, h => by
    -- the properties are resolved with the class on the stack, over the same arena
    obtain ⟨hfs, h'⟩ := Fields.everyField hP hf (h.of_arena rfl)
    have hobj : (Descriptor.object (some id) _).EveryField P := everyField_object.mpr
      (everyFieldIn_iff.mp hfs)
    exact ⟨fun d hd => by cases hd; exact hobj, (h'.of_arena rfl).record hobj⟩
termination_by structural h => h

theorem NamedUnion.everyField (hP : ∀ p d, P (fieldFor env p d)) {id : String}
    {ms : List TypeExpr} {s : ResolverState} {r : Option Descriptor} {s' : ResolverState} :
    NamedUnion env id ms s r s' → s.ArenaFields P →
      (∀ d ∈ r, d.EveryField P) ∧ s'.ArenaFields P
  | .memo hget, h => ⟨fun d hd => by cases hd; exact h.get? hget, h⟩
  | .cycle _ _, h => ⟨fun d hd => by cases hd; simp [EveryField], h.of_arena rfl⟩
  | .fresh _ _ hn, h => by
    obtain ⟨hr, h'⟩ := Narrows.everyField hP hn (h.of_arena rfl)
    refine ⟨hr, ArenaFields.keep ?_ hr⟩
    exact h'.of_arena rfl
termination_by structural h => h

theorem Narrows.everyField (hP : ∀ p d, P (fieldFor env p d)) {ms : List TypeExpr}
    {o : Option String} {s : ResolverState} {r : Option Descriptor} {s' : ResolverState} :
    Narrows env ms o s r s' → s.ArenaFields P →
      (∀ d ∈ r, d.EveryField P) ∧ s'.ArenaFields P
  | .single _ hd, h => by
    obtain ⟨hd', h'⟩ := Resolves.everyField hP hd h
    exact ⟨fun d hd => hd' d (eq_of_notOwner_eq_some hd), h'⟩
  | .several _ hw, h => FirstWinning.everyField hP hw h
termination_by structural h => h

theorem FirstWinning.everyField (hP : ∀ p d, P (fieldFor env p d)) {o : Option String}
    {ms : List TypeExpr} {s : ResolverState} {r : Option Descriptor} {s' : ResolverState} :
    FirstWinning env o ms s r s' → s.ArenaFields P →
      (∀ d ∈ r, d.EveryField P) ∧ s'.ArenaFields P
  | .nil, h => ⟨nofun, h⟩
  | .win hd hw, h => by
    obtain ⟨hd', h'⟩ := Resolves.everyField hP hd h
    exact ⟨fun d hd => by cases hd; exact hd' _ (eq_of_winner_eq_some hw), h'⟩
  | .skip hd _ hr, h => FirstWinning.everyField hP hr (Resolves.everyField hP hd h).2
termination_by structural h => h

end

end Resolution

/-! ### Runs that keep an invariant -/

/-- From a state where `I` holds, a run of `x` that ends leaves a state where `I` holds, with a
value that satisfies `P`. -/
def Preserves {α : Type} (I : ResolverState → Prop) (x : ResolveM α) (P : α → Prop) : Prop :=
  ∀ s a s', I s → x.run s = some (a, s') → I s' ∧ P a

section Preserves

variable {α β ε : Type} {I : ResolverState → Prop} {P Q : α → Prop}

theorem preserves_pure {a : α} (h : P a) : Preserves I (pure a) P := by
  intro s b s' hs hrun
  cases hrun
  exact ⟨hs, h⟩

theorem Preserves.bind {x : ResolveM α} {f : α → ResolveM β} {R : β → Prop}
    (hx : Preserves I x Q) (hf : ∀ a, Q a → Preserves I (f a) R) : Preserves I (x >>= f) R := by
  intro s b s₂ hs h
  rw [StateT.run_bind] at h
  obtain ⟨⟨a, s₁⟩, h₁, h₂⟩ := Option.bind_eq_some_iff.mp h
  obtain ⟨hs₁, ha⟩ := hx s a s₁ hs h₁
  exact hf a ha s₁ b s₂ hs₁ h₂

theorem Preserves.lift {x : ResolveM α} (hx : Preserves I x P) :
    Preserves I (ExceptT.lift x : ExceptT ε ResolveM α).run (IfOk P) := by
  rw [ExceptT.run_lift, map_eq_pure_bind]
  exact hx.bind fun a ha => preserves_pure ha

/-- An error ends the block, and the invariant still holds where it stops. -/
theorem Preserves.except_bind {x : ExceptT ε ResolveM α} {f : α → ExceptT ε ResolveM β}
    {R : β → Prop} (hx : Preserves I x.run (IfOk Q))
    (hf : ∀ a, Q a → Preserves I (f a).run (IfOk R)) : Preserves I (x >>= f).run (IfOk R) := by
  rw [ExceptT.run_bind]
  refine hx.bind fun r hr => ?_
  cases r with
  | ok a => exact hf a hr
  | error e => exact preserves_pure trivial

theorem preserves_except_pure {a : α} (h : P a) :
    Preserves I (pure a : ExceptT ε ResolveM α).run (IfOk P) := by
  rw [ExceptT.run_pure]
  exact preserves_pure h

theorem preserves_throw (e : ε) : Preserves I (throw e : ExceptT ε ResolveM α).run (IfOk P) := by
  rw [ExceptT.run_throw]
  exact preserves_pure trivial

theorem preserves_warn (hI : ∀ s n, I s → I (s.note n)) (n : Notice) :
    Preserves I (warn n) fun _ => True := by
  intro s a s' hs h
  cases h
  exact ⟨hI s n hs, trivial⟩

end Preserves

/-- The walk that describes a parameter gives primitives, arrays and enumerations only. -/
theorem isShallow_shallowWith (model : Manifest) :
    (fuel : Nat) → (seen : List String) → (t : TypeExpr) →
      (shallowWith model fuel seen t).IsShallow
  | 0, _, _ => isShallow_string
  | fuel + 1, seen, t => by
    unfold shallowWith
    dsimp only
    split
    · exact isShallow_string
    · split
      next name _ => exact isShallow_getD_ofPrimitiveName? name
      next elem _ => exact isShallow_shallowWith model fuel _ elem
      next => trivial
      next =>
        split
        next mem _ => exact isShallow_shallowWith model fuel _ mem
        next => exact isShallow_string
      all_goals exact isShallow_string

end Resolver

open Resolver

/-- Every field of a route's parameters, request body and response satisfies `P`. -/
def RouteDescriptor.EveryField (P : Field → Prop) (r : RouteDescriptor) : Prop :=
  (∀ p ∈ r.parameters, p.type.EveryField P) ∧ (∀ d ∈ r.requestBody, d.EveryField P) ∧
    ∀ d ∈ r.response, d.EveryField P

/-! ### The extraction, function by function -/

section Extraction

variable {env : ResolverEnv} {P : Field → Prop} (hP : ∀ p d, P (fieldFor env p d))
  (cls : Classifier)
include hP

/-- A body resolved from an arena whose fields satisfy `P` has such fields, and leaves such an
arena; a primitive body is dropped. -/
theorem preserves_resolveBody (t : TypeExpr) :
    Preserves (ArenaFields P) (resolveBody env t) fun r => ∀ d ∈ r, d.EveryField P := by
  intro s r s' hs h
  obtain ⟨⟨d, s₁⟩, hd, hr⟩ := Option.map_eq_some_iff.mp h
  cases hr
  obtain ⟨hd', h'⟩ := (resolves_of_eq_some hd).everyField hP hs
  exact ⟨h', fun x hx => hd' x (Option.mem_filter_iff.mp hx).1⟩

theorem preserves_body {x : ResolveM (Option Descriptor)}
    (hx : (∃ t, x = resolveBody env t) ∨ x = pure none) :
    Preserves (ArenaFields P) x fun r => ∀ d ∈ r, d.EveryField P := by
  rcases hx with ⟨t, rfl⟩ | rfl
  · exact preserves_resolveBody hP t
  · exact preserves_pure nofun

omit hP in
/-- Parameters are described by the shallow walk, which makes no fields. -/
theorem everyField_parameters (md : MethodDecl) :
    ∀ pd ∈ md.params.filterMap (parameterOf cls env.model), pd.type.EveryField P := by
  intro pd hpd
  obtain ⟨p, -, hp⟩ := List.mem_filterMap.mp hpd
  unfold parameterOf at hp
  obtain ⟨_, -, rfl⟩ := Option.map_eq_some_iff.mp hp
  exact (isShallow_shallowWith _ _ _ _).everyField

theorem preserves_routeOf (md : MethodDecl) (verb : HttpMethod) (path : String) :
    Preserves (ArenaFields P) (routeOf env cls md verb path) fun r => r.EveryField P := by
  unfold routeOf
  dsimp only
  -- the request body, then the response: each resolved, or none
  split
  all_goals
    refine (preserves_body hP (by simp)).bind fun rb hrb => ?_
    split
    all_goals
      refine (preserves_body hP (by simp)).bind fun resp hresp => ?_
      exact preserves_pure ⟨everyField_parameters cls md, hrb, hresp⟩

theorem preserves_routesFrom (c : ClassDecl) (pub : Bool) :
    (ms : List MethodDecl) → Preserves (ArenaFields P) (routesFrom env cls c pub ms).run
      (IfOk fun rs => ∀ r ∈ rs, r.EveryField P)
  | [] => by
    rw [routesFrom]
    exact preserves_except_pure fun _ h => absurd h List.not_mem_nil
  | md :: rest => by
    rw [routesFrom]
    split
    · exact preserves_routesFrom c pub rest
    · split
      · exact preserves_throw _
      · refine (preserves_routeOf hP cls md _ _).lift.except_bind fun r hr => ?_
        refine (preserves_routesFrom c pub rest).except_bind fun tail htail => ?_
        refine preserves_except_pure fun r' hr' => ?_
        rcases List.mem_cons.mp hr' with rfl | hr'
        · exact hr
        · exact htail r' hr'

theorem preserves_controllersFrom (h : PathHeuristic) :
    (cs : List (SourceFile × ClassDecl)) → Preserves (ArenaFields P)
      (controllersFrom env cls h cs).run
      (IfOk fun ds => ∀ d ∈ ds, ∀ r ∈ d.routes, r.EveryField P)
  | [] => by
    rw [controllersFrom]
    exact preserves_except_pure fun _ h => absurd h List.not_mem_nil
  | (u, c) :: rest => by
    have hrest := preserves_controllersFrom h rest
    -- a skipped controller only adds a warning, which leaves the arena alone
    have hskip : ∀ e : ExtractionError, Preserves (ArenaFields P)
        (ExceptT.lift (skipController e) : ScanM Unit).run (IfOk fun _ => True) :=
      fun e => (preserves_warn (fun _ _ hs => hs.of_arena rfl) _).lift
    rw [controllersFrom]
    split
    · exact hrest
    · split
      · exact (hskip _).except_bind fun _ _ => hrest
      · split
        · exact preserves_throw _
        · refine (preserves_routesFrom hP cls c _ c.methods).lift.except_bind fun r hr => ?_
          split
          · exact (hskip _).except_bind fun _ _ => hrest
          · refine hrest.except_bind fun tail htail => preserves_except_pure ?_
            intro d hd r' hr'
            rcases List.mem_cons.mp hd with rfl | hd
            · exact hr r' hr'
            · exact htail d hd r' hr'

end Extraction

/-- Every field of an extraction, in a route of a controller (its parameters, request body and
response) or in a recorded type, satisfies every property of fields that holds of each field
`fieldFor` builds. -/
theorem extraction_everyField {m : Manifest} {cfg : Config} {ex : Extraction} {P : Field → Prop}
    (hP : ∀ p d, P (fieldFor (cfg.resolverEnv m) p d)) (h : extraction m cfg = some (.ok ex)) :
    (∀ c ∈ ex.controllers, ∀ r ∈ c.routes, r.EveryField P) ∧
      ∀ e ∈ ex.arena.entries, e.2.EveryField P := by
  unfold extraction at h
  obtain ⟨⟨r, st⟩, hrun, hex⟩ := Option.map_eq_some_iff.mp h
  cases r with
  | error e => cases hex
  | ok cs =>
    cases hex
    obtain ⟨harena, hcs⟩ := preserves_controllersFrom hP cfg.classifier cfg.pathHeuristic _
      ResolverState.initial (.ok cs) st (fun _ h => absurd h List.not_mem_nil) hrun
    exact ⟨hcs, harena⟩

end ApiSpec
