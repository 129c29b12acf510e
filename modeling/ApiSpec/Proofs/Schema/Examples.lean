import ApiSpec.Proofs.Extract.Fields
import ApiSpec.Proofs.Schema.Termination
import ApiSpec.Proofs.Constraint.Override

/-!
# Examples and the schemas they sit on

A property of a primitive type gets an example guessed from its name and its type
(`exampleFor`): a string for a string, `1` for an integer id. The guess is made while the type is
resolved, before the property's constraint annotations are read. The schema of the property is
then the type's schema with the constraints written over it (`propertySchema`), and the
constraints may override its type, give it an `enum` or values to exclude, or bound its length.

`Schema.Admits s j` is what the example `j` must be to be valid against `s`: a string under
`type: string` and an integer under `type: integer`, one of the `enum` values, none of the values
its `not` excludes, and, when it is a string, of a length within the bounds. `Constraints.Admits`
is the same for the schema made of some constraints alone. The schema objects of a schema are
itself and, at any depth, those of its properties, its items and its `not` (`Schema.nodes`).

* `admits_constrain_iff`: when the schema of a primitive type admits an example, the schema with
  constraints written over it admits the example exactly when the constraints do.
* `admits_exampleFor`: an example guessed for a property is valid against the schema of its type.
* `Generates.samplesFit`: a schema generated over an arena whose fields carry their guessed
  examples has an example only where a property of primitive type stands, valid against the
  type's schema (`Schema.SampleOfType`); so have the components built along the way.
-/

namespace ApiSpec

namespace Json

/-- A JSON integer: a number of the unsigned or the negative kind. -/
def IsInteger : Json → Prop
  | .number (.unsigned _) | .number (.negative _) => True
  | _ => False

end Json

namespace Schema

/-! ### Schema objects -/

mutual

/-- The schema objects of a schema: itself, and those of its properties, its items and its
`not`, at any depth. -/
def nodes : Schema → List Schema
  | s@⟨_, _, _, _, properties, _, items, _, _, _, _, _, _, _, _, not, _⟩ =>
    s :: ((match properties with
      | some ps => memberNodes ps
      | none => []) ++
    (match items with
      | some i => nodes i
      | none => []) ++
    (match not with
      | some n => nodes n
      | none => []))

/-- The schema objects of named members. -/
def memberNodes : List (String × Schema) → List Schema
  | [] => []
  | (_, s) :: rest => nodes s ++ memberNodes rest

end

theorem mem_memberNodes {n : Schema} {ps : List (String × Schema)} :
    n ∈ memberNodes ps ↔ ∃ e ∈ ps, n ∈ e.2.nodes := by
  induction ps with
  | nil => simp [memberNodes]
  | cons e ps ih =>
    obtain ⟨k, s⟩ := e
    simp [memberNodes, ih]

theorem mem_nodes {n s : Schema} : n ∈ s.nodes ↔ n = s ∨
    (∃ ps, s.properties = some ps ∧ ∃ e ∈ ps, n ∈ e.2.nodes) ∨
    (∃ i, s.items = some i ∧ n ∈ i.nodes) ∨ (∃ m, s.not = some m ∧ n ∈ m.nodes) := by
  obtain ⟨_, _, _, _, properties, _, items, _, _, _, _, _, _, _, _, not, _⟩ := s
  cases properties <;> cases items <;> cases not <;> simp [nodes, mem_memberNodes]

/-- Every schema object of `s` satisfies `P`. -/
def EveryNode (P : Schema → Prop) (s : Schema) : Prop := ∀ n ∈ s.nodes, P n

theorem everyNode_iff {P : Schema → Prop} {s : Schema} :
    s.EveryNode P ↔ P s ∧ (∀ ps, s.properties = some ps → ∀ e ∈ ps, e.2.EveryNode P) ∧
      (∀ i, s.items = some i → i.EveryNode P) ∧ (∀ m, s.not = some m → m.EveryNode P) := by
  constructor
  · intro h
    refine ⟨h s (mem_nodes.mpr (.inl rfl)), fun ps hps e he n hn => ?_, fun i hi n hn => ?_,
      fun m hm n hn => ?_⟩
    · exact h n (mem_nodes.mpr (.inr (.inl ⟨ps, hps, e, he, hn⟩)))
    · exact h n (mem_nodes.mpr (.inr (.inr (.inl ⟨i, hi, hn⟩))))
    · exact h n (mem_nodes.mpr (.inr (.inr (.inr ⟨m, hm, hn⟩))))
  · rintro ⟨hs, hp, hi, hm⟩ n hn
    rcases mem_nodes.mp hn with rfl | ⟨ps, hps, e, he, hn⟩ | ⟨i, hi', hn⟩ | ⟨m, hm', hn⟩
    · exact hs
    · exact hp ps hps e he n hn
    · exact hi i hi' n hn
    · exact hm m hm' n hn

/-- A schema object with no properties, items or `not` is its only one. -/
theorem everyNode_of_leaf {P : Schema → Prop} {s : Schema} (hs : P s) (hp : s.properties = none)
    (hi : s.items = none) (hn : s.not = none) : s.EveryNode P :=
  everyNode_iff.mpr ⟨hs, by simp [hp], by simp [hi], by simp [hn]⟩

/-! ### Valid examples -/

/-- What an example must be to be valid against a schema, keyword by keyword. -/
structure Admits (s : Schema) (j : Json) : Prop where
  string : s.type = some "string" → ∃ v, j = .string v
  integer : s.type = some "integer" → j.IsInteger
  enum : ∀ vs, s.enumValues = some vs → j ∈ vs.map Json.string
  not : ∀ n vs, s.not = some n → n.enumValues = some vs → j ∉ vs.map Json.string
  minLength : ∀ v n, j = .string v → s.minLength = some n → n ≤ v.length
  maxLength : ∀ v n, j = .string v → s.maxLength = some n → v.length ≤ n

/-- The description and the example of a schema object play no part in what it admits. -/
theorem admits_with {s : Schema} {d : Option String} {x : Option Json} {j : Json} :
    ({ s with description := d, sample := x } : Schema).Admits j ↔ s.Admits j :=
  ⟨fun ⟨h₁, h₂, h₃, h₄, h₅, h₆⟩ => ⟨h₁, h₂, h₃, h₄, h₅, h₆⟩,
    fun ⟨h₁, h₂, h₃, h₄, h₅, h₆⟩ => ⟨h₁, h₂, h₃, h₄, h₅, h₆⟩⟩

end Schema

/-- What constraints ask of an example on their own: to be valid against the schema made of
them alone. -/
def Constraints.Admits (c : Constraints) (j : Json) : Prop := (({} : Schema).constrain c).Admits j

open Schema

/-- Over the schema of a primitive type that admits an example, written constraints admit it
exactly when they do on their own: the schema of the type sets nothing but its type and format,
and the constraints' type, when they give one, overrides it. -/
theorem admits_constrain_iff {k : PrimitiveKind} {fmt : Option String} {c : Constraints}
    {j : Json} (hb : ({ Schema.ofType k.name with format := fmt } : Schema).Admits j) :
    (({ Schema.ofType k.name with format := fmt } : Schema).constrain c).Admits j ↔
      c.Admits j := by
  have htype : (({ Schema.ofType k.name with format := fmt } : Schema).constrain c).type =
      c.typeOverride.or (some k.name) := by
    simp [constrain, ofType]
  have htype' : (({} : Schema).constrain c).type = c.typeOverride := by
    simp [constrain]
  constructor
  · rintro ⟨hs, hi, he, hn, hmin, hmax⟩
    refine ⟨fun h => hs ?_, fun h => hi ?_, he, hn, hmin, hmax⟩
    all_goals rw [htype'] at h; rw [htype, h, Option.some_or]
  · rintro ⟨hs, hi, he, hn, hmin, hmax⟩
    rw [htype'] at hs hi
    -- no type of their own: the primitive's stands, and the type's schema admits the example
    cases hto : c.typeOverride with
    | none =>
      rw [hto, Option.none_or] at htype
      exact ⟨fun h => hb.string (htype.symm.trans h), fun h => hb.integer (htype.symm.trans h),
        he, hn, hmin, hmax⟩
    | some t =>
      rw [hto, Option.some_or] at htype
      rw [hto] at hs hi
      exact ⟨fun h => hs (htype.symm.trans h), fun h => hi (htype.symm.trans h), he, hn, hmin,
        hmax⟩

/-- The schema of a primitive type admits what is a string when the type is `string` and an
integer when it is `integer`: it has no other keyword that an example answers to. -/
theorem admits_primitive {k : PrimitiveKind} {fmt : Option String} {j : Json}
    (hs : k = .string → ∃ v, j = .string v) (hi : k = .integer → j.IsInteger) :
    ({ Schema.ofType k.name with format := fmt } : Schema).Admits j := by
  refine ⟨fun h => hs ?_, fun h => hi ?_, nofun, nofun, fun _ _ _ => nofun, fun _ _ _ => nofun⟩
  all_goals cases k <;> simp_all [ofType, PrimitiveKind.name]

/-- An example guessed for a property belongs to a primitive type, and is valid against the
schema of that type. -/
theorem admits_exampleFor {name : String} {d : Descriptor} {j : Json}
    (h : exampleFor name d = some j) :
    ∃ k fmt, d = .primitive k fmt ∧
      ({ Schema.ofType k.name with format := fmt } : Schema).Admits j := by
  cases d with
  | primitive k fmt =>
    refine ⟨k, fmt, rfl, admits_primitive (fun hk => ?_) (fun hk => ?_)⟩
    · subst hk
      obtain ⟨v, -, rfl⟩ := Option.map_eq_some_iff.mp h
      exact ⟨v, rfl⟩
    · subst hk
      simp only [exampleFor] at h
      split at h
      · cases h
        trivial
      · cases h
  | array e => cases h
  | enumeration n vs => cases h
  | object n fs => cases h
  | reference i => cases h

namespace Schema

/-- The example of a schema object, when it has one, sits on the schema of a primitive type with
some constraints written over it, and is valid against the type's schema. -/
def SampleOfType (s : Schema) : Prop :=
  ∀ j, s.sample = some j → ∃ (k : PrimitiveKind) (fmt : Option String) (c : Constraints),
    s = { ({ Schema.ofType k.name with format := fmt } : Schema).constrain c with
      description := s.description, sample := some j } ∧
    ({ Schema.ofType k.name with format := fmt } : Schema).Admits j

theorem sampleOfType_of_none {s : Schema} (h : s.sample = none) : s.SampleOfType := by
  intro j hj
  rw [h] at hj
  cases hj

end Schema

/-- The example of a field, when it has one, is the one guessed from its name and its type. -/
def Field.SampleGuessed (f : Field) : Prop :=
  ∀ j, f.sample = some j → exampleFor f.name f.type = some j

/-- The resolver guesses the example of a field from the field's own name and type. -/
theorem sampleGuessed_fieldFor (env : ResolverEnv) (p : PropertyDecl) (d : Option Descriptor) :
    (Resolver.fieldFor env p d).SampleGuessed := by
  intro j h
  simp only [Resolver.fieldFor] at h ⊢
  split at h
  · exact h
  · cases h

/-! ### Generation -/

namespace SchemaState

/-- Every schema object of every component built carries an example of its type, or none. -/
def SamplesFit (st : SchemaState) : Prop := ∀ e ∈ st.schemas, e.2.EveryNode SampleOfType

variable {st st' : SchemaState}

theorem SamplesFit.of_schemas (h : st.SamplesFit) (hs : st'.schemas = st.schemas) :
    st'.SamplesFit := by
  unfold SamplesFit
  rw [hs]
  exact h

theorem SamplesFit.finish {c : String} {s : Schema} (h : st.SamplesFit)
    (hs : s.EveryNode SampleOfType) : (st.finish c s).SamplesFit := by
  intro e he
  rcases SchemaGen.mem_insertSorted he with rfl | he
  · exact hs
  · exact h e he

theorem componentFor_schemas {i c : String} (h : (SchemaGen.componentFor i).run st = (c, st')) :
    st'.schemas = st.schemas := by
  have := (SchemaGen.componentFor_frame i st).1
  rwa [h] at this

end SchemaState

open SchemaState

namespace Schema

/-- The primitive, reference, enumeration and object schemas the generator writes on its own
carry no example and nothing inside. -/
theorem everyNode_leaf {s : Schema} (hs : s.sample = none) (hp : s.properties = none)
    (hi : s.items = none) (hn : s.not = none) : s.EveryNode SampleOfType :=
  everyNode_of_leaf (sampleOfType_of_none hs) hp hi hn

theorem EveryNode.array {s : Schema} (h : s.EveryNode SampleOfType) :
    ({ Schema.ofType "array" with items := some s } : Schema).EveryNode SampleOfType :=
  everyNode_iff.mpr ⟨sampleOfType_of_none rfl, nofun, fun i hi => by cases hi; exact h, nofun⟩

theorem everyNode_objectSchema {fs : List Field} {ms : List (String × Schema)}
    (h : ∀ e ∈ ms, e.2.EveryNode SampleOfType) :
    (SchemaGen.objectSchema fs ms).EveryNode SampleOfType :=
  everyNode_iff.mpr ⟨sampleOfType_of_none rfl, fun ps hps => by cases hps; exact h, nofun, nofun⟩

/-- The schema of a field carries the field's example over the schema of its type; an example
guessed from a primitive type sits on that type's schema, with the field's constraints written
over it. -/
theorem everyNode_propertySchema {f : Field} {s : Schema} (hf : f.SampleGuessed)
    (hs : s.EveryNode SampleOfType)
    (hprim : ∀ k fmt, f.type = .primitive k fmt →
      s = { Schema.ofType k.name with format := fmt }) :
    (SchemaGen.propertySchema f s).EveryNode SampleOfType := by
  unfold SchemaGen.propertySchema
  split
  · exact hs
  · obtain ⟨-, hps, his, hns⟩ := everyNode_iff.mp hs
    refine everyNode_iff.mpr ⟨fun j hj => ?_, hps, his, fun m hm => ?_⟩
    · have hj' : f.sample = some j := hj
      obtain ⟨k, fmt, hd, hadm⟩ := admits_exampleFor (hf j hj')
      obtain rfl := hprim k fmt hd
      exact ⟨k, fmt, f.constraints, by rw [hj'], hadm⟩
    · -- the values the constraints exclude make a `not` of their own, with no example
      simp only [constrain] at hm
      split at hm
      · cases hm
        exact everyNode_leaf rfl rfl rfl rfl
      · exact hns m hm

end Schema

namespace SchemaGen

/-- What a component is built from carries guessed examples: a schema whose examples sit on the
schemas of their types, or fields, or a descriptor, whose examples are guessed. -/
def Build.Guessed : Build → Prop
  | .done s => s.EveryNode SampleOfType
  | .fields fs => ∀ f ∈ fs, f.SampleGuessed ∧ f.type.EveryField Field.SampleGuessed
  | .descriptor d => d.EveryField Field.SampleGuessed

variable {arena : Arena}

open Descriptor

mutual

/-- A schema generated over an arena whose fields carry guessed examples has its examples on
the schemas of primitive types, valid against them, and so have the components built on the
way. The recursion is on the derivation: a reference goes through the arena. -/
theorem Generates.samplesFit (ha : ∀ e ∈ arena.entries, e.2.EveryField Field.SampleGuessed)
    {d : Descriptor} {st : SchemaState} {s : Schema} {st' : SchemaState} :
    Generates arena d st s st' → d.EveryField Field.SampleGuessed → st.SamplesFit →
      s.EveryNode SampleOfType ∧ st'.SamplesFit
  | .primitive, _, h => ⟨everyNode_leaf rfl rfl rfl rfl, h⟩
  | .array hg, hd, h => by
    obtain ⟨hs, h'⟩ := Generates.samplesFit ha hg (everyField_array.mp hd) h
    exact ⟨hs.array, h'⟩
  | .enumeration, _, h => ⟨everyNode_leaf rfl rfl rfl rfl, h⟩
  | .namedEnumeration he, _, h => Ensures.samplesFit ha he (everyNode_leaf rfl rfl rfl rfl) h
  | .object hb, hd, h => Builds.samplesFit ha hb (everyField_object.mp hd) h
  | .namedObject he, hd, h => Ensures.samplesFit ha he (everyField_object.mp hd) h
  | .named hg _ hgen, _, h => Generates.samplesFit ha hgen (ha _ (Arena.mem_entries_of_get? hg)) h
  | .entry hg _ he, _, h => Ensures.samplesFit ha he (ha _ (Arena.mem_entries_of_get? hg)) h
  | .dangling _ he, _, h =>
    Ensures.samplesFit ha he (everyNode_leaf rfl rfl rfl rfl) (h.of_schemas rfl)
termination_by structural h => h

theorem Members.samplesFit (ha : ∀ e ∈ arena.entries, e.2.EveryField Field.SampleGuessed)
    {acc : List (String × Schema)} {fs : List Field} {st : SchemaState}
    {ms : List (String × Schema)} {st' : SchemaState} :
    Members arena acc fs st ms st' →
      (∀ f ∈ fs, f.SampleGuessed ∧ f.type.EveryField Field.SampleGuessed) →
      (∀ e ∈ acc, e.2.EveryNode SampleOfType) → st.SamplesFit →
      (∀ e ∈ ms, e.2.EveryNode SampleOfType) ∧ st'.SamplesFit
  | .nil, _, hacc, h => ⟨hacc, h⟩
  | .cons hg hm, hfs, hacc, h => by
    obtain ⟨hf, hft⟩ := hfs _ List.mem_cons_self
    obtain ⟨hs, h₁⟩ := Generates.samplesFit ha hg hft h
    -- a field of a primitive type has the primitive's schema
    have hp := everyNode_propertySchema hf hs fun k fmt hk => by
      rw [hk] at hg
      cases hg
      rfl
    refine Members.samplesFit ha hm (fun f hf' => hfs f (List.mem_cons_of_mem _ hf'))
      (fun e he => ?_) h₁
    rcases mem_setKey he with rfl | he
    · exact hp
    · exact hacc e he
termination_by structural h => h

theorem Ensures.samplesFit (ha : ∀ e ∈ arena.entries, e.2.EveryField Field.SampleGuessed)
    {i : String} {b : Build} {st : SchemaState} {s : Schema} {st' : SchemaState} :
    Ensures arena i b st s st' → b.Guessed → st.SamplesFit →
      s.EveryNode SampleOfType ∧ st'.SamplesFit
  | .live hc _, _, h => ⟨everyNode_leaf rfl rfl rfl rfl, h.of_schemas (componentFor_schemas hc)⟩
  | .build hc _ hb, hg, h => by
    obtain ⟨hs, h'⟩ := Builds.samplesFit ha hb hg
      ((h.of_schemas (componentFor_schemas hc)).of_schemas rfl)
    exact ⟨everyNode_leaf rfl rfl rfl rfl, h'.finish hs⟩
termination_by structural h => h

theorem Builds.samplesFit (ha : ∀ e ∈ arena.entries, e.2.EveryField Field.SampleGuessed)
    {b : Build} {st : SchemaState} {s : Schema} {st' : SchemaState} :
    Builds arena b st s st' → b.Guessed → st.SamplesFit →
      s.EveryNode SampleOfType ∧ st'.SamplesFit
  | .done, hb, h => ⟨hb, h⟩
  | .fields hm, hb, h => by
    obtain ⟨hms, h'⟩ := Members.samplesFit ha hm hb (fun _ h => absurd h List.not_mem_nil) h
    exact ⟨everyNode_objectSchema hms, h'⟩
  | .descriptor hg, hb, h => Generates.samplesFit ha hg hb h
termination_by structural h => h

end

/-- Generating the schema of a descriptor whose examples are guessed, over such an arena. -/
theorem triple_generate_samples (ha : ∀ e ∈ arena.entries, e.2.EveryField Field.SampleGuessed)
    (d : Descriptor) (hd : d.EveryField Field.SampleGuessed) :
    Triple SamplesFit (generate arena d) fun s st => s.EveryNode SampleOfType ∧ st.SamplesFit := by
  intro st hc hst
  obtain ⟨hc', hstep, -⟩ := sound_generate arena d st hc trivial
  exact ⟨hc', hstep, (generates_run arena d st).samplesFit ha hd hst⟩

end SchemaGen

end ApiSpec
