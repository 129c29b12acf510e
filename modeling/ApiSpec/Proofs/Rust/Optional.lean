import ApiSpec.Rust.Load
import ApiSpec.Resolve.Resolver

/-!
# Which declarations the loader marks optional

The loader gives a field or a method parameter two readings of its declared type: the type
expression, which sees through references, parentheses and `impl`/`dyn` bounds, and the mark
`optional`, which reads the last segment of a path type and nothing else. The two agree on path
types: a path type is marked optional exactly when its type expression is `Option<…>`. Around
any other type they part: `&'a Option<String>` and `(Option<String>)` have the type expression
`Option<String>` and are not marked.

A property marked optional is required only when a presence constraint asks for it and no
optional constraint is present; a property not marked is required also when it has no default.

* `Ty.isOption_iff`: a type is marked optional exactly when it is a path type whose type
  expression is `Option<…>`.
* `optional_iff_path_option`: so for every field and every parameter the loader reads.
* `referencedOption_field_required`: the field `bio: &'a Option<String>` is not marked, and is
  reported required.
-/

namespace ApiSpec

namespace Rust

/-- Whether a type is a path type, such as `Option<T>` or `<T as Trait>::Output`, rather than a
reference, a slice, an array, a tuple, parentheses, a trait bound or any other type. -/
def Ty.isPath : Ty → Bool
  | .path _ _ => true
  | _ => false

/-! ### The two readings of a type -/

/-- The type expression of a path is that of its last segment. -/
theorem lastSegmentExpr_eq : (segs : List Segment) →
    lastSegmentExpr segs = segs.getLast?.map Segment.toTypeExpr
  | [] => rfl
  | [_] => rfl
  | _ :: s :: rest => by
    rw [List.getLast?_cons_cons, ← lastSegmentExpr_eq (s :: rest)]
    simp [lastSegmentExpr]

/-- A type expression is `Option<…>` exactly when it is named `Option`. -/
theorem exists_named_option_iff (n : String) (args : List TypeExpr) :
    (∃ args', TypeExpr.named n args = .named "Option" args') ↔ n = "Option" := by
  constructor
  · rintro ⟨args', h⟩
    exact (TypeExpr.named.inj h).1
  · rintro rfl
    exact ⟨args, rfl⟩

/-- The type expression of a path type is `Option<…>` exactly when its last segment is named
`Option`. -/
theorem path_toTypeExpr_option_iff (q : Bool) (p : Path) :
    (∃ args, (Ty.path q p).toTypeExpr = .named "Option" args) ↔
      p.segments.getLast?.map (·.ident) = some "Option" := by
  obtain ⟨c, segs⟩ := p
  simp only [Ty.toTypeExpr, Path.toTypeExpr, lastSegmentExpr_eq, Path.segments]
  cases segs.getLast? with
  | none => simp
  | some s =>
    obtain ⟨n, args⟩ := s
    simp only [Option.map_some, Option.getD_some, Segment.toTypeExpr, Segment.ident,
      Option.some.injEq]
    exact exists_named_option_iff n args.typeArgs

/-- A type is marked optional exactly when it is a path type whose type expression is
`Option<…>`. -/
theorem Ty.isOption_iff (ty : Ty) :
    ty.isOption = true ↔ ty.isPath = true ∧ ∃ args, ty.toTypeExpr = .named "Option" args := by
  cases ty with
  | path q p =>
    rw [path_toTypeExpr_option_iff]
    simp [Ty.isOption, Ty.name?, Ty.isPath]
  | _ => simp [Ty.isOption, Ty.name?, Ty.isPath]

/-- A declaration carrying the type expression and the mark of `ty` is marked exactly when `ty`
is a path type and its type expression is `Option<…>`. -/
theorem marked_iff {ty : Ty} {o : Bool} {t : TypeExpr} (ho : o = ty.isOption)
    (ht : t = ty.toTypeExpr) : o = true ↔ ty.isPath = true ∧ ∃ args, t = .named "Option" args := by
  rw [ho, ht]
  exact ty.isOption_iff

/-! ### Declarations -/

/-- The property the loader makes of a field has the field's type expression and mark. -/
theorem propertyOf_type_optional {name : String} {f : Field} {renameAll : Option String}
    {p : PropertyDecl} (h : (propertyOf name f renameAll).1 = some p) :
    p.type = f.ty.toTypeExpr ∧ p.optional = f.ty.isOption := by
  cases hs : (SerdeAttrs.ofAttrs f.attrs).skip
  · simp only [propertyOf, hs, Bool.false_eq_true, ↓reduceIte, Option.some.injEq] at h
    subst h
    exact ⟨rfl, rfl⟩
  · simp [propertyOf, hs] at h

/-- Each typed input of a function gives a parameter with the input's type expression and
mark. -/
theorem exists_param_of_typed {fn : ImplFn} {attrs : List Attribute} {pat : Pat} {ty : Ty}
    (h : FnInput.typed attrs pat ty ∈ fn.inputs) :
    ∃ q ∈ fn.toMethod.params, q.type = ty.toTypeExpr ∧ q.optional = ty.isOption := by
  obtain ⟨i, hi, hget⟩ := List.mem_iff_getElem.mp h
  -- the input is the `i`-th, paired with its position
  have hzip : (i, FnInput.typed attrs pat ty) ∈ (List.range fn.inputs.length).zip fn.inputs := by
    rw [List.mem_iff_getElem]
    refine ⟨i, by simpa using hi, ?_⟩
    simp [hget]
  refine ⟨_, List.mem_filterMap.mpr ⟨_, hzip, rfl⟩, rfl, rfl⟩

/-- A property marked optional is required exactly when a presence constraint asks for it and
no optional constraint is present. -/
theorem isRequired_of_optional (hasDefault : Bool) (c : Constraints) :
    isRequired true hasDefault c = true ↔ c.required = true ∧ c.optional = false := by
  cases h : c.optional <;> simp [isRequired, h]

/-- The loader marks a field or a method parameter of type `ty` optional exactly when `ty` is a
path type whose type expression is `Option<…>`: the type expression sees through references,
parentheses and `impl`/`dyn` bounds, and the mark does not. A field marked optional is reported
required only when a presence constraint asks for it and no optional constraint is present. -/
theorem optional_iff_path_option (ty : Ty) :
    (∀ (name : String) (attrs : List Attribute) (fieldName renameAll : Option String)
        (p : PropertyDecl), (propertyOf name ⟨attrs, fieldName, ty⟩ renameAll).1 = some p →
      p.type = ty.toTypeExpr ∧
      (p.optional = true ↔ ty.isPath = true ∧ ∃ args, p.type = .named "Option" args) ∧
      ∀ env d, p.optional = true →
        ((Resolver.fieldFor env p d).required = true ↔
          (extractConstraints p.annotations).required = true ∧
            (extractConstraints p.annotations).optional = false)) ∧
    ∀ (fn : ImplFn) (attrs : List Attribute) (pat : Pat), FnInput.typed attrs pat ty ∈ fn.inputs →
      ∃ q ∈ fn.toMethod.params, q.type = ty.toTypeExpr ∧
        (q.optional = true ↔ ty.isPath = true ∧ ∃ args, q.type = .named "Option" args) := by
  refine ⟨fun name attrs fieldName renameAll p h => ?_, fun fn attrs pat h => ?_⟩
  · obtain ⟨htype, hopt⟩ := propertyOf_type_optional h
    refine ⟨htype, marked_iff hopt htype, fun env d hp => ?_⟩
    show isRequired p.optional p.hasDefault (extractConstraints p.annotations) = true ↔ _
    rw [hp]
    exact isRequired_of_optional _ _
  · obtain ⟨q, hq, htype, hopt⟩ := exists_param_of_typed h
    exact ⟨q, hq, htype, marked_iff hopt htype⟩

/-- The type `Option<String>`. -/
def optionString : Ty :=
  .path false (.mk false [.mk "Option" (.angle [.type (.path false (.single "String"))])])

/-- The field `bio: Option<String>` is marked optional, and is not required without a presence
constraint. -/
theorem optionString_field_optional :
    ∃ p, (propertyOf "bio" ⟨[], some "bio", optionString⟩ none).1 = some p ∧
      p.type = .named "Option" [.simple "String"] ∧ p.optional = true ∧
      ∀ env d, (Resolver.fieldFor env p d).required = false := by
  refine ⟨_, rfl, ?_⟩
  obtain ⟨htype, hopt, hreq⟩ :=
    (optional_iff_path_option optionString).1 "bio" [] (some "bio") none _ rfl
  have hmarked := hopt.mpr ⟨rfl, _, htype⟩
  refine ⟨htype, hmarked, fun env d => Bool.eq_false_iff.mpr fun h => ?_⟩
  -- the field carries no annotation, so no presence constraint
  exact absurd ((hreq env d hmarked).mp h).1 Bool.false_ne_true

/-- The field `bio: &'a Option<String>` has the type expression `Option<String>`, yet the loader
does not mark it optional; with no default and no constraint it is reported required. -/
theorem referencedOption_field_required :
    ∃ p, (propertyOf "bio" ⟨[], some "bio", .reference optionString⟩ none).1 = some p ∧
      p.type = .named "Option" [.simple "String"] ∧ p.optional = false ∧
      ∀ env d, (Resolver.fieldFor env p d).required = true :=
  ⟨_, rfl, rfl, rfl, fun _ _ => rfl⟩

end Rust

end ApiSpec
