import ApiSpec.Constraint

/-!
# Later annotations win

The constraints of a property are read annotation by annotation, and an annotation writes the
fields it names: a constant, or an argument that reads (one that does not read leaves its field
as it was), or it raises a flag. No annotation clears a field or lowers a flag. So what one
annotation does to any constraints is to lay its own constraints, read from nothing, over them
(`Constraints.apply_eq_override`).

`Constraints.override c d` lays `d` over `c`: each field from `d` when `d` has it, else from
`c`, and a flag raised in either. It is associative, with the empty constraints on both sides,
and reading annotations is a homomorphism from lists into it:

* `extractConstraints_append`: the constraints of `as ++ bs` are those of `bs` laid over those of
  `as`. Two bounds on one field never meet in an intersection: the later one is kept.
* `extractConstraints_swap`: two annotations that set no field in common may be read in either
  order.
-/

namespace ApiSpec

namespace Constraints

@[simp] theorem orKeep_eq_or {α : Type} (new old : Option α) : orKeep new old = new.or old := by
  cases new <;> rfl

/-- `d` laid over `c`: each field from `d` when it is present, else from `c`; a flag raised in
either stays raised. -/
def override (c d : Constraints) : Constraints where
  typeOverride := d.typeOverride.or c.typeOverride
  format := d.format.or c.format
  minLength := d.minLength.or c.minLength
  maxLength := d.maxLength.or c.maxLength
  pattern := d.pattern.or c.pattern
  minimum := d.minimum.or c.minimum
  maximum := d.maximum.or c.maximum
  minItems := d.minItems.or c.minItems
  maxItems := d.maxItems.or c.maxItems
  enumValues := d.enumValues.or c.enumValues
  notIn := d.notIn.or c.notIn
  required := c.required || d.required
  optional := c.optional || d.optional

theorem override_assoc (c d e : Constraints) :
    (c.override d).override e = c.override (d.override e) := by
  simp [override, Option.or_assoc, Bool.or_assoc]

@[simp] theorem override_empty (c : Constraints) : c.override {} = c := by
  simp [override]

@[simp] theorem empty_override (c : Constraints) : ({} : Constraints).override c = c := by
  simp [override]

/-- One annotation lays the constraints it reads on its own over those before it. -/
theorem apply_eq_override (c : Constraints) (a : Annotation) :
    c.apply a = c.override (({} : Constraints).apply a) := by
  unfold apply
  dsimp only
  -- the same tests on both sides: push the overriding into each branch
  simp only [apply_ite (override c)]
  simp [override]

theorem extractConstraints_cons (b : Annotation) (bs : List Annotation) :
    extractConstraints (b :: bs) = bs.foldl apply (({} : Constraints).apply b) := by
  rw [extractConstraints, List.foldl_cons]

/-- Reading annotations after `c` lays what they read on their own over `c`. -/
theorem foldl_apply (c : Constraints) (bs : List Annotation) :
    bs.foldl apply c = c.override (extractConstraints bs) := by
  induction bs generalizing c with
  | nil => simp [extractConstraints]
  | cons b bs ih =>
    -- the first annotation read from nothing, then the rest over it
    rw [List.foldl_cons, ih, apply_eq_override, override_assoc, extractConstraints_cons, ih]

/-- No field is present in both. -/
def Disjoint (c d : Constraints) : Prop :=
  (c.typeOverride = none ∨ d.typeOverride = none) ∧ (c.format = none ∨ d.format = none) ∧
  (c.minLength = none ∨ d.minLength = none) ∧ (c.maxLength = none ∨ d.maxLength = none) ∧
  (c.pattern = none ∨ d.pattern = none) ∧ (c.minimum = none ∨ d.minimum = none) ∧
  (c.maximum = none ∨ d.maximum = none) ∧ (c.minItems = none ∨ d.minItems = none) ∧
  (c.maxItems = none ∨ d.maxItems = none) ∧ (c.enumValues = none ∨ d.enumValues = none) ∧
  (c.notIn = none ∨ d.notIn = none)

theorem or_comm_of_none {α : Type} {a b : Option α} (h : a = none ∨ b = none) :
    a.or b = b.or a := by
  rcases h with rfl | rfl <;> simp

/-- Constraints that set no field in common may be laid in either order. -/
theorem override_comm {c d : Constraints} (h : c.Disjoint d) : c.override d = d.override c := by
  obtain ⟨h₁, h₂, h₃, h₄, h₅, h₆, h₇, h₈, h₉, h₁₀, h₁₁⟩ := h
  simp only [override, or_comm_of_none h₁, or_comm_of_none h₂, or_comm_of_none h₃,
    or_comm_of_none h₄, or_comm_of_none h₅, or_comm_of_none h₆, or_comm_of_none h₇,
    or_comm_of_none h₈, or_comm_of_none h₉, or_comm_of_none h₁₀, or_comm_of_none h₁₁,
    Bool.or_comm c.required, Bool.or_comm c.optional]

end Constraints

open Constraints

/-- Reading a list of annotations is a homomorphism: the constraints of `as ++ bs` are those of
`bs` laid over those of `as`, field by field, the flags of both raised. -/
theorem extractConstraints_append (as bs : List Annotation) :
    extractConstraints (as ++ bs) = (extractConstraints as).override (extractConstraints bs) := by
  rw [extractConstraints, List.foldl_append]
  exact foldl_apply _ bs

/-- A length bound given twice is not the intersection of the two: the later one stands. -/
example :
    (extractConstraints [⟨"MinLength", [.expr "5"]⟩, ⟨"MinLength", [.expr "2"]⟩]).minLength =
      some 2 := by
  decide +kernel

/-- Two annotations that set no field in common may be read in either order, wherever they
stand. -/
theorem extractConstraints_swap {a b : Annotation}
    (h : (({} : Constraints).apply a).Disjoint (({} : Constraints).apply b))
    (as bs : List Annotation) :
    extractConstraints (as ++ a :: b :: bs) = extractConstraints (as ++ b :: a :: bs) := by
  have hpair : ∀ x y : Annotation, extractConstraints (as ++ x :: y :: bs) =
      (extractConstraints as).override
        (((({} : Constraints).apply x).override (({} : Constraints).apply y)).override
          (extractConstraints bs)) := by
    intro x y
    rw [extractConstraints_append, extractConstraints_cons, List.foldl_cons, foldl_apply,
      apply_eq_override]
  rw [hpair, hpair, override_comm h]

end ApiSpec
