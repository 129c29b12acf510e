import ApiSpec.Resolve.Resolver

/-!
# What a resolution reads of its model

A resolution reads the model only through the shapes of type expressions and its size.

* `Resolver.resolveWith_congr`: two environments with the same shapes, wrappers and examples
  resolve every type alike, and with the same size also give every body
  (`Resolver.resolveBody_congr`) and every parameter (`Resolver.parameterDescriptor_congr`)
  alike. The induction is on the depth bound, the four fuelled functions together.
-/

namespace ApiSpec

/-- Two resolver environments that resolve every type alike: the same shapes, size, wrappers
and examples. -/
structure ResolverEnv.SameView (env env' : ResolverEnv) : Prop where
  shapeOf : ∀ t, env.model.shapeOf t = env'.model.shapeOf t
  size : env.model.size = env'.model.size
  wrappers : env.wrappers = env'.wrappers
  examples : env.examples = env'.examples

namespace Resolver

variable {env env' : ResolverEnv}

/-! ### Environments that resolve alike -/

section Congr

variable (hv : env.SameView env')
include hv

theorem fieldFor_congr : fieldFor env = fieldFor env' := by
  funext p ty
  simp [fieldFor, hv.examples]

theorem fieldsBy_congr : fieldsBy env = fieldsBy env' := by
  funext r ps
  induction ps with
  | nil => rfl
  | cons p ps ih =>
    funext s
    simp only [fieldsBy, ih, fieldFor_congr hv]

theorem candidates_congr : candidates env = candidates env' := by
  funext s ms
  simp [candidates, hv.shapeOf]

/-- The four fuelled functions resolve alike in environments that agree on what they read. -/
theorem resolveWith_congr : ∀ n,
    resolveWith env n = resolveWith env' n ∧ namedObjectWith env n = namedObjectWith env' n ∧
      namedUnionWith env n = namedUnionWith env' n ∧ narrowWith env n = narrowWith env' n
  | 0 => by
    refine ⟨?_, ?_, ?_, ?_⟩ <;> funext <;> rfl
  | n + 1 => by
    obtain ⟨hr, ho, hu, hn⟩ := resolveWith_congr n
    refine ⟨?_, ?_, ?_, ?_⟩
    · funext t s
      rw [resolveWith, resolveWith]
      simp only [hv.shapeOf, hv.wrappers, hr, ho, hu, hn, fieldsBy_congr hv]
    · funext k b ps s
      rw [namedObjectWith, namedObjectWith]
      simp only [hr, fieldsBy_congr hv]
    · funext k ms s
      rw [namedUnionWith, namedUnionWith]
      simp only [hn]
    · funext ms o s
      rw [narrowWith, narrowWith]
      simp only [hr, candidates_congr hv]

theorem resolve_congr : resolve env = resolve env' := by
  funext t s
  simp only [resolve, budget, hv.size, (resolveWith_congr hv _).1]

theorem resolveBody_congr : resolveBody env = resolveBody env' := by
  funext t s
  simp only [resolveBody, resolve_congr hv]

end Congr

theorem shallowWith_congr {m m' : Manifest} (h : ∀ t, m.shapeOf t = m'.shapeOf t) :
    ∀ n seen t, shallowWith m n seen t = shallowWith m' n seen t
  | 0, _, _ => rfl
  | n + 1, seen, t => by
    simp only [shallowWith, h, shallowWith_congr h n]

theorem parameterDescriptor_congr {m m' : Manifest} (h : ∀ t, m.shapeOf t = m'.shapeOf t)
    (hsize : m.size = m'.size) (t : TypeExpr) :
    parameterDescriptor m t = parameterDescriptor m' t := by
  simp only [parameterDescriptor, hsize, shallowWith_congr h]

end Resolver

end ApiSpec
