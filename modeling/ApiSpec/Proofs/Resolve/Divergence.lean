import ApiSpec.Proofs.Resolve.Semantics
import ApiSpec.Config

/-!
# Resolutions that never end

The cycle guard stops a class met again at the same identity, and nothing else bounds the
resolver. A type whose rewrite is an array of the type itself resolves its element, the same
type in the same state, without end (`resolve_never_ends_of_rewrite_array_self`): past its
budget the resolver gives up and answers `none`. The rewrite substitutes type parameters again
on every call, so a class whose parameter is bound to an argument that mentions the parameter's
own name gets there: `Page<Item> { items: Vec<Item> }` resolved at `Page<Vec<Item>>`
(`pageOfItemLists_never_resolves`).
-/

namespace ApiSpec

namespace Resolver

variable {env : ResolverEnv}

/-! ### A type that rewrites to an array of itself -/

/-- No derivation resolves a type whose rewrite is an array of the type itself: the only rule
that applies asks for a derivation of the same resolution. -/
theorem not_resolves_of_rewrite_array_self :
    ∀ {t s r s'}, env.model.shapeOf (s.rewrite t) = .array t → ¬ Resolves env t s r s'
  | _, _, _, _, hs, .array hs' h =>
    not_resolves_of_rewrite_array_self (by
      obtain rfl : _ = _ := Shape.array.inj (hs'.symm.trans hs)
      exact hs) h
  | _, _, _, _, hs, .void hs' => nomatch hs.symm.trans hs'
  | _, _, _, _, hs, .null hs' => nomatch hs.symm.trans hs'
  | _, _, _, _, hs, .primitive hs' => nomatch hs.symm.trans hs'
  | _, _, _, _, hs, .enumeration hs' => nomatch hs.symm.trans hs'
  | _, _, _, _, hs, .namedUnion hs' _ => nomatch hs.symm.trans hs'
  | _, _, _, _, hs, .union hs' _ => nomatch hs.symm.trans hs'
  | _, _, _, _, hs, .wrapper hs' _ _ => nomatch hs.symm.trans hs'
  | _, _, _, _, hs, .bareWrapper hs' _ => nomatch hs.symm.trans hs'
  | _, _, _, _, hs, .generic hs' _ => nomatch hs.symm.trans hs'
  | _, _, _, _, hs, .namedObject hs' _ => nomatch hs.symm.trans hs'
  | _, _, _, _, hs, .emptyObject hs' => nomatch hs.symm.trans hs'
  | _, _, _, _, hs, .inlineObject hs' _ => nomatch hs.symm.trans hs'
  | _, _, _, _, hs, .unknown hs' => nomatch hs.symm.trans hs'

/-- Resolving a type whose rewrite is an array of the type itself never ends. -/
theorem resolve_never_ends_of_rewrite_array_self {t : TypeExpr} {s : ResolverState}
    (hs : env.model.shapeOf (s.rewrite t) = .array t) : resolve env t s = none :=
  resolve_eq_none_of_not_resolves fun _ _ => not_resolves_of_rewrite_array_self hs

/-! ### A page of item lists -/

/-- A page of items, generic in its item type, beside an item class whose name is the page's
type parameter. -/
def pageModel : Manifest :=
  ⟨[{ path := "src/page.rs", enums := [], modules := [],
      classes := [
        { name := "Page", docs := none, annotations := [], typeParams := ["Item"], methods := [],
          properties := [⟨"items", .named "Vec" [.simple "Item"], false, false, none, []⟩] },
        { name := "Item", docs := none, annotations := [], typeParams := [], methods := [],
          properties := [⟨"id", .simple "u64", false, false, none, []⟩] }] }]⟩

/-- The page model under the standard wrappers, with examples. -/
def pageEnv : ResolverEnv := ⟨pageModel, defaultWrappers, true⟩

/-- `Page<Vec<Item>>` never resolves: inside the page, `Item` is bound to `Vec<Item>`, so its
property `Vec<Item>` is rewritten to `Vec<Vec<Item>>`, whose element `Vec<Item>` is rewritten the
same way again. -/
theorem pageOfItemLists_never_resolves :
    resolve pageEnv (.named "Page" [.named "Vec" [.simple "Item"]]) ResolverState.initial =
      none := by
  apply resolve_eq_none_of_not_resolves
  intro r s' h
  cases h.namedObject_of_shape rfl with
  | memo hd => cases hd
  | cycle _ hc => cases hc
  | fresh _ _ hf =>
    cases hf with
    | cons hitems _ => exact not_resolves_of_rewrite_array_self rfl hitems

end Resolver

end ApiSpec
