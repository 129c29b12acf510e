import ApiSpec.Proofs.Resolve.Substitution

/-!
# Options and wrappers stand for what they hold

`Option<T>` is the union of `T` and `null`, and a configured wrapper `W<T, …>` that the model does
not declare is a generic of unknown head that stands for its first argument. Both resolve as
`T` does, with one difference: `T` is handed on and rewritten again by the innermost bindings
before it is resolved, where `T` alone is rewritten once; an option even rewrites it twice, once as
a member of the union and once when the member is resolved, and rewrites its `null` member too.

* `Resolves.of_rewrite_eq`: a derivation depends on a type only through its rewrite, so two
  types with one rewrite resolve alike.
* `candidates_option`: the candidates of an option are its member alone, or none when the member
  is void or null, when rewriting the member again changes nothing and `null` is not bound.
* `option_and_wrappers_transparent`: under those two conditions, an option and a configured
  wrapper of `t` have the same derivations as `t` (the same result in the same state, and no end
  when `t` has none), and at every depth bound they take two steps (one for a wrapper) more.
* `optionOfBound_resolves_apart`: inside `Pair<B, string>`, where `A` is bound to `B` and `B` to
  `string`, `Option<A>` resolves to a string and records nothing, while `A` resolves to the
  class `B`, which it records.
-/

namespace ApiSpec

open Resolver ResolverState

/-- The names whose shape is built in whatever the model declares, primitives aside: the void and
null names, `Option`, and the collection and map heads. -/
def builtinHeads : List String :=
  ["void", "undefined", "never", "()", "null", "Option"] ++ collectionHeads ++ freeObjectHeads

namespace ResolverState

variable (s : ResolverState)

/-- The rewrite of a named type with arguments rewrites its arguments; the first stays first. -/
theorem rewrite_named_cons (n : String) (t : TypeExpr) (us : List TypeExpr) :
    ∃ us', s.rewrite (.named n (t :: us)) = .named n (s.rewrite t :: us') := by
  unfold rewrite
  split
  next scope _ _ => exact ⟨TypeExpr.substituteList scope us, by simp [TypeExpr.substituteIn, TypeExpr.substituteList]⟩
  next => exact ⟨us, rfl⟩

theorem rewrite_option (t : TypeExpr) : s.rewrite (.named "Option" [t]) = .named "Option" [s.rewrite t] := by
  unfold rewrite
  split
  · simp [TypeExpr.substituteIn, TypeExpr.substituteList]
  · rfl

end ResolverState

namespace Manifest

variable (m : Manifest)

theorem shapeOf_option (t : TypeExpr) :
    m.shapeOf (.named "Option" [t]) = .union none [t, .simple "null"] := rfl

theorem shapeOf_null : m.shapeOf (.simple "null") = .null := rfl

/-- A name that is no built-in head, no primitive, no class and no enumeration is a generic of
unknown head, whatever its arguments. -/
theorem shapeOf_unknownHead {w : String} (hb : w ∉ builtinHeads) (hp : primitiveOf? w = none)
    (hc : m.findClass? w = none) (he : m.findEnum? w = none) (t : TypeExpr) (us : List TypeExpr) :
    m.shapeOf (.named w (t :: us)) = .generic w (t :: us) := by
  simp only [builtinHeads, List.mem_append, List.mem_cons, List.not_mem_nil, or_false, not_or] at hb
  obtain ⟨⟨⟨hvoid, hund, hnever, hunit, hnull, hopt⟩, hcoll⟩, hfree⟩ := hb
  have hbuiltin : builtinShape? w (t :: us) = none := by
    simp [builtinShape?, hvoid, hund, hnever, hunit, hnull, hopt, hp, hcoll, hfree]
  simp [shapeOf, namedShape, hbuiltin, hc, he]

end Manifest

namespace Resolver

variable {env : ResolverEnv} {s s' : ResolverState} {r : Option Descriptor} {t u : TypeExpr}

/-- A derivation reads its type only through the rewrite: every rule names `s.rewrite t`. -/
theorem Resolves.of_rewrite_eq (hrw : s.rewrite t = s.rewrite u) (h : Resolves env t s r s') :
    Resolves env u s r s' := by
  cases h with
  | void hs => exact .void (hrw ▸ hs)
  | null hs => exact .null (hrw ▸ hs)
  | primitive hs => exact .primitive (hrw ▸ hs)
  | array hs hd => exact .array (hrw ▸ hs) hd
  | enumeration hs => exact .enumeration (hrw ▸ hs)
  | namedUnion hs hu => exact .namedUnion (hrw ▸ hs) hu
  | union hs hn => exact .union (hrw ▸ hs) hn
  | wrapper hs hw hd => exact .wrapper (hrw ▸ hs) hw hd
  | bareWrapper hs hw => exact .bareWrapper (hrw ▸ hs) hw
  | generic hs hw => exact .generic (hrw ▸ hs) hw
  | namedObject hs ho => exact .namedObject (hrw ▸ hs) (hrw ▸ ho)
  | emptyObject hs => exact .emptyObject (hrw ▸ hs)
  | inlineObject hs hf => exact .inlineObject (hrw ▸ hs) hf
  | unknown hs => exact .unknown (hrw ▸ hs)

/-- A resolution reads its type only through the rewrite. -/
theorem resolveWith_succ_of_rewrite_eq (hrw : s.rewrite t = s.rewrite u) (f : Nat) :
    resolveWith env (f + 1) t s = resolveWith env (f + 1) u s := by
  rw [resolveWith, resolveWith]
  dsimp only
  rw [hrw]

/-- A type whose rewrite is void or null resolves to nothing, in the same state, and only so. -/
theorem resolves_of_isVoidShape (hv : isVoidShape (env.model.shapeOf (s.rewrite t)) = true) :
    Resolves env t s r s' ↔ r = none ∧ s' = s := by
  constructor
  · intro h
    have hat := h.inv
    unfold ResolvesAt at hat
    revert hat
    unfold isVoidShape at hv
    split at hv <;> simp_all
  · rintro ⟨rfl, rfl⟩
    unfold isVoidShape at hv
    split at hv
    next hs => exact .void hs
    next hs => exact .null hs
    next => cases hv

/-- The candidates of an option: its member alone, unless the member is void or null. -/
theorem candidates_option (hidem : s.rewrite (s.rewrite t) = s.rewrite t)
    (hnull : s.rewrite (.simple "null") = .simple "null") :
    candidates env s [s.rewrite t, .simple "null"] =
      if isVoidShape (env.model.shapeOf (s.rewrite t)) then [] else [s.rewrite t] := by
  simp only [candidates, List.map_cons, List.map_nil, hidem, hnull, List.filter_cons,
    Manifest.shapeOf_null, isVoidShape, Bool.not_true, List.filter_nil]
  split <;> simp_all

section Transparent

variable (hidem : s.rewrite (s.rewrite t) = s.rewrite t)
  (hnull : s.rewrite (.simple "null") = .simple "null")
include hidem hnull

theorem candidates_option_of_void (hv : isVoidShape (env.model.shapeOf (s.rewrite t)) = true) :
    candidates env s [s.rewrite t, .simple "null"] = [] := by
  rw [candidates_option hidem hnull, hv, if_pos rfl]

theorem candidates_option_of_member (hv : isVoidShape (env.model.shapeOf (s.rewrite t)) = false) :
    candidates env s [s.rewrite t, .simple "null"] = [s.rewrite t] := by
  rw [candidates_option hidem hnull, hv]
  rfl

theorem resolves_option_iff :
    Resolves env (.named "Option" [t]) s r s' ↔ Resolves env t s r s' := by
  have hshape : env.model.shapeOf (s.rewrite (.named "Option" [t])) =
      .union none [s.rewrite t, .simple "null"] := by
    rw [rewrite_option, Manifest.shapeOf_option]
  constructor
  · intro h
    have hn : Narrows env [s.rewrite t, .simple "null"] none s r s' := by
      have hat := h.inv
      unfold ResolvesAt at hat
      rw [hshape] at hat
      exact hat
    cases hv : isVoidShape (env.model.shapeOf (s.rewrite t)) with
    | true =>
      -- the member is void or null: no candidate, nothing resolved
      have hcand := candidates_option_of_void hidem hnull hv
      rw [resolves_of_isVoidShape hv]
      cases hn with
      | single hc _ => rw [hcand] at hc; cases hc
      | several _ hw =>
        rw [hcand] at hw
        cases hw
        exact ⟨rfl, rfl⟩
    | false =>
      -- the member is the one candidate, resolved as `t` is
      have hcand := candidates_option_of_member hidem hnull hv
      cases hn with
      | single hc hd =>
        rw [hcand] at hc
        cases hc
        rw [notOwner_none]
        exact hd.of_rewrite_eq hidem
      | several hc _ => rw [hcand] at hc; cases hc
  · intro h
    refine .union hshape ?_
    cases hv : isVoidShape (env.model.shapeOf (s.rewrite t)) with
    | true =>
      obtain ⟨rfl, rfl⟩ := (resolves_of_isVoidShape hv).mp h
      have hcand := candidates_option_of_void hidem hnull hv
      exact .several (by rw [hcand]; rfl) (by rw [hcand]; exact .nil)
    | false =>
      have hcand := candidates_option_of_member hidem hnull hv
      have hsingle : Narrows env [s.rewrite t, .simple "null"] none s (notOwner none r) s' :=
        .single (by rw [hcand]; rfl) (h.of_rewrite_eq hidem.symm)
      rwa [notOwner_none] at hsingle

/-- At every depth bound an option takes two steps more than its member: one for the union and
one for narrowing it. -/
theorem resolveWith_option (f : Nat) :
    resolveWith env (f + 3) (.named "Option" [t]) s = resolveWith env (f + 1) t s := by
  rw [resolveWith]
  dsimp only
  rw [rewrite_option, Manifest.shapeOf_option]
  dsimp only
  rw [narrowWith]
  dsimp only
  cases hv : isVoidShape (env.model.shapeOf (s.rewrite t)) with
  | true =>
    rw [candidates_option_of_void hidem hnull hv]
    unfold isVoidShape at hv
    rw [resolveWith]
    dsimp only
    split at hv <;> simp_all [onlyOne?, firstWinningBy]
  | false =>
    rw [candidates_option_of_member hidem hnull hv]
    simp only [onlyOne?]
    rw [resolveWith_succ_of_rewrite_eq hidem]
    cases resolveWith env (f + 1) t s <;> simp

end Transparent

section Wrappers

variable {w : String} {us : List TypeExpr} (hb : w ∉ builtinHeads) (hp : primitiveOf? w = none)
  (hc : env.model.findClass? w = none) (he : env.model.findEnum? w = none) (hw : w ∈ env.wrappers)
  (hidem : s.rewrite (s.rewrite t) = s.rewrite t)
include hb hp hc he hw hidem

theorem resolves_wrapper_iff : Resolves env (.named w (t :: us)) s r s' ↔ Resolves env t s r s' := by
  obtain ⟨us', hrw⟩ := s.rewrite_named_cons w t us
  have hshape : env.model.shapeOf (s.rewrite (.named w (t :: us))) = .generic w (s.rewrite t :: us') := by
    rw [hrw, Manifest.shapeOf_unknownHead _ hb hp hc he]
  have hcontains : env.wrappers.contains w = true := List.contains_iff_mem.mpr hw
  constructor
  · intro h
    have hat := h.inv
    unfold ResolvesAt at hat
    rw [hshape] at hat
    simp only [hcontains, if_true] at hat
    exact hat.of_rewrite_eq hidem
  · intro h
    exact .wrapper hshape hcontains (h.of_rewrite_eq hidem.symm)

/-- At every depth bound a wrapper takes one step more than what it holds. -/
theorem resolveWith_wrapper (f : Nat) :
    resolveWith env (f + 2) (.named w (t :: us)) s = resolveWith env (f + 1) t s := by
  obtain ⟨us', hrw⟩ := s.rewrite_named_cons w t us
  have hcontains : env.wrappers.contains w = true := List.contains_iff_mem.mpr hw
  rw [resolveWith]
  dsimp only
  rw [hrw, Manifest.shapeOf_unknownHead _ hb hp hc he]
  dsimp only
  rw [if_pos hcontains]
  exact resolveWith_succ_of_rewrite_eq hidem f

end Wrappers

end Resolver

/-- When rewriting `t` a second time by the innermost bindings changes nothing and those bindings
leave `null` alone, `Option<t>` resolves as `t` does: the same derivations, so the same result in
the same state, or no end on both sides; at every depth bound it takes two steps more. The same
holds of `W<t, …>` for every configured wrapper `W` that is no built-in head, no primitive, and
declared as neither a class nor an enumeration, with one step more. -/
theorem option_and_wrappers_transparent {env : ResolverEnv} {s : ResolverState} {t : TypeExpr}
    (hidem : s.rewrite (s.rewrite t) = s.rewrite t)
    (hnull : s.rewrite (.simple "null") = .simple "null") :
    ((∀ r s', Resolves env (.named "Option" [t]) s r s' ↔ Resolves env t s r s') ∧
      ∀ f, resolveWith env (f + 3) (.named "Option" [t]) s = resolveWith env (f + 1) t s) ∧
    ∀ w us, w ∉ builtinHeads → primitiveOf? w = none → env.model.findClass? w = none →
      env.model.findEnum? w = none → w ∈ env.wrappers →
      (∀ r s', Resolves env (.named w (t :: us)) s r s' ↔ Resolves env t s r s') ∧
        ∀ f, resolveWith env (f + 2) (.named w (t :: us)) s = resolveWith env (f + 1) t s :=
  ⟨⟨fun _ _ => resolves_option_iff hidem hnull, resolveWith_option hidem hnull⟩,
    fun _ _ hb hp hc he hw =>
      ⟨fun _ _ => resolves_wrapper_iff hb hp hc he hw hidem, resolveWith_wrapper hb hp hc he hw hidem⟩⟩

/-- With nothing bound, `Option<B>` and `Json<B>` resolve as the class `B` does. -/
theorem classB_option_transparent :
    ResolverState.initial.rewrite (ResolverState.initial.rewrite (.simple "B")) =
        ResolverState.initial.rewrite (.simple "B") ∧
      ResolverState.initial.rewrite (.simple "null") = .simple "null" ∧
      "Json" ∉ builtinHeads ∧ primitiveOf? "Json" = none ∧ pairEnv.model.findClass? "Json" = none ∧
      pairEnv.model.findEnum? "Json" = none ∧ "Json" ∈ pairEnv.wrappers ∧
      (∀ f, resolveWith pairEnv (f + 3) (.named "Option" [.simple "B"]) .initial =
        resolveWith pairEnv (f + 1) (.simple "B") .initial) ∧
      ∀ f, resolveWith pairEnv (f + 2) (.named "Json" [.simple "B"]) .initial =
        resolveWith pairEnv (f + 1) (.simple "B") .initial := by
  have hb : "Json" ∉ builtinHeads := by decide
  have hp : primitiveOf? "Json" = none := by decide
  have hc : pairEnv.model.findClass? "Json" = none := by decide
  have he : pairEnv.model.findEnum? "Json" = none := by decide
  have hw : "Json" ∈ pairEnv.wrappers := by decide
  have h := @option_and_wrappers_transparent pairEnv .initial (.simple "B") rfl rfl
  exact ⟨rfl, rfl, hb, hp, hc, he, hw, h.1.2, (h.2 "Json" [] hb hp hc he hw).2⟩

/-- Inside `Pair<B, string>`, with `A` bound to `B` and `B` to `string`, the member `A` of
`Option<A>` is rewritten to `B` as a member and then to `string` when it is resolved: the option
resolves to a string and records nothing, where `A` resolves to the class `B` and records it. -/
theorem optionOfBound_resolves_apart :
    (resolve pairEnv (.named "Option" [.simple "A"]) (ResolverState.initial.under [pairOfBString])).map
        (fun p => (p.1.map Descriptor.isPrimitive, p.2.arena.keys)) = some (some true, []) ∧
      (resolve pairEnv (.simple "A") (ResolverState.initial.under [pairOfBString])).map
        (fun p => (p.1.map Descriptor.isPrimitive, p.2.arena.keys)) = some (some false, ["B"]) := by
  decide +kernel

end ApiSpec
