import ApiSpec.Proofs.Resolve.Substitution

/-!
# Resolving under bindings is resolving the substituted type

A class met at `C<a₁, …, aₙ>` resolves its properties with its parameters bound to the arguments,
innermost. The substitution one expects of such bindings `σ` replaces every bare name that `σ`
binds by its argument, once and simultaneously, wherever it stands, the members of inline objects
included: `TypeExpr.substituteAll`. The resolver substitutes otherwise. It rewrites each type it
is given, but not inside inline objects, and rewrites again each type it hands on. The members
of an inline object are rewritten when the object's properties are resolved, under the same
bindings, so they meet the same substitution late; the arguments a class binds are not, for the
class resolves its properties under its own bindings.

Main statement: `resolveWith_bound_eq_substituteAll`. When no argument of `σ` mentions a
parameter of `σ` (so rewriting again changes nothing), no member of an enumeration mentions one
and `null` is not one (both are rewritten where they are met), and no inline member inside the
arguments of a class applied in `t` mentions one (`TypeExpr.ClassArgsAvoid`), resolving `t` under
`σ` is resolving `substituteAll σ t` with nothing bound innermost, at every depth bound.

* `TypeExpr.substituteAll_substituteIn`, `TypeExpr.display_substituteAll`: substituting
  everywhere after the rewrite is substituting everywhere, and gives the rewrite's text.
* `TypeExpr.shapeOf_substituteAll`: the shape of the substituted type is the shape of the
  rewritten one with the types it hands on substituted.
* `Resolver.Deep`: the two resolutions agree at a depth bound; `Resolver.deep` proves it at every
  bound by induction, one lemma for a type and one for the members of a union. A class and an
  enumeration with payloads meet only types that mention no parameter, and fall to
  `Resolver.alike`.
* `pairElement_substituted_twice`: where an argument mentions a parameter, the rewrite
  substitutes twice.
-/

namespace ApiSpec

namespace TypeExpr

mutual

/-- Replaces every bare name that `σ` binds by its argument, once and simultaneously, wherever it
stands: in arguments, elements, members, items and the members of inline objects. -/
def substituteAll (σ : List (String × TypeExpr)) : TypeExpr → TypeExpr
  | .named name [] => substituteIn σ (.named name [])
  | .named name args => .named name (substituteAllList σ args)
  | .array elem => .array (substituteAll σ elem)
  | .union members => .union (substituteAllList σ members)
  | .tuple items => .tuple (substituteAllList σ items)
  | .inline props => .inline (substituteAllProps σ props)
  | .unknown text => .unknown text

/-- Substitutes in each expression of a list. -/
def substituteAllList (σ : List (String × TypeExpr)) : List TypeExpr → List TypeExpr
  | [] => []
  | t :: rest => substituteAll σ t :: substituteAllList σ rest

/-- Substitutes in the type of each property declaration. -/
def substituteAllProps (σ : List (String × TypeExpr)) : List PropertyDecl → List PropertyDecl
  | [] => []
  | p :: rest => { p with type := substituteAll σ p.type } :: substituteAllProps σ rest

end

variable {σ : List (String × TypeExpr)} {m : Manifest} {t u : TypeExpr}

theorem substituteAllList_eq_map (ts : List TypeExpr) :
    substituteAllList σ ts = ts.map (substituteAll σ) := by
  induction ts with
  | nil => rfl
  | cons t ts ih => rw [substituteAllList, ih, List.map_cons]

theorem substituteAllProps_eq_map (ps : List PropertyDecl) :
    substituteAllProps σ ps = ps.map (PropertyOf.retype (substituteAll σ)) := by
  induction ps with
  | nil => rfl
  | cons p ps ih =>
    rw [substituteAllProps, ih, List.map_cons]
    rfl

theorem substituteList_eq_map (ts : List TypeExpr) : substituteList σ ts = ts.map (substituteIn σ) := by
  induction ts with
  | nil => rfl
  | cons t ts ih => rw [substituteList, ih, List.map_cons]

theorem subterms_subset_inline {p : PropertyDecl} {ps : List PropertyDecl} (hp : p ∈ ps) :
    p.type.subterms ⊆ (TypeExpr.inline ps).subterms :=
  List.Subset.trans (subterms_subset_subtermsProps hp)
    (by rw [subterms]; exact List.subset_cons_self _ _)

theorem Avoids.of_mem_subterms (h : t.Avoids σ) (hu : u ∈ t.subterms) : u.Avoids σ :=
  h.mono (subterms_sublist_of_mem t hu).subset

theorem inlineAvoids_of_avoids (h : t.Avoids σ) : t.InlineAvoids σ :=
  fun _ hp => h.of_mem_subterms hp

theorem null_avoids (hnull : ∀ b ∈ σ, b.1 ≠ "null") : (TypeExpr.simple "null").Avoids σ := by
  intro b hb hn
  have : b.1 = "null" := by simpa [mem_names, simple, subterms, subtermsList] using hn
  exact hnull b hb this

/-! ### Substituting everywhere against the rewrite -/

mutual

/-- Substituting in a type that mentions no parameter of `σ` changes nothing. -/
theorem substituteAll_of_avoids : (t : TypeExpr) → t.Avoids σ → t.substituteAll σ = t
  | .named n [], h => by rw [substituteAll, substituteIn_of_avoids _ h]
  | .named n (a :: as), h => by
    rw [substituteAll,
      substituteAllList_of_avoids (a :: as) fun v hv => h.mono (subterms_subset_named hv)]
    exact List.cons_ne_nil _ _
  | .array e, h => by
    rw [substituteAll, substituteAll_of_avoids e (h.mono subterms_subset_array)]
  | .tuple items, h => by
    rw [substituteAll,
      substituteAllList_of_avoids items fun v hv => h.mono (subterms_subset_tuple hv)]
  | .union ms, h => by
    rw [substituteAll, substituteAllList_of_avoids ms fun v hv => h.mono (subterms_subset_union hv)]
  | .inline ps, h => by
    rw [substituteAll, substituteAllProps_of_avoids ps fun p hp => h.mono (subterms_subset_inline hp)]
  | .unknown _, _ => by rw [substituteAll]

theorem substituteAllList_of_avoids : (ts : List TypeExpr) → (∀ t ∈ ts, t.Avoids σ) →
    substituteAllList σ ts = ts
  | [], _ => by rw [substituteAllList]
  | t :: ts, h => by
    rw [substituteAllList, substituteAll_of_avoids t (h t (List.mem_cons_self ..)),
      substituteAllList_of_avoids ts fun v hv => h v (List.mem_cons_of_mem _ hv)]

theorem substituteAllProps_of_avoids : (ps : List PropertyDecl) → (∀ p ∈ ps, p.type.Avoids σ) →
    substituteAllProps σ ps = ps
  | [], _ => by rw [substituteAllProps]
  | p :: ps, h => by
    rw [substituteAllProps, substituteAll_of_avoids p.type (h p (List.mem_cons_self ..)),
      substituteAllProps_of_avoids ps fun q hq => h q (List.mem_cons_of_mem _ hq)]

end

mutual

/-- Substituting everywhere after the rewrite is substituting everywhere: the rewrite puts in
only arguments, which mention no parameter, and leaves inline objects as they are. -/
theorem substituteAll_substituteIn (hargs : ∀ b ∈ σ, b.2.Avoids σ) :
    (t : TypeExpr) → (t.substituteIn σ).substituteAll σ = t.substituteAll σ
  | .named n [] => by
    rw [substituteAll]
    refine substituteAll_of_avoids _ (avoids_substituteIn hargs _ fun ps hp => ?_)
    simp [subterms, subtermsList] at hp
  | .named n (a :: as) => by
    rw [substituteIn, substituteList, substituteAll, substituteAll,
      ← substituteList, substituteAllList_substituteList hargs (a :: as)]
    all_goals exact List.cons_ne_nil _ _
  | .array e => by rw [substituteIn, substituteAll, substituteAll, substituteAll_substituteIn hargs e]
  | .tuple items => by
    rw [substituteIn, substituteAll, substituteAll, substituteAllList_substituteList hargs items]
  | .union ms => by
    rw [substituteIn, substituteAll, substituteAll, substituteAllList_substituteList hargs ms]
  | .inline _ => by rw [substituteIn]
  | .unknown _ => by rw [substituteIn]

theorem substituteAllList_substituteList (hargs : ∀ b ∈ σ, b.2.Avoids σ) :
    (ts : List TypeExpr) → substituteAllList σ (substituteList σ ts) = substituteAllList σ ts
  | [] => by rw [substituteList]
  | t :: ts => by
    rw [substituteList, substituteAllList, substituteAllList, substituteAll_substituteIn hargs t,
      substituteAllList_substituteList hargs ts]

end

theorem substituteAll_comp_substituteIn (hargs : ∀ b ∈ σ, b.2.Avoids σ) :
    substituteAll σ ∘ substituteIn σ = substituteAll σ :=
  funext (substituteAll_substituteIn hargs)

theorem length_substituteAllProps (ps : List PropertyDecl) :
    (substituteAllProps σ ps).length = ps.length := by
  rw [substituteAllProps_eq_map, List.length_map]

mutual

/-- Substituting inside inline objects changes no text: an inline object is written by the
number of its members. -/
theorem display_substituteAll : (t : TypeExpr) → (t.substituteAll σ).display = (t.substituteIn σ).display
  | .named n [] => by rw [substituteAll]
  | .named n (a :: as) => by
    rw [substituteAll, substituteIn, substituteAllList, substituteList, display, display,
      ← substituteAllList, ← substituteList, displayList_substituteAll ", " (a :: as)]
    all_goals exact List.cons_ne_nil _ _
  | .array e => by rw [substituteAll, substituteIn, display, display, display_substituteAll e]
  | .tuple items => by
    rw [substituteAll, substituteIn, display, display, displayList_substituteAll ", " items]
  | .union ms => by
    rw [substituteAll, substituteIn, display, display, displayList_substituteAll " | " ms]
  | .inline ps => by rw [substituteAll, substituteIn, display, display, length_substituteAllProps]
  | .unknown _ => by rw [substituteAll, substituteIn]

theorem displayList_substituteAll (sep : String) : (ts : List TypeExpr) →
    displayList sep (substituteAllList σ ts) = displayList sep (substituteList σ ts)
  | [] => by rw [substituteAllList, substituteList]
  | [t] => by
    rw [substituteAllList, substituteAllList, substituteList, substituteList, displayList,
      displayList, display_substituteAll t]
  | t :: u :: ts => by
    rw [substituteAllList, substituteList, displayList, displayList, display_substituteAll t,
      displayList_substituteAll sep (u :: ts)]
    · rw [substituteList]
      exact List.cons_ne_nil _ _
    · rw [substituteAllList]
      exact List.cons_ne_nil _ _

end

end TypeExpr

/-! ### Shapes of substituted types -/

namespace Shape

/-- The shape with `f` applied to the types it hands on under the bindings it was met with: an
element, the members of an unnamed union, the arguments of a generic, the arguments a class
binds, the types of an unnamed object's properties. The members of an enumeration and the
properties of a class come from the model and stay. -/
def mapHanded (f : TypeExpr → TypeExpr) : Shape → Shape
  | .array e => .array (f e)
  | .union none ms => .union none (ms.map f)
  | .generic n args => .generic n (args.map f)
  | .object (some c) b ps => .object (some c) (b.map (Prod.map id f)) ps
  | .object none b ps => .object none b (ps.map (PropertyOf.retype f))
  | sh => sh

variable {f : TypeExpr → TypeExpr} {sh : Shape}

/-- A map that fixes every type a shape hands on fixes the shape. -/
theorem mapHanded_eq_self (h : ∀ v ∈ sh.handed, f v = v) : sh.mapHanded f = sh := by
  cases sh with
  | array e => simp [mapHanded, h e (by simp [handed])]
  | union o ms =>
    cases o with
    | none =>
      simp only [handed] at h
      simp only [mapHanded]
      rw [List.map_congr_left h, List.map_id']
    | some _ => rfl
  | generic n args =>
    simp only [handed] at h
    simp only [mapHanded]
    rw [List.map_congr_left h, List.map_id']
  | object o b ps =>
    cases o with
    | some c =>
      simp only [mapHanded, object.injEq, true_and, and_true]
      refine (List.map_congr_left fun x hx => ?_).trans (List.map_id' b)
      rw [Prod.map_apply, id_eq, h x.2 (List.mem_map_of_mem hx)]
    | none =>
      simp only [mapHanded, object.injEq, true_and]
      refine (List.map_congr_left fun p hp => ?_).trans (List.map_id' ps)
      show { p with type := f p.type } = p
      rw [h p.type (List.mem_map_of_mem hp)]
  | _ => rfl

theorem isVoidShape_mapHanded : Resolver.isVoidShape (sh.mapHanded f) = Resolver.isVoidShape sh := by
  cases sh with
  | union o ms => cases o <;> rfl
  | object o b ps => cases o <;> rfl
  | _ => rfl

theorem mapHanded_eq_object_some {c : String} {b : List (String × TypeExpr)} {ps : List PropertyDecl}
    (h : sh.mapHanded f = .object (some c) b ps) :
    ∃ b', sh = .object (some c) b' ps ∧ b = b'.map (Prod.map id f) := by
  cases sh with
  | union o ms => cases o <;> cases h
  | object o b' ps' =>
    cases o with
    | some c' =>
      simp only [mapHanded, object.injEq, Option.some.injEq] at h
      obtain ⟨rfl, rfl, rfl⟩ := h
      exact ⟨b', rfl, rfl⟩
    | none => cases h
  | _ => cases h

end Shape

/-- A name every host language agrees on has the same shape at mapped arguments, with what it
hands on mapped, when the map keeps `null`: an option's other member is `null`. -/
theorem builtinShape?_map {f : TypeExpr → TypeExpr} (hf : f (.simple "null") = .simple "null")
    (n : String) (args : List TypeExpr) :
    builtinShape? n (args.map f) = (builtinShape? n args).map (Shape.mapHanded f) := by
  cases args with
  | nil =>
    simp only [List.map_nil, builtinShape?]
    split_ifs <;> rfl
  | cons a as =>
    simp only [List.map_cons, builtinShape?]
    split_ifs <;> simp [Shape.mapHanded, hf]

namespace Manifest

variable {m : Manifest}

/-- The shape of a name at mapped arguments is its shape with what it hands on mapped: the
shape of a named type reads its arguments only at the positions it hands on. -/
theorem namedShape_map {f : TypeExpr → TypeExpr} (hf : f (.simple "null") = .simple "null")
    (n : String) (args : List TypeExpr) :
    m.namedShape n (args.map f) = (m.namedShape n args).mapHanded f := by
  unfold namedShape
  rw [builtinShape?_map hf]
  cases builtinShape? n args with
  | some sh => rfl
  | none =>
    simp only [Option.map_none]
    cases m.findClass? n with
    | some c => simp only [Shape.mapHanded, List.zip_map_right]
    | none =>
      dsimp only
      cases m.findEnum? n with
      | some e =>
        dsimp only
        split <;> rfl
      | none => cases args <;> rfl

end Manifest

namespace TypeExpr

variable {σ : List (String × TypeExpr)} {m : Manifest} {t : TypeExpr}

/-- The shape of the type substituted everywhere is the shape of the rewritten type with the
types it hands on substituted. -/
theorem shapeOf_substituteAll (hargs : ∀ b ∈ σ, b.2.Avoids σ) (hnull : ∀ b ∈ σ, b.1 ≠ "null")
    (henums : ∀ e ∈ m.enums, ∀ u ∈ e.members, u.Avoids σ) (t : TypeExpr) :
    m.shapeOf (t.substituteAll σ) = (m.shapeOf (t.substituteIn σ)).mapHanded (substituteAll σ) := by
  have hnull' : (TypeExpr.simple "null").substituteAll σ = .simple "null" :=
    substituteAll_of_avoids _ (null_avoids hnull)
  cases t with
  | named n args =>
    cases args with
    | nil =>
      -- a bare name is replaced by an argument or kept, and either way mentions no parameter
      have hw : ((TypeExpr.named n []).substituteIn σ).Avoids σ :=
        avoids_substituteIn hargs _ fun ps hp => by simp [subterms, subtermsList] at hp
      rw [substituteAll]
      exact (Shape.mapHanded_eq_self fun v hv =>
        substituteAll_of_avoids v (Manifest.avoids_of_mem_handed hnull henums hw hv)).symm
    | cons a as =>
      rw [substituteAll, substituteIn, substituteAllList_eq_map, substituteList_eq_map]
      · simp only [Manifest.shapeOf]
        rw [← Manifest.namedShape_map hnull', List.map_map, substituteAll_comp_substituteIn hargs]
      all_goals exact List.cons_ne_nil _ _
  | array e =>
    simp only [substituteAll, substituteIn, Manifest.shapeOf, Shape.mapHanded,
      substituteAll_substituteIn hargs]
  | tuple items =>
    cases items with
    | nil => rfl
    | cons x xs =>
      -- a tuple is unknown by its text, which substituting inside inline objects keeps
      have hd := display_substituteAll (σ := σ) (.tuple (x :: xs))
      simp only [substituteAll, substituteIn, substituteAllList, substituteList] at hd ⊢
      simp only [Manifest.shapeOf, Shape.mapHanded, hd]
  | union ms =>
    simp only [substituteAll, substituteIn, Manifest.shapeOf, Shape.mapHanded,
      substituteAllList_eq_map, substituteList_eq_map, List.map_map,
      substituteAll_comp_substituteIn hargs]
  | inline ps =>
    simp only [substituteAll, substituteIn, Manifest.shapeOf, Shape.mapHanded,
      substituteAllProps_eq_map]
  | unknown x => rfl

/-! ### Classes applied to arguments -/

/-- No inline member inside the arguments of a class applied in `t` mentions a parameter of `σ`:
a class binds its arguments as it finds them and resolves its properties under its own bindings,
where `σ` no longer reaches the members of an inline argument. -/
def ClassArgsAvoid (m : Manifest) (σ : List (String × TypeExpr)) (t : TypeExpr) : Prop :=
  ∀ n args, TypeExpr.named n args ∈ t.subterms →
    ∀ c b ps, m.namedShape n args = .object (some c) b ps → ∀ a ∈ args, a.InlineAvoids σ

theorem ClassArgsAvoid.mono (h : ClassArgsAvoid m σ t) (hu : u.subterms ⊆ t.subterms) :
    ClassArgsAvoid m σ u :=
  fun n args hn => h n args (hu hn)

theorem classArgsAvoid_of_avoids (h : t.Avoids σ) : ClassArgsAvoid m σ t :=
  fun _ _ hn _ _ _ _ _ ha => inlineAvoids_of_avoids ((h.of_mem_subterms hn).mono (subterms_subset_named ha))

/-- A node holds the condition when its children do and, if it applies a class, its arguments
keep their inline members clear of `σ`. -/
theorem classArgsAvoid_of_children (cs : List TypeExpr) (hsub : t.subterms = t :: subtermsList cs)
    (hself : ∀ n args, t = .named n args →
      ∀ c b ps, m.namedShape n args = .object (some c) b ps → ∀ a ∈ args, a.InlineAvoids σ)
    (hcs : ∀ c ∈ cs, ClassArgsAvoid m σ c) : ClassArgsAvoid m σ t := by
  intro n args hn
  rw [hsub, List.mem_cons] at hn
  rcases hn with hn | hn
  · exact hself n args hn.symm
  · obtain ⟨c, hc, hm⟩ := mem_subtermsList.mp hn
    exact hcs c hc n args hm

/-- The rewrite of the arguments of a class applied in `t` mentions no parameter of `σ`: the
rewrite replaces the bare names and the condition keeps the inline members clear. -/
theorem ClassArgsAvoid.args_avoid (hargs : ∀ b ∈ σ, b.2.Avoids σ)
    (hnull : ∀ b ∈ σ, b.1 ≠ "null") {n : String} {args : List TypeExpr}
    (h : ClassArgsAvoid m σ (.named n args)) {c : String} {b : List (String × TypeExpr)}
    {ps : List PropertyDecl}
    (hc : m.namedShape n (args.map (substituteIn σ)) = .object (some c) b ps) :
    ∀ a ∈ args, (a.substituteIn σ).Avoids σ := by
  have hnull' : (TypeExpr.simple "null").substituteIn σ = .simple "null" :=
    substituteIn_of_avoids _ (null_avoids hnull)
  rw [Manifest.namedShape_map hnull'] at hc
  obtain ⟨b', hb', -⟩ := Shape.mapHanded_eq_object_some hc
  exact fun a ha => avoids_substituteIn hargs a (h n args (mem_subterms_self _) c b' ps hb' a ha)

mutual

/-- The rewrite keeps the condition: it puts in only arguments, which mention no parameter. -/
theorem classArgsAvoid_substituteIn (hargs : ∀ b ∈ σ, b.2.Avoids σ) (hnull : ∀ b ∈ σ, b.1 ≠ "null") :
    (t : TypeExpr) → ClassArgsAvoid m σ t → ClassArgsAvoid m σ (t.substituteIn σ)
  | .named n [], h => by
    rw [substituteIn]
    split
    next _ a hf => exact classArgsAvoid_of_avoids (hargs _ (List.mem_of_find?_eq_some hf))
    next => exact h
  | .named n (a :: as), h => by
    rw [substituteIn]
    swap
    · exact List.cons_ne_nil _ _
    refine classArgsAvoid_of_children _ rfl ?_
      (classArgsAvoid_substituteList hargs hnull (a :: as) fun v hv => h.mono (subterms_subset_named hv))
    -- the class applied here binds the rewritten arguments
    rintro n' args' heq c b ps hc a' ha'
    obtain ⟨rfl, rfl⟩ := TypeExpr.named.inj heq
    rw [substituteList_eq_map] at hc ha'
    obtain ⟨a'', ha'', rfl⟩ := List.mem_map.mp ha'
    exact inlineAvoids_of_avoids (h.args_avoid hargs hnull hc a'' ha'')
  | .array e, h => by
    rw [substituteIn]
    refine classArgsAvoid_of_children [e.substituteIn σ] (by simp [subterms, subtermsList])
      (fun _ _ heq => by cases heq) ?_
    simpa using classArgsAvoid_substituteIn hargs hnull e (h.mono subterms_subset_array)
  | .tuple items, h => by
    rw [substituteIn]
    exact classArgsAvoid_of_children _ rfl (fun _ _ heq => by cases heq)
      (classArgsAvoid_substituteList hargs hnull items fun v hv => h.mono (subterms_subset_tuple hv))
  | .union ms, h => by
    rw [substituteIn]
    exact classArgsAvoid_of_children _ rfl (fun _ _ heq => by cases heq)
      (classArgsAvoid_substituteList hargs hnull ms fun v hv => h.mono (subterms_subset_union hv))
  | .inline _, h => by rw [substituteIn]; exact h
  | .unknown _, h => by rw [substituteIn]; exact h

theorem classArgsAvoid_substituteList (hargs : ∀ b ∈ σ, b.2.Avoids σ)
    (hnull : ∀ b ∈ σ, b.1 ≠ "null") :
    (ts : List TypeExpr) → (∀ t ∈ ts, ClassArgsAvoid m σ t) →
      ∀ u ∈ substituteList σ ts, ClassArgsAvoid m σ u
  | [], _ => by simp [substituteList]
  | t :: ts, h => by
    rw [substituteList]
    intro u hu
    rcases List.mem_cons.mp hu with rfl | hu
    · exact classArgsAvoid_substituteIn hargs hnull t (h t (List.mem_cons_self ..))
    · exact classArgsAvoid_substituteList hargs hnull ts (fun v hv => h v (List.mem_cons_of_mem _ hv)) u hu

end

/-- What a shape hands on keeps the condition: it lies inside the type, or is the `null` of an
option or a member of an enumeration, which mention no parameter. -/
theorem ClassArgsAvoid.handed (hnull : ∀ b ∈ σ, b.1 ≠ "null")
    (henums : ∀ e ∈ m.enums, ∀ u ∈ e.members, u.Avoids σ) (h : ClassArgsAvoid m σ t) {v : TypeExpr}
    (hv : v ∈ (m.shapeOf t).handed) : ClassArgsAvoid m σ v := by
  rcases Manifest.mem_handed_shapeOf hv with hs | rfl | ⟨e, he, hu⟩
  · exact h.mono hs
  · exact classArgsAvoid_of_avoids (null_avoids hnull)
  · exact classArgsAvoid_of_avoids (henums e he v hu)

/-- A class met after the rewrite binds arguments that mention no parameter of `σ`. -/
theorem ClassArgsAvoid.bindings_avoid (hargs : ∀ b ∈ σ, b.2.Avoids σ)
    (hnull : ∀ b ∈ σ, b.1 ≠ "null") (henums : ∀ e ∈ m.enums, ∀ u ∈ e.members, u.Avoids σ)
    (h : ClassArgsAvoid m σ t) {c : String} {b : List (String × TypeExpr)} {ps : List PropertyDecl}
    (hs : m.shapeOf (t.substituteIn σ) = .object (some c) b ps) : ∀ x ∈ b, x.2.Avoids σ := by
  intro x hx
  have hmem : x.2 ∈ (m.shapeOf (t.substituteIn σ)).handed := by
    rw [hs]
    exact List.mem_map_of_mem hx
  cases t with
  | named n args =>
    cases args with
    | nil =>
      -- a bare name is replaced by an argument or kept, and either way mentions no parameter
      have hw : ((TypeExpr.named n []).substituteIn σ).Avoids σ :=
        avoids_substituteIn hargs _ fun ps hp => by simp [subterms, subtermsList] at hp
      exact Manifest.avoids_of_mem_handed hnull henums hw hmem
    | cons a as =>
      rw [substituteIn, substituteList_eq_map] at hs hmem
      · -- the class is applied to rewritten arguments, which mention no parameter
        simp only [Manifest.shapeOf] at hs
        have hw : (TypeExpr.named n ((a :: as).map (substituteIn σ))).Avoids σ := by
          refine avoids_of_children _ (by simp) rfl fun v hv => ?_
          obtain ⟨a', ha', rfl⟩ := List.mem_map.mp hv
          exact h.args_avoid hargs hnull hs a' ha'
        exact Manifest.avoids_of_mem_handed hnull henums hw hmem
      all_goals exact List.cons_ne_nil _ _
  | tuple items => cases items <;> simp [substituteIn, substituteList, Manifest.shapeOf] at hs
  | _ => simp [substituteIn, Manifest.shapeOf] at hs

end TypeExpr

/-! ### Two resolutions: under the bindings, and of the substituted type -/

namespace Resolver

open ResolverState TypeExpr

theorem onlyOne?_map {α β : Type} (f : α → β) : (l : List α) → onlyOne? (l.map f) = (onlyOne? l).map f
  | [] => rfl
  | [_] => rfl
  | _ :: _ :: _ => rfl

theorem mem_of_onlyOne?_eq_some {α : Type} {l : List α} {a : α} (h : onlyOne? l = some a) : a ∈ l := by
  unfold onlyOne? at h
  split at h <;> simp_all

variable {env : ResolverEnv} {σ : List (String × TypeExpr)} {rest : List (List (String × TypeExpr))}
  {n : Nat}

/-- At the depth bound `n`, resolving under `σ` innermost and resolving the substituted type with
nothing bound innermost agree, for one type and for the members of a union: the same result, and
the same state but for the bindings. -/
structure Deep (env : ResolverEnv) (σ : List (String × TypeExpr))
    (rest : List (List (String × TypeExpr))) (n : Nat) : Prop where
  resolve : ∀ (t : TypeExpr) (s : ResolverState), ClassArgsAvoid env.model σ t →
    resolveWith env n t (s.under (σ :: rest)) =
      (resolveWith env n (t.substituteAll σ) (s.under ([] :: rest))).map
        (Prod.map id (·.under (σ :: rest)))
  narrow : ∀ (ms : List TypeExpr) (o : Option String) (s : ResolverState),
    (∀ m ∈ ms, ClassArgsAvoid env.model σ m) →
    narrowWith env n ms o (s.under (σ :: rest)) =
      (narrowWith env n (ms.map (substituteAll σ)) o (s.under ([] :: rest))).map
        (Prod.map id (·.under (σ :: rest)))

theorem deep_zero : Deep env σ rest 0 where
  resolve _ _ _ := by simp [resolveWith]
  narrow _ _ _ _ := by simp [narrowWith]

/-- A state with nothing bound innermost is that state under `[] :: rest`, so the agreement reads
as one between a state and the same state under `σ :: rest`. -/
theorem Deep.resolve_of_scopes (ih : Deep env σ rest n) (t : TypeExpr) (s : ResolverState)
    (hs : s.scopes = [] :: rest) (ht : ClassArgsAvoid env.model σ t) :
    resolveWith env n t (s.under (σ :: rest)) =
      (resolveWith env n (t.substituteAll σ) s).map (Prod.map id (·.under (σ :: rest))) := by
  rw [ih.resolve t s ht, ← hs, under_self]

section Step

variable (hargs : ∀ b ∈ σ, b.2.Avoids σ) (hnull : ∀ b ∈ σ, b.1 ≠ "null")
  (henums : ∀ e ∈ env.model.enums, ∀ u ∈ e.members, u.Avoids σ)
include hargs hnull henums

/-- The candidates of a union with substituted members are the candidates under `σ`, substituted:
a member is void or null exactly when its rewrite is. -/
theorem candidates_substituteAll (s s' : ResolverState) (ms : List TypeExpr) :
    candidates env (s'.under ([] :: rest)) (ms.map (substituteAll σ)) =
      (candidates env (s.under (σ :: rest)) ms).map (substituteAll σ) := by
  have hplain : (s'.under ([] :: rest)).rewrite = id :=
    funext fun t => by rw [rewrite_under_cons, substituteIn_nil, id]
  have hbound : (s.under (σ :: rest)).rewrite = substituteIn σ := funext (rewrite_under_cons _ _ σ)
  unfold candidates
  rw [hplain, hbound, List.map_id, List.filter_map, List.filter_map, List.map_map,
    substituteAll_comp_substituteIn hargs]
  congr 1
  refine List.filter_congr fun m _ => ?_
  simp only [Function.comp_apply, shapeOf_substituteAll hargs hnull henums,
    Shape.isVoidShape_mapHanded]

/-- One step of narrowing: both sides take the same candidates, the plain side's substituted,
and resolve the one candidate or run through them in order alike. -/
theorem Deep.narrow_succ (ih : Deep env σ rest n) (ms : List TypeExpr) (o : Option String)
    (s : ResolverState) (hms : ∀ m ∈ ms, ClassArgsAvoid env.model σ m) :
    narrowWith env (n + 1) ms o (s.under (σ :: rest)) =
      (narrowWith env (n + 1) (ms.map (substituteAll σ)) o (s.under ([] :: rest))).map
        (Prod.map id (·.under (σ :: rest))) := by
  -- each candidate is a member rewritten under `σ`, which keeps the condition on classes
  have hcs : ∀ c ∈ candidates env (s.under (σ :: rest)) ms, ClassArgsAvoid env.model σ c := by
    intro c hc
    simp only [candidates, List.mem_filter, List.mem_map, rewrite_under_cons] at hc
    obtain ⟨⟨m, hm, rfl⟩, -⟩ := hc
    exact classArgsAvoid_substituteIn hargs hnull m (hms m hm)
  rw [narrowWith, narrowWith]
  dsimp only
  rw [candidates_substituteAll hargs hnull henums s s ms, onlyOne?_map]
  cases hc : onlyOne? (candidates env (s.under (σ :: rest)) ms) with
  | some c =>
    dsimp only [Option.map_some]
    rw [ih.resolve c s (hcs c (mem_of_onlyOne?_eq_some hc))]
    rcases resolveWith env n (c.substituteAll σ) (s.under ([] :: rest)) with _ | ⟨d, s'⟩ <;> rfl
  | none =>
    exact firstWinningBy_sim (Q := fun s => s.scopes = [] :: rest) (g := substituteAll σ)
      (fun t s hs ht => ih.resolve_of_scopes t s hs ht) (fun _ _ _ => (alike env n).scopes_eq)
      (fun _ _ hs h => h.trans hs) o _ (s.under ([] :: rest)) rfl hcs

/-- One step of resolving: the plain side meets the shape of the rewritten type with the types
it hands on substituted, and hands each on to a resolution that agrees. -/
theorem Deep.resolve_succ (ih : Deep env σ rest n) (t : TypeExpr) (s : ResolverState)
    (ht : ClassArgsAvoid env.model σ t) :
    resolveWith env (n + 1) t (s.under (σ :: rest)) =
      (resolveWith env (n + 1) (t.substituteAll σ) (s.under ([] :: rest))).map
        (Prod.map id (·.under (σ :: rest))) := by
  have hhanded : ∀ v ∈ (env.model.shapeOf (t.substituteIn σ)).handed,
      ClassArgsAvoid env.model σ v :=
    fun v hv => (classArgsAvoid_substituteIn hargs hnull t ht).handed hnull henums hv
  have hbind : ∀ c b ps, env.model.shapeOf (t.substituteIn σ) = .object (some c) b ps →
      ∀ x ∈ b, x.2.Avoids σ :=
    fun _ _ _ hs => ht.bindings_avoid hargs hnull henums hs
  rw [resolveWith, resolveWith]
  dsimp only
  rw [rewrite_under_cons, rewrite_under_cons, substituteIn_nil, display_substituteAll,
    shapeOf_substituteAll hargs hnull henums]
  generalize t.substituteIn σ = w at hhanded hbind ⊢
  cases hs : env.model.shapeOf w with
  | void | null | primitive _ | unknown _ => rfl
  | array e =>
    simp only [Shape.mapHanded]
    rw [ih.resolve e s (hhanded e (by simp [hs, Shape.handed]))]
    rcases resolveWith env n (e.substituteAll σ) (s.under ([] :: rest)) with _ | ⟨d, s'⟩ <;> rfl
  | enumeration name values =>
    simp only [Shape.mapHanded, Option.map_some, Prod.map_apply, id_eq, recordAs_under, under_under]
  | union o ms =>
    cases o with
    | some k =>
      -- an enumeration with payloads: its members come from the model and mention no parameter
      obtain ⟨e, he, -, rfl, -⟩ := Manifest.shapeOf_eq_union_some hs
      exact (alike env n).union _ (σ :: rest) k e.members (s.under ([] :: rest))
        (Mirror.of_avoids hnull henums rest s) (henums e he)
    | none =>
      exact ih.narrow ms none s fun m hm => hhanded m (by simpa [hs, Shape.handed] using hm)
  | generic name args =>
    simp only [Shape.mapHanded]
    by_cases hw : env.wrappers.contains name
    · simp only [hw, ↓reduceIte]
      cases args with
      | nil => rfl
      | cons a as => exact ih.resolve a s (hhanded a (by simp [hs, Shape.handed]))
    · simp only [hw, Bool.false_eq_true, ↓reduceIte]
      rfl
  | object o b ps =>
    cases o with
    | some c =>
      -- a class binds arguments that mention no parameter, so both sides resolve it alike
      have hb := hbind c b ps hs
      have hkeep : b.map (Prod.map id (substituteAll σ)) = b :=
        (List.map_congr_left fun x hx => by
          rw [Prod.map_apply, id_eq, substituteAll_of_avoids x.2 (hb x hx)]).trans (List.map_id' b)
      simp only [Shape.mapHanded, hkeep]
      exact (alike env n).object _ (σ :: rest) _ b ps (s.under ([] :: rest))
        (Mirror.of_avoids hnull henums rest s) hb
    | none =>
      simp only [Shape.mapHanded]
      cases ps with
      | nil => rfl
      | cons p ps =>
        -- an unnamed object: each property is resolved alike, the plain side's substituted
        have hf := @fieldsBy_sim env (σ :: rest) (resolveWith env n)
          (fun s => s.scopes = [] :: rest) (ClassArgsAvoid env.model σ) (substituteAll σ)
          (fun t s hs ht => ih.resolve_of_scopes t s hs ht) (fun _ _ _ => (alike env n).scopes_eq)
          (fun _ _ hs h => h.trans hs) (p :: ps) (s.under ([] :: rest)) rfl
          (fun q hq => hhanded q.type (by simp only [hs, Shape.handed]; exact List.mem_map_of_mem hq))
        rw [under_under] at hf
        simp only [List.map_cons, List.isEmpty_cons, Bool.false_eq_true, ↓reduceIte] at hf ⊢
        rw [hf]
        rcases fieldsBy env (resolveWith env n) (p.retype (substituteAll σ) ::
          ps.map (PropertyOf.retype (substituteAll σ))) (s.under ([] :: rest)) with _ | ⟨fs, s'⟩
        all_goals rfl

/-- One more step of depth keeps the agreement. -/
theorem Deep.succ (ih : Deep env σ rest n) : Deep env σ rest (n + 1) where
  resolve := ih.resolve_succ hargs hnull henums
  narrow := ih.narrow_succ hargs hnull henums

/-- The two resolutions agree at every depth bound. -/
theorem deep : ∀ n, Deep env σ rest n
  | 0 => deep_zero
  | n + 1 => (deep n).succ hargs hnull henums

end Step

end Resolver

open Resolver ResolverState TypeExpr

/-- Resolving under the bindings `σ` innermost is resolving the type substituted by `σ` everywhere
with nothing bound innermost, at every depth bound: the same result, and the same state but for
the bindings. It needs that no argument of `σ` mentions a parameter of `σ`, since every call
rewrites again; that no member of an enumeration mentions one and `null` is not one, since both
are rewritten where they are met; and that no inline member inside the arguments of a class
applied in the type mentions one, since the class resolves its arguments under its own
bindings. -/
theorem resolveWith_bound_eq_substituteAll {env : ResolverEnv} {σ : List (String × TypeExpr)}
    {t : TypeExpr} (hargs : ∀ b ∈ σ, b.2.Avoids σ) (hnull : ∀ b ∈ σ, b.1 ≠ "null")
    (henums : ∀ e ∈ env.model.enums, ∀ u ∈ e.members, u.Avoids σ)
    (hclass : ClassArgsAvoid env.model σ t) (rest : List (List (String × TypeExpr)))
    (s : ResolverState) (n : Nat) :
    resolveWith env n t (s.under (σ :: rest)) =
      (resolveWith env n (t.substituteAll σ) (s.under ([] :: rest))).map
        (Prod.map id (·.under (σ :: rest))) :=
  (deep hargs hnull henums n).resolve t s hclass

/-- The bindings of `Pair<bool, string>`, which mention no parameter. -/
def pairOfBoolString : List (String × TypeExpr) := [("A", .simple "bool"), ("B", .simple "string")]

/-- An inline object whose one member is a list of the parameter `A`. -/
def inlineListOfA : TypeExpr :=
  .inline [⟨"first", .named "Vec" [.simple "A"], false, false, none, []⟩]

/-- Under the bindings of `Pair<bool, string>`, the inline object `{ first: Vec<A> }` resolves as
`{ first: Vec<bool> }` does with nothing bound innermost. -/
theorem inlineListOfA_substituted_once :
    resolveWith pairEnv 8 inlineListOfA (ResolverState.initial.under [pairOfBoolString]) =
      (resolveWith pairEnv 8 (inlineListOfA.substituteAll pairOfBoolString)
        (ResolverState.initial.under [[]])).map (Prod.map id (·.under [pairOfBoolString])) :=
  resolveWith_bound_eq_substituteAll (by decide) (by decide)
    (by simp [pairEnv, pairModel, Manifest.enums])
    (by
      intro n args hn _ _ _ _ a ha ps hp
      -- the only arguments are the bare `A` of `Vec<A>`, which holds no inline object
      simp only [inlineListOfA, subterms, subtermsProps, subtermsList, simple, List.append_nil,
        List.mem_cons, named.injEq, List.not_mem_nil, or_false] at hn
      rcases hn with hn | ⟨-, rfl⟩ | ⟨-, rfl⟩
      · cases hn
      · rw [List.mem_singleton] at ha
        subst ha
        simp [subterms, subtermsList] at hp
      · exact absurd ha List.not_mem_nil)
    [] ResolverState.initial 8

/-- Inside `Pair<B, string>` the element `A` of `first` is rewritten to `B` and then, when the
array hands it on, to `string`, and nothing is recorded; substituting once gives `Vec<B>`, which
records the class `B`. -/
theorem pairElement_substituted_twice :
    (resolve pairEnv (.named "Vec" [.simple "A"]) (ResolverState.initial.under [pairOfBString])).map
        (·.2.arena.keys) = some [] ∧
      (resolve pairEnv ((TypeExpr.named "Vec" [.simple "A"]).substituteAll pairOfBString)
        (ResolverState.initial.under [[]])).map (·.2.arena.keys) = some ["B"] := by
  decide +kernel

end ApiSpec
