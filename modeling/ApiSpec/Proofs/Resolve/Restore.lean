import ApiSpec.Proofs.Resolve.Substitution

/-!
# What a resolution puts back

A class is described at its identity with the identity pushed on the stack of types being
described and its bindings pushed on the scopes; both are popped once its properties are
resolved. An enumeration with payloads pushes and pops its identity around its narrowing. In
between, properties and members are resolved by the same recursion, to any depth, and the
recursion returns early from the arena, from the cycle guard, from void types and from a bare
wrapper. Every resolution that ends leaves the stack and the scopes as it found them: it ends in
the frame it started in (`ResolverState.SameFrame`), having changed the arena and added warnings,
nothing else.

* `ResolverState.SameFrame.leave`, `ResolverState.SameFrame.dropScope_leave`: popping undoes the
  push, once the work in between kept its frame.
* `Resolver.Resolves.sameFrame`: every derivation keeps its frame; by induction on the
  derivation, one case per rule, with its five sibling relations.
* `resolution_restores_stack_and_scopes`: so does every run of the resolver and of each helper it
  recurses through, at every depth bound.
-/

namespace ApiSpec

namespace ResolverState

variable {s s' s₁ : ResolverState}

/-- A state of the same frame is the state it started from with another arena and other
warnings. -/
theorem sameFrame_iff : s.SameFrame s' ↔ s' = { s with arena := s'.arena, notices := s'.notices } := by
  constructor
  · intro h
    obtain ⟨a, st, sc, ns⟩ := s'
    obtain ⟨hst, hsc⟩ := h
    dsimp only at hst hsc
    rw [hst, hsc]
  · intro h
    rw [h]
    exact ⟨rfl, rfl⟩

/-! Recording a descriptor and raising a warning touch neither the stack nor the scopes. -/

theorem SameFrame.record (h : s.SameFrame s₁) (k : String) (d : Descriptor) :
    s.SameFrame (s₁.record k d) :=
  ⟨h.1, h.2⟩

theorem SameFrame.recordAs (h : s.SameFrame s₁) (o : Option String) (d : Descriptor) :
    s.SameFrame (s₁.recordAs o d) :=
  ⟨by rw [recordAs_stack, h.1], by rw [recordAs_scopes, h.2]⟩

theorem SameFrame.keep (h : s.SameFrame s₁) (k : String) (r : Option Descriptor) :
    s.SameFrame (s₁.keep k r) :=
  ⟨by rw [keep_stack, h.1], by rw [keep_scopes, h.2]⟩

theorem SameFrame.note (h : s.SameFrame s₁) (n : Notice) : s.SameFrame (s₁.note n) :=
  ⟨h.1, h.2⟩

/-! Popping what was pushed. The identity popped is the one on top, so erasing it from the stack
takes back exactly the push, whether or not it also stands lower down. -/

/-- Leaving an identity undoes entering it, once the work in between kept its frame. -/
theorem SameFrame.leave {k : String} (h : (s.enter k).SameFrame s₁) : s.SameFrame (s₁.leave k) :=
  ⟨by rw [leave_stack, h.1, enter_stack, List.erase_cons_head],
    by rw [leave_scopes, h.2, enter_scopes]⟩

/-- Dropping the innermost bindings and leaving the identity undoes entering it and binding
them, once the work in between kept its frame. -/
theorem SameFrame.dropScope_leave {k : String} {sc : List (String × TypeExpr)}
    (h : ((s.enter k).withScope sc).SameFrame s₁) : s.SameFrame (s₁.dropScope.leave k) :=
  ⟨by rw [leave_stack, dropScope_stack, h.1, withScope_stack, enter_stack,
      List.erase_cons_head],
    by rw [leave_scopes, dropScope_scopes, h.2, withScope_scopes, enter_scopes,
      List.drop_one, List.tail_cons]⟩

end ResolverState

namespace Resolver

open ResolverState

variable {env : ResolverEnv}

/-! ### Every derivation keeps its frame -/

mutual

theorem Resolves.sameFrame {t : TypeExpr} {s : ResolverState} {r : Option Descriptor}
    {s' : ResolverState} : Resolves env t s r s' → s.SameFrame s'
  | .void _ | .null _ | .primitive _ | .bareWrapper _ _ | .generic _ _ | .emptyObject _
  | .unknown _ => SameFrame.refl s
  | .array _ h => Resolves.sameFrame h
  | .enumeration _ => (SameFrame.refl s).recordAs _ _
  | .namedUnion _ h => NamedUnion.sameFrame h
  | .union _ h => Narrows.sameFrame h
  | .wrapper _ _ h => Resolves.sameFrame h
  | .namedObject _ h => NamedObject.sameFrame h
  | .inlineObject _ h => Fields.sameFrame h

theorem Fields.sameFrame {ps : List PropertyDecl} {s : ResolverState} {fs : List Field}
    {s' : ResolverState} : Fields env ps s fs s' → s.SameFrame s'
  | .nil => SameFrame.refl s
  | .cons hd hfs => (Resolves.sameFrame hd).trans (Fields.sameFrame hfs)

theorem NamedObject.sameFrame {id : String} {b : List (String × TypeExpr)} {ps : List PropertyDecl}
    {s : ResolverState} {r : Option Descriptor} {s' : ResolverState} :
    NamedObject env id b ps s r s' → s.SameFrame s'
  | .memo _ => SameFrame.refl s
  | .cycle _ _ => (SameFrame.refl s).note _
  -- the properties are resolved with the class entered and its bindings innermost
  | .fresh _ _ hf => (Fields.sameFrame hf).dropScope_leave.record _ _

theorem NamedUnion.sameFrame {id : String} {ms : List TypeExpr} {s : ResolverState}
    {r : Option Descriptor} {s' : ResolverState} : NamedUnion env id ms s r s' → s.SameFrame s'
  | .memo _ => SameFrame.refl s
  | .cycle _ _ => (SameFrame.refl s).note _
  -- the members are narrowed with the enumeration entered
  | .fresh _ _ hn => (Narrows.sameFrame hn).leave.keep _ _

theorem Narrows.sameFrame {ms : List TypeExpr} {o : Option String} {s : ResolverState}
    {r : Option Descriptor} {s' : ResolverState} : Narrows env ms o s r s' → s.SameFrame s'
  | .single _ hd => Resolves.sameFrame hd
  | .several _ hw => FirstWinning.sameFrame hw

theorem FirstWinning.sameFrame {o : Option String} {ms : List TypeExpr} {s : ResolverState}
    {r : Option Descriptor} {s' : ResolverState} : FirstWinning env o ms s r s' → s.SameFrame s'
  | .nil => SameFrame.refl s
  | .win hd _ => Resolves.sameFrame hd
  | .skip hd _ hr => (Resolves.sameFrame hd).trans (FirstWinning.sameFrame hr)

end

end Resolver

open Resolver ResolverState

/-- Every call of the resolver that returns, and of each helper it recurses through (a declared
class, an enumeration with payloads, a union, the properties of an object), returns with the
stack of types being described and the bindings in scope as they were on entry: only the arena
and the warnings may change. This holds at every depth bound, so for every resolution that
ends. -/
theorem resolution_restores_stack_and_scopes (env : ResolverEnv) (n : Nat) :
    (∀ t s r s', resolveWith env n t s = some (r, s') →
      s' = { s with arena := s'.arena, notices := s'.notices }) ∧
    (∀ id b ps s r s', namedObjectWith env n id b ps s = some (r, s') →
      s' = { s with arena := s'.arena, notices := s'.notices }) ∧
    (∀ id ms s r s', namedUnionWith env n id ms s = some (r, s') →
      s' = { s with arena := s'.arena, notices := s'.notices }) ∧
    (∀ ms o s r s', narrowWith env n ms o s = some (r, s') →
      s' = { s with arena := s'.arena, notices := s'.notices }) ∧
    (∀ ps s fs s', fieldsBy env (resolveWith env n) ps s = some (fs, s') →
      s' = { s with arena := s'.arena, notices := s'.notices }) := by
  obtain ⟨hr, ho, hu, hn⟩ := @resolves_of_eq_some_all env n
  refine ⟨?resolve, ?object, ?union, ?narrow, ?fields⟩
  case resolve => exact fun t s r s' h => sameFrame_iff.mp (hr t s (r, s') h).sameFrame
  case object => exact fun id b ps s r s' h => sameFrame_iff.mp (ho id b ps s (r, s') h).sameFrame
  case union => exact fun id ms s r s' h => sameFrame_iff.mp (hu id ms s (r, s') h).sameFrame
  case narrow => exact fun ms o s r s' h => sameFrame_iff.mp (hn ms o s (r, s') h).sameFrame
  case fields =>
    exact fun ps s fs s' h => sameFrame_iff.mp (fields_of_fieldsBy hr ps s (fs, s') h).sameFrame

/-- The resolver in the middle of describing some class `Outer`, with `T` bound to `bool`. -/
def midOuter : ResolverState :=
  { ResolverState.initial with stack := ["Outer"], scopes := [[("T", .simple "bool")]] }

/-- Resolving `Pair<T, string>` there enters `Pair<bool, string>` and binds its parameters, and
hands back `Outer` alone on the stack and `T` bound as before. -/
theorem pairOfBool_restores_outer :
    ∃ r s', resolve pairEnv (.named "Pair" [.simple "T", .simple "string"]) midOuter = some (r, s') ∧
      s' = { midOuter with arena := s'.arena, notices := s'.notices } := by
  have h : (resolve pairEnv (.named "Pair" [.simple "T", .simple "string"]) midOuter).isSome := by
    decide +kernel
  obtain ⟨⟨r, s'⟩, hrs⟩ := Option.isSome_iff_exists.mp h
  exact ⟨r, s', hrs, (resolution_restores_stack_and_scopes pairEnv _).1 _ _ r s' hrs⟩

end ApiSpec
