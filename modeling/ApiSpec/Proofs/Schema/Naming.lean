import ApiSpec.Proofs.Schema.Termination
import Mathlib.Data.List.Nodup

/-!
# Component names

Every named type becomes a component, and `componentFor` names it: an identity keeps the
component it was first given, and a new identity takes the first of `base`, `base_2`,
`base_3`, … that no identity has, where `base` is the identity's `componentName`.

* `freeName_spec`: the suffix search ends within one more try than there are names, at the
  first candidate not taken; the candidates are pairwise distinct (`candidate_injective`).
* `componentName_keyChars`, `componentName_ne_empty`: a component name is over the key
  characters `[A-Za-z0-9._-]`, and it is empty only when the identity keeps none of its own
  characters. An identity made of non-ASCII letters, such as `Ö`, is named `""`.
* `SchemaState.NamesOk`: the components given are pairwise distinct, each a candidate of its
  identity's base; every step of the generator keeps it (`namesOk_stepwise`).
* `SchemaState.reachable_naming`: along any sequence of `generate` calls and warnings from a
  new generator, the naming is stable, injective and over the key characters, and a component
  is non-empty when its identity has a character of its own.
-/

namespace ApiSpec

open SchemaGen

/-! ### Key characters -/

/-- A character of a component key: an ASCII letter or digit, `.`, `-` or `_`. -/
def isKeyChar (c : Char) : Bool := isNameChar c || c == '_'

/-- Every character is a key character. -/
def KeyChars (l : List Char) : Prop := ∀ c ∈ l, isKeyChar c = true

theorem keyChars_nil : KeyChars [] := nofun

theorem KeyChars.cons {c : Char} {l : List Char} (hc : isKeyChar c = true) (h : KeyChars l) :
    KeyChars (c :: l) := by
  intro x hx
  rcases List.mem_cons.mp hx with rfl | hx
  · exact hc
  · exact h x hx

theorem isKeyChar_of_isNameChar {c : Char} (h : isNameChar c = true) : isKeyChar c = true := by
  simp [isKeyChar, h]

theorem isNameChar_of_isDigit {c : Char} (h : c.isDigit = true) : isNameChar c = true := by
  have hrange := Char.isDigit_iff_toNat.mp h
  have h9 : '9'.toNat = 57 := rfl
  have hlt : c.toNat < 128 := by omega
  simp [isNameChar, Char.isAlphanum, h, hlt]

/-! ### The name of an identity -/

namespace Text

/-- A character outside the pattern survives the replacement. -/
theorem mem_replaceList {pat rep : List Char} {c : Char} (hc : c ∉ pat) :
    (fuel : Nat) → (rest : List Char) → rest.length ≤ fuel → c ∈ rest →
      c ∈ replaceList pat rep fuel rest
  | 0, _ :: _, hl, _ => by simp at hl
  | fuel + 1, d :: more, hl, h => by
    simp only [replaceList]
    split
    next hm =>
      -- the pattern is a prefix of the text, so `c` lies after it
      obtain ⟨t, ht⟩ := List.isPrefixOf_iff_prefix.mp hm.2
      have hpos : 0 < pat.length := List.length_pos_iff.mpr hm.1
      have hlen : pat.length + t.length = more.length + 1 := by
        have := congrArg List.length ht
        simpa using this
      have hct : c ∈ t := by
        rw [← ht] at h
        rcases List.mem_append.mp h with h | h
        · exact absurd h hc
        · exact h
      rw [← ht, List.drop_left]
      exact List.mem_append_right _ (mem_replaceList hc fuel t (by simp at hl; omega) hct)
    next =>
      rcases List.mem_cons.mp h with rfl | h
      · exact List.mem_cons_self
      · exact List.mem_cons_of_mem _ (mem_replaceList hc fuel more (by simp at hl; omega) h)

end Text

theorem KeyChars.append {l l' : List Char} (h : KeyChars l) (h' : KeyChars l') :
    KeyChars (l ++ l') := by
  intro c hc
  rcases List.mem_append.mp hc with hc | hc
  · exact h c hc
  · exact h' c hc

/-- Sanitising only puts key characters in front of what it has built. -/
theorem componentChars_eq_append : (acc l : List Char) →
    ∃ p, componentChars acc l = p ++ acc ∧ KeyChars p
  | acc, [] => ⟨[], rfl, keyChars_nil⟩
  | acc, c :: rest => by
    simp only [componentChars]
    split
    next hc =>
      obtain ⟨p, hp, hk⟩ := componentChars_eq_append (c :: acc) rest
      refine ⟨p ++ [c], by rw [hp, List.append_assoc]; rfl, hk.append ?_⟩
      exact keyChars_nil.cons (isKeyChar_of_isNameChar hc)
    next =>
      split
      · exact componentChars_eq_append _ rest
      · exact componentChars_eq_append _ rest
      · obtain ⟨p, hp, hk⟩ := componentChars_eq_append ('_' :: acc) rest
        exact ⟨p ++ ['_'], by rw [hp, List.append_assoc]; rfl, hk.append (keyChars_nil.cons rfl)⟩

theorem keyChars_componentChars {acc : List Char} (l : List Char) (h : KeyChars acc) :
    KeyChars (componentChars acc l) := by
  obtain ⟨p, hp, hk⟩ := componentChars_eq_append acc l
  rw [hp]
  exact hk.append h

theorem mem_componentChars_of_mem_acc {acc : List Char} (l : List Char) {c : Char} (h : c ∈ acc) :
    c ∈ componentChars acc l := by
  obtain ⟨p, hp, -⟩ := componentChars_eq_append acc l
  rw [hp]
  exact List.mem_append_right p h

/-- Every name character of the text is kept. -/
theorem mem_componentChars : (acc l : List Char) → ∀ c ∈ l, isNameChar c = true →
    c ∈ componentChars acc l
  | acc, d :: rest, c, h, hn => by
    simp only [componentChars]
    rcases List.mem_cons.mp h with rfl | h
    · rw [if_pos hn]
      exact mem_componentChars_of_mem_acc rest List.mem_cons_self
    · split
      · exact mem_componentChars _ rest c h hn
      · split
        · exact mem_componentChars _ rest c h hn
        · exact mem_componentChars _ rest c h hn
        · exact mem_componentChars _ rest c h hn

theorem componentName_keyChars (identity : String) : KeyChars (componentName identity).toList := by
  rw [componentName, String.toList_ofList]
  intro c hc
  exact keyChars_componentChars _ keyChars_nil c (List.dropWhile_subset _ (List.mem_reverse.mp hc))

/-- An identity with a character of its own has a non-empty name: the character survives the
spelling of `[]` and the sanitising, and it is no underscore to be trimmed. -/
theorem componentName_ne_empty {identity : String} (h : ∃ c ∈ identity.toList, isNameChar c = true) :
    componentName identity ≠ "" := by
  obtain ⟨c, hc, hn⟩ := h
  have hpat : c ∉ "[]".toList := by
    intro hm
    have hb : c = '[' ∨ c = ']' := by simpa using hm
    rcases hb with rfl | rfl <;> simp [isNameChar] at hn
  have hr : c ∈ (Text.replace identity "[]" "_Array").toList := by
    rw [Text.replace, String.toList_ofList]
    exact Text.mem_replaceList hpat _ _ (by rw [String.length_toList]; omega) hc
  have hk := mem_componentChars [] _ c hr hn
  have hu : (c == '_') = false := by
    cases hb : c == '_'
    · rfl
    · rw [beq_iff_eq] at hb
      subst hb
      simp [isNameChar] at hn
  have hany : ((componentChars [] (Text.replace identity "[]" "_Array").toList).dropWhile
      (· == '_')).any (fun x => !(x == '_')) = true := by
    rw [List.any_dropWhile]
    cases hall : (componentChars [] (Text.replace identity "[]" "_Array").toList).all (· == '_')
    · rfl
    · have := List.all_eq_true.mp hall c hk
      rw [hu] at this
      cases this
  rw [componentName, ne_eq, String.ofList_eq_empty_iff, List.reverse_eq_nil_iff]
  intro hd
  rw [hd] at hany
  cases hany

/-! ### Candidates -/

theorem toDigits_ten_injective {a b : Nat} (h : Nat.toDigits 10 a = Nat.toDigits 10 b) : a = b := by
  rw [← Nat.ofDigitChars_ten_toDigits (n := a), h, Nat.ofDigitChars_ten_toDigits]

theorem toList_toString (n : Nat) : (toString n).toList = Nat.toDigits 10 n := by
  rw [Nat.toString_eq_repr, Nat.toList_repr]

/-- The candidates for one base are pairwise distinct: the base itself is shorter than every
suffixed one, and the suffixes are distinct numbers. -/
theorem candidate_injective {base : String} {j k : Nat} (h : candidate base j = candidate base k) :
    j = k := by
  have hl := congrArg String.toList h
  cases j with
  | zero =>
    cases k with
    | zero => rfl
    | succ k => simp [candidate, String.toList_append] at hl
  | succ j =>
    cases k with
    | zero => simp [candidate, String.toList_append] at hl
    | succ k =>
      simp only [candidate, String.toList_append, List.append_assoc, List.append_cancel_left_eq,
        toList_toString] at hl
      have := toDigits_ten_injective hl
      omega

theorem keyChars_candidate {base : String} (h : KeyChars base.toList) :
    (k : Nat) → KeyChars (candidate base k).toList
  | 0 => h
  | k + 1 => by
    rw [candidate, String.toList_append, String.toList_append, toList_toString]
    intro c hc
    rcases List.mem_append.mp hc with hc | hc
    · rcases List.mem_append.mp hc with hc | hc
      · exact h c hc
      · have : c = '_' := by simpa using hc
        rw [this]
        rfl
    · exact isKeyChar_of_isNameChar
        (isNameChar_of_isDigit (Nat.isDigit_of_mem_toDigits (by decide) (by decide) hc))

theorem candidate_ne_empty {base : String} {k : Nat} (h : base ≠ "" ∨ 0 < k) :
    candidate base k ≠ "" := by
  cases k with
  | zero => simpa [candidate] using h
  | succ k =>
    intro he
    have hl := congrArg String.toList he
    simp [candidate, String.toList_append] at hl

/-- The suffix search: `freeName` is the first candidate not taken, found within one more try
than there are names taken. -/
theorem freeName_spec (base : String) (taken : List String) :
    ∃ k ≤ taken.length, freeName base taken = candidate base k ∧ candidate base k ∉ taken ∧
      ∀ j < k, candidate base j ∈ taken := by
  unfold freeName
  rw [List.find?_map]
  cases hf : (List.range (taken.length + 1)).find? ((fun c => !taken.contains c) ∘ candidate base) with
  | some k =>
    rw [List.find?_range_eq_some] at hf
    obtain ⟨hk, hmem, hbefore⟩ := hf
    refine ⟨k, Nat.lt_succ_iff.mp (List.mem_range.mp hmem), rfl, by simpa using hk, fun j hj => ?_⟩
    simpa using hbefore j hj
  | none =>
    -- one more distinct candidate than there are names: they cannot all be taken
    rw [List.find?_range_eq_none] at hf
    have hsub : (List.range (taken.length + 1)).map (candidate base) ⊆ taken := by
      intro c hc
      obtain ⟨i, hi, rfl⟩ := List.mem_map.mp hc
      simpa using hf i (List.mem_range.mp hi)
    have hnd : ((List.range (taken.length + 1)).map (candidate base)).Nodup :=
      List.nodup_range.map fun _ _ h => candidate_injective h
    have := hnd.length_le_of_subset hsub
    simp at this

/-! ### The names given -/

namespace SchemaState

/-- The names given so far: pairwise distinct components, each a candidate of its identity's
base. -/
structure NamesOk (st : SchemaState) : Prop where
  distinct : (st.names.map (·.2)).Nodup
  candidates : ∀ e ∈ st.names, ∃ k, e.2 = candidate (componentName e.1) k

variable {st st' : SchemaState}

theorem namesOk_initial : SchemaState.initial.NamesOk := ⟨List.nodup_nil, nofun⟩

theorem NamesOk.of_names (h : st.NamesOk) (hn : st'.names = st.names) : st'.NamesOk :=
  ⟨hn ▸ h.distinct, hn ▸ h.candidates⟩

/-- A new identity takes a component no identity has. -/
theorem NamesOk.componentFor (h : st.NamesOk) (i : String) : ((componentFor i).run st).2.NamesOk := by
  rcases componentFor_cases i st with ⟨_, hst⟩ | ⟨_, hc, hnames⟩
  · rw [hst]
    exact h
  · obtain ⟨k, -, hk, hfree, -⟩ := freeName_spec (componentName i) (st.names.map (·.2))
    constructor
    · rw [hnames, List.map_append, List.nodup_append]
      refine ⟨h.distinct, List.nodup_singleton _, fun a ha b hb => ?_⟩
      rw [List.map_singleton, List.mem_singleton] at hb
      rintro rfl
      rw [hb, hc, hk] at ha
      exact hfree ha
    · intro e he
      rw [hnames] at he
      rcases List.mem_append.mp he with he | he
      · exact h.candidates e he
      · rw [List.mem_singleton] at he
        subst he
        exact ⟨k, hc.trans hk⟩

theorem namesOk_stepwise : Stepwise fun st st' => st.NamesOk → st'.NamesOk where
  refl _ h := h
  trans h h' hn := h' (h hn)
  name i _ h := h.componentFor i
  note _ _ h := h.of_names rfl
  build _ _ _ _ h hn := (h (hn.of_names rfl)).of_names rfl

theorem NamesOk.generate (h : st.NamesOk) (arena : Arena) (d : Descriptor) :
    ((generate arena d).run st).2.NamesOk :=
  (generates_run arena d st).stepwise namesOk_stepwise h

theorem componentOf?_mem {i c : String} (h : st.componentOf? i = some c) : (i, c) ∈ st.names := by
  rw [componentOf?, Option.map_eq_some_iff] at h
  obtain ⟨e, he, rfl⟩ := h
  have hk : e.1 = i := by simpa using List.find?_some he
  rw [← hk]
  exact List.mem_of_find?_eq_some he

/-- Distinct identities have distinct components. -/
theorem NamesOk.injective (h : st.NamesOk) {i j c : String} (hi : st.componentOf? i = some c)
    (hj : st.componentOf? j = some c) : i = j := by
  have he := List.inj_on_of_nodup_map h.distinct (componentOf?_mem hi) (componentOf?_mem hj) rfl
  exact (Prod.mk.inj he).1

/-- A component is over the key characters, and non-empty when its identity has a character of
its own or it carries a suffix. -/
theorem NamesOk.valid (h : st.NamesOk) {i c : String} (hi : st.componentOf? i = some c) :
    KeyChars c.toList ∧ ((∃ ch ∈ i.toList, isNameChar ch = true) → c ≠ "") := by
  obtain ⟨k, hk⟩ := h.candidates _ (componentOf?_mem hi)
  dsimp only at hk
  subst hk
  exact ⟨keyChars_candidate (componentName_keyChars i) k,
    fun hn => candidate_ne_empty (.inl (componentName_ne_empty hn))⟩

/-! ### Sequences of calls -/

/-- The states a new generator reaches by `generate` calls and warnings, as the document
builder drives it. -/
inductive Reachable : SchemaState → Prop
  | initial : Reachable .initial
  | generate {st : SchemaState} (arena : Arena) (d : Descriptor) :
      Reachable st → Reachable ((generate arena d).run st).2
  | note {st : SchemaState} (n : Notice) : Reachable st → Reachable (st.note n)

theorem Reachable.namesOk (h : st.Reachable) : st.NamesOk := by
  induction h with
  | initial => exact namesOk_initial
  | generate arena d _ ih => exact ih.generate arena d
  | note n _ ih => exact ih.of_names rfl

/-- What the naming of components gives at a state: a component once given stays with its
identity through every later call and is given back when asked for again, distinct identities
have distinct components, every component is a key over `[A-Za-z0-9._-]`, non-empty when its
identity has a character of its own, and a new identity takes the first candidate free. -/
structure Naming (st : SchemaState) : Prop where
  stable : ∀ arena d i c, st.componentOf? i = some c →
    ((generate arena d).run st).2.componentOf? i = some c
  recalled : ∀ i c, st.componentOf? i = some c → (componentFor i).run st = (c, st)
  injective : ∀ i j c, st.componentOf? i = some c → st.componentOf? j = some c → i = j
  keyChars : ∀ i c, st.componentOf? i = some c → KeyChars c.toList
  nonEmpty : ∀ i c, st.componentOf? i = some c → (∃ ch ∈ i.toList, isNameChar ch = true) →
    c ≠ ""
  firstFree : ∀ i, st.componentOf? i = none →
    ∃ k ≤ st.names.length, ((componentFor i).run st).1 = candidate (componentName i) k ∧
      candidate (componentName i) k ∉ st.names.map (·.2) ∧
      ∀ j < k, candidate (componentName i) j ∈ st.names.map (·.2)

/-- Along every sequence of `generate` calls on one generator, `componentFor` is a stable,
injective naming by keys over `[A-Za-z0-9._-]`, non-empty for identities with a character of
their own, and its suffix search ends at the first free candidate. -/
theorem reachable_naming (st : SchemaState) (h : st.Reachable) : st.Naming where
  stable arena d _ _ hc :=
    componentOf?_eq_some_of_prefix ((generates_run arena d st).stepwise grows_stepwise).names_extend hc
  recalled _ _ hc := componentFor_of_componentOf? hc
  injective _ _ _ hi hj := h.namesOk.injective hi hj
  keyChars _ _ hc := (h.namesOk.valid hc).1
  nonEmpty _ _ hc := (h.namesOk.valid hc).2
  firstFree i hn := by
    rcases componentFor_cases i st with ⟨hs, -⟩ | ⟨-, hc, -⟩
    · rw [hn] at hs
      cases hs
    · obtain ⟨k, hk, hfree, hfirst, hbefore⟩ := freeName_spec (componentName i) (st.names.map (·.2))
      rw [List.length_map] at hk
      exact ⟨k, hk, hc.trans hfree, hfirst, hbefore⟩

theorem pages_named :
    let st₁ := ((generate Arena.empty (.object (some "Page<User>") [])).run .initial).2
    let st₂ := ((generate Arena.empty (.object (some "Page<User[]>") [])).run st₁).2
    let st₃ := ((generate Arena.empty (.object (some "Page_User") [])).run st₂).2
    st₃.Reachable ∧ st₃.Naming := by
  intro st₁ st₂ st₃
  have h : st₃.Reachable := .generate _ _ (.generate _ _ (.generate _ _ .initial))
  exact ⟨h, reachable_naming st₃ h⟩

example :
    let st₁ := ((generate Arena.empty (.object (some "Page<User>") [])).run .initial).2
    let st₂ := ((generate Arena.empty (.object (some "Page<User[]>") [])).run st₁).2
    let st₃ := ((generate Arena.empty (.object (some "Page_User") [])).run st₂).2
    st₃.names = [("Page<User>", "Page_User"), ("Page<User[]>", "Page_User_Array"),
      ("Page_User", "Page_User_2")] := by
  decide +kernel

/-- A class named with non-ASCII letters only keeps no character of its own: its component is
the empty name, which is no key. -/
theorem nonAscii_identity_named_empty :
    let st := ((generate Arena.empty (.object (some "Ö") [])).run .initial).2
    st.Reachable ∧ st.componentOf? "Ö" = some "" := by
  intro st
  exact ⟨.generate _ _ .initial, by decide +kernel⟩

end SchemaState

end ApiSpec
