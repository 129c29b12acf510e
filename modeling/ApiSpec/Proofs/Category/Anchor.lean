import ApiSpec.Category

/-!
# Cutting a location through an anchor

`stripThrough loc anchor` gives what follows the first occurrence of `anchor` that starts a
segment of `loc`: one at the start of `loc`, or right after a `/`. It searches the occurrences
from the left. After one that starts no segment it searches again one byte further on; when the
anchor starts with a character of several bytes, that byte is inside the character and the search
faults, however the rest of the location reads.

* `Text.findListFrom_eq_some`, `Text.findListFrom_eq_none`: the search finds the leftmost
  occurrence at or after the place it starts from.
* `stripThroughFrom_spec`: from any place, with steps enough and no fault ahead, the search ends
  with the text after the leftmost occurrence there that starts a segment, and with nothing when
  none does.
* `stripThrough_first_cut`: the search faults exactly when the anchor starts with a character of
  several bytes and its first occurrence starts no segment (`StepsIntoChar`). Otherwise it gives
  the text after the shortest prefix that is empty or ends with `/` and is followed by the anchor,
  and nothing when there is none. Inferring a category ends without a fault whenever the cut
  through the source root does, since the other anchors start with a one-byte character.
* `strip_steps_into_character`: with the root `é`, the location `xé/é/a.rs` faults, and so does
  the category of a controller declared there.
-/

namespace ApiSpec

/-! ### The search for an occurrence -/

namespace Text

theorem findListFrom_eq_some {pat : List Char} :
    ∀ {l : List Char} {i j : Nat}, findListFrom pat l i = some j →
      ∃ k, j = i + k ∧ k ≤ l.length ∧ pat <+: l.drop k ∧ ∀ k' < k, ¬ pat <+: l.drop k'
  | [], i, j, h => by
    simp only [findListFrom] at h
    split at h
    next hp =>
      cases h
      exact ⟨0, rfl, Nat.le_refl _, by simp [List.isEmpty_iff.mp hp], nofun⟩
    next => cases h
  | c :: rest, i, j, h => by
    simp only [findListFrom] at h
    split at h
    next hp =>
      cases h
      exact ⟨0, rfl, Nat.zero_le _, List.isPrefixOf_iff_prefix.mp hp, nofun⟩
    next hp =>
      -- the pattern does not start here: the occurrence is one further on in the rest
      obtain ⟨k, rfl, hk, hpre, hmin⟩ := findListFrom_eq_some h
      refine ⟨k + 1, by omega, by simp [hk], by simpa using hpre, fun k' hk' => ?_⟩
      cases k' with
      | zero => simpa [List.isPrefixOf_iff_prefix] using hp
      | succ k' => simpa using hmin k' (by omega)

theorem findListFrom_eq_none {pat : List Char} :
    ∀ {l : List Char} {i : Nat}, findListFrom pat l i = none → ∀ k ≤ l.length, ¬ pat <+: l.drop k
  | [], i, h, k, hk, hpre => by
    simp only [findListFrom] at h
    split at h
    next => cases h
    next hp =>
      obtain rfl : k = 0 := by simpa using hk
      exact hp (List.isEmpty_iff.mpr (List.prefix_nil.mp hpre))
  | c :: rest, i, h, k, hk, hpre => by
    simp only [findListFrom] at h
    split at h
    next => cases h
    next hp =>
      cases k with
      | zero => exact hp (List.isPrefixOf_iff_prefix.mpr hpre)
      | succ k => exact findListFrom_eq_none h k (by simpa using hk) (by simpa using hpre)

end Text

/-! ### Occurrences and segments -/

/-- `loc` is `pre ++ anchor ++ rest`, and `pre` is empty or ends with `/`: the anchor starts a
segment of `loc`. -/
def IsCut (loc anchor pre rest : List Char) : Prop :=
  loc = pre ++ anchor ++ rest ∧ (pre = [] ∨ pre.getLast? = some '/')

/-- `rest` follows the anchor at its first occurrence that starts a segment. -/
def FirstCut (loc anchor rest : List Char) : Prop :=
  ∃ pre, IsCut loc anchor pre rest ∧ ∀ pre' rest', IsCut loc anchor pre' rest' → pre.length ≤ pre'.length

/-- The anchor starts with a character of several bytes, and its first occurrence in `loc` starts
no segment: one byte past the start of that occurrence is inside the character. -/
def StepsIntoChar (loc anchor : List Char) : Prop :=
  (∃ c ∈ anchor.head?, 1 < c.utf8Size) ∧
    ∃ pre rest, loc = pre ++ anchor ++ rest ∧ ¬ (pre = [] ∨ pre.getLast? = some '/') ∧
      ∀ pre' rest', loc = pre' ++ anchor ++ rest' → pre.length ≤ pre'.length

/-- The anchor occurs in `loc` at position `p`. -/
def OccursAt (loc anchor : List Char) (p : Nat) : Prop := p ≤ loc.length ∧ anchor <+: loc.drop p

/-- Position `p` starts a segment of `loc`. -/
def StartsSegment (loc : List Char) (p : Nat) : Prop := p = 0 ∨ loc[p - 1]? = some '/'

instance (loc anchor : List Char) (p : Nat) : Decidable (OccursAt loc anchor p) :=
  inferInstanceAs (Decidable (p ≤ loc.length ∧ anchor <+: loc.drop p))

instance (loc : List Char) (p : Nat) : Decidable (StartsSegment loc p) :=
  inferInstanceAs (Decidable (p = 0 ∨ loc[p - 1]? = some '/'))

/-- From position `i` on, the search meets an occurrence that starts no segment before any
other, and the anchor starts with a character of several bytes. -/
def FaultsFrom (loc anchor : List Char) (i : Nat) : Prop :=
  (∃ c ∈ anchor.head?, 1 < c.utf8Size) ∧
    ∃ p, i ≤ p ∧ OccursAt loc anchor p ∧ ¬ StartsSegment loc p ∧
      ∀ q, i ≤ q → q < p → ¬ OccursAt loc anchor q

section Positions

variable {loc anchor : List Char}

theorem occursAt_iff {p : Nat} :
    OccursAt loc anchor p ↔ ∃ pre rest, loc = pre ++ anchor ++ rest ∧ pre.length = p := by
  constructor
  · rintro ⟨hp, rest, hrest⟩
    refine ⟨loc.take p, rest, ?_, by simp [hp]⟩
    rw [List.append_assoc, hrest, List.take_append_drop]
  · rintro ⟨pre, rest, rfl, rfl⟩
    refine ⟨by simp, rest, ?_⟩
    rw [List.append_assoc, List.drop_left' rfl]

/-- The prefix before `p` is empty or ends with `/` exactly when `p` starts a segment. -/
theorem startsSegment_iff {p : Nat} (hp : p ≤ loc.length) :
    StartsSegment loc p ↔ (loc.take p = [] ∨ (loc.take p).getLast? = some '/') := by
  unfold StartsSegment
  rw [List.take_eq_nil_iff, List.getLast?_take]
  by_cases h0 : p = 0
  · simp [h0]
  · have hlt : p - 1 < loc.length := by omega
    simp [h0, List.getElem?_eq_getElem hlt, List.ne_nil_of_length_pos (by omega : 0 < loc.length)]

/-- A cut is read off its position: the prefix is what comes before it, and the rest what
follows the anchor. -/
theorem IsCut.eq_take_drop {pre rest : List Char} (h : IsCut loc anchor pre rest) :
    pre.length ≤ loc.length ∧ pre = loc.take pre.length ∧
      rest = loc.drop (pre.length + anchor.length) := by
  obtain ⟨rfl, -⟩ := h
  refine ⟨by simp, ?_, ?_⟩
  · rw [List.append_assoc, List.take_left' rfl]
  · rw [List.append_assoc, ← List.drop_drop, List.drop_left' rfl, List.drop_left' rfl]

/-- A cut, read as a position: the anchor occurs there, and the position starts a segment. -/
theorem IsCut.position {pre rest : List Char} (h : IsCut loc anchor pre rest) :
    OccursAt loc anchor pre.length ∧ StartsSegment loc pre.length ∧
      rest = loc.drop (pre.length + anchor.length) := by
  obtain ⟨hle, hpre, hrest⟩ := h.eq_take_drop
  refine ⟨occursAt_iff.mpr ⟨pre, rest, h.1, rfl⟩, ?_, hrest⟩
  rw [startsSegment_iff hle, ← hpre]
  exact h.2

/-- An occurrence at a position that starts a segment is a cut. -/
theorem isCut_of_position {p : Nat} (ho : OccursAt loc anchor p) (hs : StartsSegment loc p) :
    IsCut loc anchor (loc.take p) (loc.drop (p + anchor.length)) := by
  obtain ⟨hp, rest, hrest⟩ := ho
  have hdrop : loc.drop (p + anchor.length) = rest := by
    rw [← List.drop_drop, ← hrest, List.drop_left' rfl]
  refine ⟨?_, (startsSegment_iff hp).mp hs⟩
  rw [hdrop, List.append_assoc, hrest, List.take_append_drop]

/-- The cuts, read as positions: the first cut is at the least position that starts a segment. -/
theorem firstCut_iff {rest : List Char} :
    FirstCut loc anchor rest ↔ ∃ p, OccursAt loc anchor p ∧ StartsSegment loc p ∧
      rest = loc.drop (p + anchor.length) ∧
      ∀ q, OccursAt loc anchor q → StartsSegment loc q → p ≤ q := by
  constructor
  · rintro ⟨pre, hcut, hmin⟩
    obtain ⟨ho, hs, hrest⟩ := hcut.position
    refine ⟨pre.length, ho, hs, hrest, fun q hq hsq => ?_⟩
    simpa [hq.1] using hmin _ _ (isCut_of_position hq hsq)
  · rintro ⟨p, ho, hs, rfl, hmin⟩
    refine ⟨loc.take p, isCut_of_position ho hs, fun pre' rest' hcut' => ?_⟩
    obtain ⟨ho', hs', -⟩ := hcut'.position
    simpa [ho.1] using hmin _ ho' hs'

theorem not_isCut_iff :
    (∀ pre rest, ¬ IsCut loc anchor pre rest) ↔ ∀ p, OccursAt loc anchor p → ¬ StartsSegment loc p := by
  constructor
  · intro h p ho hs
    exact h _ _ (isCut_of_position ho hs)
  · intro h pre rest hcut
    obtain ⟨ho, hs, -⟩ := hcut.position
    exact h _ ho hs

theorem stepsIntoChar_iff : StepsIntoChar loc anchor ↔ FaultsFrom loc anchor 0 := by
  unfold StepsIntoChar FaultsFrom
  refine and_congr Iff.rfl ⟨?_, ?_⟩
  · rintro ⟨pre, rest, hloc, hseg, hmin⟩
    have ho : OccursAt loc anchor pre.length := occursAt_iff.mpr ⟨pre, rest, hloc, rfl⟩
    have hpre : loc.take pre.length = pre := by rw [hloc, List.append_assoc, List.take_left' rfl]
    refine ⟨pre.length, Nat.zero_le _, ho, fun hs => hseg ?_, fun q _ hq ho' => ?_⟩
    · rw [startsSegment_iff ho.1, hpre] at hs
      exact hs
    · obtain ⟨pre', rest', hloc', rfl⟩ := occursAt_iff.mp ho'
      exact absurd (hmin pre' rest' hloc') (Nat.not_le_of_lt hq)
  · rintro ⟨p, -, ho, hs, hmin⟩
    obtain ⟨pre, rest, hloc, rfl⟩ := occursAt_iff.mp ho
    have hpre : loc.take pre.length = pre := by rw [hloc, List.append_assoc, List.take_left' rfl]
    refine ⟨pre, rest, hloc, fun hseg => hs ?_, fun pre' rest' hloc' => Nat.le_of_not_lt fun hlt => ?_⟩
    · rw [startsSegment_iff ho.1, hpre]
      exact hseg
    · exact hmin pre'.length (Nat.zero_le _) hlt (occursAt_iff.mpr ⟨pre', rest', hloc', rfl⟩)

/-- An anchor that starts with a one-byte character never steps into one. -/
theorem not_stepsIntoChar_of_head {c : Char} (hc : anchor.head? = some c) (h : c.utf8Size = 1) :
    ¬ StepsIntoChar loc anchor := by
  rintro ⟨⟨c', hc', hsize⟩, -⟩
  rw [Option.mem_def, hc, Option.some.injEq] at hc'
  rw [← hc', h] at hsize
  exact Nat.lt_irrefl 1 hsize

end Positions

/-! ### The search, step by step -/

/-- What the search from position `i` may end with: the text after the leftmost occurrence from
`i` on that starts a segment, or nothing when no occurrence from `i` on starts one. -/
structure CutFrom (loc anchor : List Char) (i : Nat) (r : Option (List Char)) : Prop where
  none_of : r = none → ∀ p, i ≤ p → OccursAt loc anchor p → ¬ StartsSegment loc p
  some_of : ∀ rest, r = some rest → ∃ p, i ≤ p ∧ OccursAt loc anchor p ∧ StartsSegment loc p ∧
    rest = loc.drop (p + anchor.length) ∧
    ∀ q, i ≤ q → q < p → OccursAt loc anchor q → ¬ StartsSegment loc q

section Search

variable {loc anchor : List Char}

/-- An occurrence that starts no segment, and that the search steps over, leaves the same cut to
find from the next position. -/
theorem CutFrom.of_skip {i start : Nat} {r : Option (List Char)} (h : CutFrom loc anchor (start + 1) r)
    (hi : i ≤ start) (hstart : ¬ StartsSegment loc start)
    (hbefore : ∀ q, i ≤ q → q < start → ¬ OccursAt loc anchor q) :
    CutFrom loc anchor i r := by
  constructor
  · intro hr p hp ho
    rcases Nat.lt_trichotomy p start with hlt | rfl | hgt
    · exact absurd ho (hbefore p hp hlt)
    · exact hstart
    · exact h.none_of hr p hgt ho
  · intro rest hr
    obtain ⟨p, hp, ho, hs, hrest, hmin⟩ := h.some_of rest hr
    refine ⟨p, Nat.le_trans hi (Nat.le_of_succ_le hp), ho, hs, hrest, fun q hq hqp hoq => ?_⟩
    rcases Nat.lt_trichotomy q start with hlt | rfl | hgt
    · exact absurd hoq (hbefore q hq hlt)
    · exact hstart
    · exact hmin q hgt hqp hoq

/-- What the first lookup from `i` finds: an occurrence `i + k`, with none between. -/
theorem first_occurrence {i k : Nat} (hfind : Text.findListFrom anchor (loc.drop i) i = some (i + k))
    (hempty : anchor = [] → i = 0) :
    OccursAt loc anchor (i + k) ∧ ∀ q, i ≤ q → q < i + k → ¬ OccursAt loc anchor q := by
  obtain ⟨k', hk', hk, hpre, hmin⟩ := Text.findListFrom_eq_some hfind
  obtain rfl : k' = k := by omega
  rw [List.drop_drop, List.length_drop] at *
  refine ⟨⟨?_, hpre⟩, fun q hq hqk ho => ?_⟩
  · by_cases ha : anchor = []
    · have := hempty ha
      omega
    · have hlen := hpre.length_le
      have hpos : 0 < anchor.length := List.length_pos_iff.mpr ha
      rw [List.length_drop] at hlen
      omega
  · have := hmin (q - i) (by omega)
    rw [List.drop_drop, Nat.add_sub_cancel' hq] at this
    exact this ho.2

/-- With steps enough, and no fault ahead, the search from `i` ends with the cut from `i`. The
induction is on the steps: each one either ends the search or moves past an occurrence. -/
theorem stripThroughFrom_spec : ∀ (fuel i : Nat), loc.length + 1 ≤ fuel + i → (anchor = [] → i = 0) →
    ¬ FaultsFrom loc anchor i →
      ∃ r, stripThroughFrom anchor fuel loc i = .ok r ∧ CutFrom loc anchor i r
  | 0, i, hfuel, _, _ => by
    refine ⟨none, rfl, ⟨fun _ p hp ho => ?_, fun _ h => nomatch h⟩⟩
    have := ho.1
    omega
  | fuel + 1, i, hfuel, hempty, hfault => by
    rw [stripThroughFrom]
    cases hfind : Text.findListFrom anchor (loc.drop i) i with
    | none =>
      -- no occurrence from `i` on
      refine ⟨none, rfl, CutFrom.mk (fun _ p hp ho => ?_) (fun _ h => nomatch h)⟩
      have := Text.findListFrom_eq_none hfind (p - i) (by rw [List.length_drop]; have := ho.1; omega)
      rw [List.drop_drop, Nat.add_sub_cancel' hp] at this
      exact absurd ho.2 this
    | some start =>
      obtain ⟨k, rfl, -⟩ := Text.findListFrom_eq_some hfind
      obtain ⟨hocc, hbefore⟩ := first_occurrence hfind hempty
      dsimp only
      split
      next hseg =>
        -- the first occurrence starts a segment: the search ends here
        refine ⟨some (loc.drop (i + k + anchor.length)), rfl, ⟨nofun, fun rest hr => ?_⟩⟩
        cases hr
        exact ⟨i + k, Nat.le_add_right _ _, hocc, hseg, rfl, fun q hq hqk ho => absurd ho (hbefore q hq hqk)⟩
      next hseg =>
        cases hhead : anchor.head? with
        | none =>
          -- the empty anchor occurs at the start, which starts a segment
          obtain rfl : anchor = [] := List.head?_eq_none_iff.mp hhead
          have hi := hempty rfl
          have hk : k = 0 := Nat.eq_zero_of_not_pos fun hpos =>
            hbefore i (Nat.le_refl _) (by omega) ⟨by omega, List.nil_prefix⟩
          exact absurd (Or.inl (by omega)) hseg
        | some c =>
          dsimp only
          split
          next hsize =>
            exact absurd ⟨⟨c, hhead, hsize⟩, i + k, Nat.le_add_right _ _, hocc, hseg, hbefore⟩ hfault
          next hsize =>
            -- a one-byte first character: the search goes on past this occurrence
            have hne : anchor ≠ [] := fun h => by simp [h] at hhead
            have hnf : ¬ FaultsFrom loc anchor (i + k + 1) := by
              rintro ⟨⟨c', hc', hsize'⟩, -⟩
              rw [hhead, Option.mem_def, Option.some.injEq] at hc'
              exact hsize (hc' ▸ hsize')
            obtain ⟨r, hr, hcut⟩ := stripThroughFrom_spec fuel (i + k + 1) (by omega)
              (fun h => absurd h hne) hnf
            exact ⟨r, hr, hcut.of_skip (Nat.le_add_right _ _) hseg hbefore⟩

/-- A search that meets an occurrence starting no segment before any other, with a first
character of several bytes, faults. -/
theorem stripThroughFrom_fault {fuel : Nat} (hf : FaultsFrom loc anchor 0) :
    ∃ e, stripThroughFrom anchor (fuel + 1) loc 0 = .error e := by
  obtain ⟨⟨c, hc, hsize⟩, p, -, ho, hs, hmin⟩ := hf
  have hne : anchor ≠ [] := fun h => by simp [h] at hc
  rw [stripThroughFrom]
  cases hfind : Text.findListFrom anchor (loc.drop 0) 0 with
  | none =>
    have := Text.findListFrom_eq_none hfind p (by simpa using ho.1)
    rw [List.drop_drop, Nat.zero_add] at this
    exact absurd ho.2 this
  | some start =>
    obtain ⟨k, rfl, -⟩ := Text.findListFrom_eq_some hfind
    obtain ⟨hocc, hbefore⟩ := first_occurrence hfind (fun h => absurd h hne)
    -- the search stops at the first occurrence, which is the faulting one
    have hkp : 0 + k = p := by
      rcases Nat.lt_trichotomy (0 + k) p with hlt | heq | hgt
      · exact absurd hocc (hmin _ (Nat.zero_le _) hlt)
      · exact heq
      · exact absurd ho (hbefore p (Nat.zero_le _) hgt)
    rw [hkp]
    dsimp only
    rw [if_neg (show ¬ (p = 0 ∨ loc[p - 1]? = some '/') from hs)]
    rw [Option.mem_def] at hc
    simp only [hc]
    rw [if_pos hsize]
    exact ⟨{}, rfl⟩

end Search

/-! ### Cutting through an anchor, and the category of a location -/

/-- The search through `anchor` ends, without a fault, with the text after its first occurrence
that starts a segment, and with nothing when no occurrence starts one. -/
def CutsFirst (loc anchor : String) : Prop :=
  ∃ r, stripThrough loc anchor = .ok r ∧
    (∀ rest, r = some rest ↔ FirstCut loc.toList anchor.toList rest.toList) ∧
    (r = none ↔ ∀ pre rest, ¬ IsCut loc.toList anchor.toList pre rest)

theorem cutsFirst_of_not_stepsIntoChar {loc anchor : String}
    (h : ¬ StepsIntoChar loc.toList anchor.toList) : CutsFirst loc anchor := by
  obtain ⟨r, hr, hcut⟩ := @stripThroughFrom_spec loc.toList anchor.toList
    (loc.length + 1) 0 (by simp only [String.length_toList]; omega) (fun _ => rfl)
    (fun hf => h (stepsIntoChar_iff.mpr hf))
  refine ⟨r.map String.ofList, by simp [stripThrough, hr, Except.map], fun rest => ?_, ?_⟩
  · rw [firstCut_iff]
    constructor
    · intro hsome
      obtain ⟨l, hl, rfl⟩ := Option.map_eq_some_iff.mp hsome
      obtain ⟨p, -, ho, hs, hrest, hmin⟩ := hcut.some_of l hl
      refine ⟨p, ho, hs, by simpa using hrest, fun q hq hsq => Nat.le_of_not_lt fun hlt => ?_⟩
      exact hmin q (Nat.zero_le _) hlt hq hsq
    · rintro ⟨p, ho, hs, hrest, hmin⟩
      cases hr' : r with
      | none => exact absurd hs (hcut.none_of hr' p (Nat.zero_le _) ho)
      | some l =>
        obtain ⟨p', -, ho', hs', hrest', hmin'⟩ := hcut.some_of l hr'
        -- both are the least position that starts a segment
        have hpp : p' = p := by
          rcases Nat.lt_trichotomy p' p with hlt | heq | hgt
          · exact absurd (hmin p' ho' hs') (Nat.not_le_of_lt hlt)
          · exact heq
          · exact absurd hs (hmin' p (Nat.zero_le _) hgt ho)
        subst hpp
        rw [Option.map_some, hrest', ← hrest, String.ofList_toList]
  · rw [not_isCut_iff, Option.map_eq_none_iff]
    constructor
    · intro hn p ho
      exact hcut.none_of hn p (Nat.zero_le _) ho
    · intro hall
      cases hr' : r with
      | none => rfl
      | some l =>
        obtain ⟨p, -, ho, hs, -⟩ := hcut.some_of l hr'
        exact absurd hs (hall p ho)

theorem stripThrough_fault {loc anchor : String} (h : StepsIntoChar loc.toList anchor.toList) :
    ∃ e, stripThrough loc anchor = .error e := by
  obtain ⟨e, he⟩ := @stripThroughFrom_fault loc.toList anchor.toList loc.length (stepsIntoChar_iff.mp h)
  exact ⟨e, by simp [stripThrough, he, Except.map]⟩

/-- The generic source anchors all start with a one-byte character, so cutting through them never
faults. -/
theorem throughAnchors_ok (loc : String) :
    ∃ r, PathHeuristic.throughAnchors loc sourceAnchors = .ok r := by
  have hok : ∀ a ∈ sourceAnchors, ∃ r, stripThrough loc a = .ok r := fun a ha => by
    have hhead : ¬ StepsIntoChar loc.toList a.toList := by
      simp only [sourceAnchors, List.mem_cons, List.not_mem_nil, or_false] at ha
      rcases ha with rfl | rfl | rfl <;> exact not_stepsIntoChar_of_head rfl (by decide)
    obtain ⟨r, hr, -⟩ := cutsFirst_of_not_stepsIntoChar hhead
    exact ⟨r, hr⟩
  suffices ∀ l : List String, (∀ a ∈ l, ∃ r, stripThrough loc a = .ok r) →
      ∃ r, PathHeuristic.throughAnchors loc l = .ok r from this _ hok
  intro l hl
  induction l with
  | nil => exact ⟨none, rfl⟩
  | cons a l ih =>
    obtain ⟨r, hr⟩ := hl a List.mem_cons_self
    rw [PathHeuristic.throughAnchors, hr]
    cases r with
    | some r => exact ⟨some r, rfl⟩
    | none => exact ih fun b hb => hl b (List.mem_cons_of_mem _ hb)

/-- Cutting through an anchor faults exactly when the anchor starts with a character of several
bytes and its first occurrence starts no segment; otherwise it gives the text after the first
occurrence that starts a segment (the shortest prefix that is empty or ends with `/`), and
nothing when there is none. The category of a controller is then inferred without a fault
whenever the cut through the configured source root does not fault. -/
theorem stripThrough_first_cut (loc anchor : String) (h : PathHeuristic) (path : String) :
    ((∃ e, stripThrough loc anchor = .error e) ↔ StepsIntoChar loc.toList anchor.toList) ∧
    (¬ StepsIntoChar loc.toList anchor.toList → CutsFirst loc anchor) ∧
    ((∀ root ∈ h.sourceRoot, ¬ StepsIntoChar (slashed path).toList (root ++ "/").toList) →
      ∃ category, h.infer path = .ok category) := by
  refine ⟨⟨fun ⟨e, he⟩ => ?_, stripThrough_fault⟩, cutsFirst_of_not_stepsIntoChar, fun hroot => ?_⟩
  · refine Classical.byContradiction fun hs => ?_
    obtain ⟨r, hr, -⟩ := cutsFirst_of_not_stepsIntoChar hs
    rw [hr] at he
    cases he
  · -- the root is cut without a fault, then the anchors never fault
    unfold PathHeuristic.infer
    cases hsr : h.sourceRoot with
    | none =>
      simp only [bind, Except.bind, pure, Except.pure]
      split
      · exact ⟨_, rfl⟩
      · obtain ⟨a, ha⟩ := throughAnchors_ok (slashed path)
        rw [ha]
        exact ⟨_, rfl⟩
    | some root =>
      obtain ⟨r, hr, -⟩ := cutsFirst_of_not_stepsIntoChar (hroot root hsr)
      simp only [hr, Except.map, bind, Except.bind, pure, Except.pure]
      split
      · exact ⟨_, rfl⟩
      · obtain ⟨a, ha⟩ := throughAnchors_ok (r.getD (slashed path))
        rw [ha]
        exact ⟨_, rfl⟩

/-- The anchor `src/` and the root `api` start with a one-byte character: the cut ends without a
fault, and so does the category of a controller under that root. -/
theorem apiRoot_category_ends :
    ¬ StepsIntoChar "api/src/users/users.rs".toList "src/".toList ∧
      CutsFirst "api/src/users/users.rs" "src/" ∧
      (∀ root ∈ some "api", ¬ StepsIntoChar (slashed "api/src/users/users.rs").toList (root ++ "/").toList) ∧
      ∃ category, (⟨some "api", defaultArtifactDirs⟩ : PathHeuristic).infer "api/src/users/users.rs" =
        .ok category :=
  have hsrc := not_stepsIntoChar_of_head rfl (by decide)
  have hroot : ∀ root ∈ some "api",
      ¬ StepsIntoChar (slashed "api/src/users/users.rs").toList (root ++ "/").toList := by
    intro root hmem
    rw [Option.mem_def, Option.some.injEq] at hmem
    subst hmem
    exact not_stepsIntoChar_of_head rfl (by decide)
  have h := stripThrough_first_cut "api/src/users/users.rs" "src/" ⟨some "api", defaultArtifactDirs⟩
    "api/src/users/users.rs"
  ⟨hsrc, h.2.1 hsrc, hroot, h.2.2 hroot⟩

/-- With the root `é`, the location `xé/é/a.rs` holds `é/` first after `x`, which starts no
segment; the search steps one byte past it, into the middle of `é`, and faults, where the cut
after `xé/` was to be found. The category of a controller declared there faults the same way. -/
theorem strip_steps_into_character :
    FirstCut "xé/é/a.rs".toList "é/".toList "a.rs".toList ∧
      (stripThrough "xé/é/a.rs" "é/").isOk = false ∧
      ((PathHeuristic.make (some "é") defaultArtifactDirs).infer "xé/é/a.rs").isOk = false := by
  refine ⟨firstCut_iff.mpr ⟨3, ⟨by decide, by decide⟩, .inr (by decide), by decide, ?_⟩,
    by decide +kernel, by decide +kernel⟩
  intro q hq hs
  refine Nat.le_of_not_lt fun hlt => ?_
  have hnone : ∀ q < 3, OccursAt "xé/é/a.rs".toList "é/".toList q →
      ¬ StartsSegment "xé/é/a.rs".toList q := by decide
  exact hnone q (by omega) hq hs

end ApiSpec
