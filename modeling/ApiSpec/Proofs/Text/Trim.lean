import ApiSpec.Text.Basic
import Mathlib.Data.List.DropRight

/-!
# What trimming and splitting leave of a text

Trimming drops a run of characters from one end or both; splitting cuts a text at every
separator. On the characters of a text:

* `dropWhile_frame`, `rdropWhile_frame`, `trimBy_frame`: a text between runs of characters that
  trimming drops, itself starting and ending with characters it keeps, is trimmed to exactly
  itself.
* `intercalate_eq_empty_iff`: texts that are not empty join to the empty text only when there
  are none.
* `splitBy_intercalate`: cutting the join of pieces that hold no separator gives the pieces
  back; `splitListBy_eq_splitOnP` ties the cut to `List.splitOnP`.
-/

namespace ApiSpec

namespace Text

variable {p : Char → Bool}

@[simp] theorem toList_trimStartBy (s : String) :
    (trimStartBy p s).toList = s.toList.dropWhile p :=
  String.toList_ofList

@[simp] theorem toList_trimEndBy (s : String) :
    (trimEndBy p s).toList = s.toList.rdropWhile p :=
  String.toList_ofList

theorem toList_trimBy (s : String) :
    (trimBy p s).toList = (s.toList.dropWhile p).rdropWhile p := by
  simp [trimBy]

/-! ### The ends of a trimmed text -/

/-- Trimming the start leaves a text that starts with a kept character. -/
theorem head?_dropWhile_false {l : List Char} : ∀ c ∈ (l.dropWhile p).head?, p c = false := by
  intro c hc
  have h := List.head?_dropWhile_not p l
  rw [Option.mem_def.mp hc] at h
  exact h

/-- Trimming the end leaves a text that ends with a kept character. -/
theorem getLast?_rdropWhile_false {l : List Char} :
    ∀ c ∈ (l.rdropWhile p).getLast?, p c = false := by
  intro c hc
  have hne : l.rdropWhile p ≠ [] := by
    rintro h
    simp [h] at hc
  have hlast := List.rdropWhile_last_not p l hne
  rw [List.getLast?_eq_some_getLast hne, Option.mem_def, Option.some.injEq] at hc
  simpa [hc] using hlast

/-- Trimming the end keeps the first character, when any is left. -/
theorem head?_rdropWhile {l : List Char} : ∀ c ∈ (l.rdropWhile p).head?, c ∈ l.head? := by
  intro c hc
  obtain ⟨t, ht⟩ := List.rdropWhile_prefix p l
  rw [← ht, List.head?_append, Option.mem_def.mp hc]
  rfl

/-! ### Trimming a framed text -/

/-- A text starting with a kept character loses nothing at the start. -/
theorem dropWhile_eq_self_of_head {m : List Char} (hm : ∀ c ∈ m.head?, p c = false) :
    m.dropWhile p = m := by
  cases m with
  | nil => rfl
  | cons c rest => exact List.dropWhile_cons_of_neg (by simpa using hm c rfl)

/-- The run that trimming drops from the start ends where a kept character begins the rest. -/
theorem dropWhile_frame {l m : List Char} (hl : ∀ c ∈ l, p c = true)
    (hm : ∀ c ∈ m.head?, p c = false) : (l ++ m).dropWhile p = m := by
  rw [List.dropWhile_append_of_pos hl, dropWhile_eq_self_of_head hm]

/-- The run that trimming drops from the end ends where a kept character ends the rest. -/
theorem rdropWhile_frame {m r : List Char} (hr : ∀ c ∈ r, p c = true)
    (hm : ∀ c ∈ m.getLast?, p c = false) : (m ++ r).rdropWhile p = m := by
  have hrev : (r.reverse ++ m.reverse).dropWhile p = m.reverse :=
    dropWhile_frame (by simpa using hr) (by simpa using hm)
  simp only [List.rdropWhile, List.reverse_append, hrev, List.reverse_reverse]

/-- A text ending with a kept character loses nothing at the end. -/
theorem rdropWhile_eq_self_of_getLast {m : List Char} (hm : ∀ c ∈ m.getLast?, p c = false) :
    m.rdropWhile p = m := by
  simpa using rdropWhile_frame (r := []) (by simp) hm

/-- Two end trims, the second keeping the last character, leave a text as it is exactly when
the first keeps its last character: each only shortens it. -/
theorem rdropWhile_rdropWhile_eq_self_iff {q : Char → Bool} {l : List Char}
    (hq : ∀ c ∈ l.getLast?, q c = false) :
    (l.rdropWhile p).rdropWhile q = l ↔ ∀ c ∈ l.getLast?, p c = false := by
  constructor
  · intro h c hc
    have hback : l <+: l.rdropWhile p := by
      have hpre := List.rdropWhile_prefix q (l.rdropWhile p)
      rwa [h] at hpre
    have hfirst := List.rdropWhile_prefix p l
    have heq : l.rdropWhile p = l :=
      hfirst.eq_of_length (le_antisymm hfirst.length_le hback.length_le)
    exact getLast?_rdropWhile_false c (heq ▸ hc)
  · intro h
    rw [rdropWhile_eq_self_of_getLast h, rdropWhile_eq_self_of_getLast hq]

/-- A kept first character stays in front of what trimming the end leaves. -/
theorem rdropWhile_cons_of_neg {a : Char} {l : List Char} (ha : p a = false) :
    (a :: l).rdropWhile p = a :: l.rdropWhile p := by
  simp only [List.rdropWhile, List.reverse_cons, List.dropWhile_append]
  split
  next h => simp [List.isEmpty_iff.mp h, ha]
  next => simp

/-- A text framed by dropped characters, starting and ending with kept ones, is what trimming
both ends leaves. -/
theorem trimBy_frame {s : String} {l m r : List Char} (hs : s.toList = l ++ m ++ r)
    (hl : ∀ c ∈ l, p c = true) (hr : ∀ c ∈ r, p c = true)
    (hh : ∀ c ∈ m.head?, p c = false) (ht : ∀ c ∈ m.getLast?, p c = false) :
    (trimBy p s).toList = m := by
  rw [toList_trimBy, hs, List.append_assoc, List.dropWhile_append_of_pos hl]
  cases m with
  | nil =>
    -- nothing is kept: the right frame goes as well
    have hall : r.dropWhile p = [] := List.dropWhile_eq_nil_iff.mpr hr
    simp [hall]
  | cons c rest =>
    have hc : p c = false := hh c (by simp)
    rw [List.cons_append, List.dropWhile_cons_of_neg (by simp [hc]), ← List.cons_append,
      rdropWhile_frame hr ht]

/-! ### The ends of a join -/

section Join

variable {α : Type} {sep x : List α}

/-- A join starts with its first piece, when that is not empty. -/
theorem head?_intercalate (xs : List (List α)) (hx : x ≠ []) :
    (sep.intercalate (x :: xs)).head? = x.head? := by
  cases xs with
  | nil => rw [List.intercalate_singleton]
  | cons y ys =>
    rw [List.intercalate_cons_of_ne_nil (List.cons_ne_nil _ _), List.append_assoc,
      List.head?_append_of_ne_nil _ hx]

/-- A join whose first piece is not empty is not empty. -/
theorem intercalate_cons_ne_nil (xs : List (List α)) (hx : x ≠ []) :
    sep.intercalate (x :: xs) ≠ [] := by
  intro h
  have hhead : (sep.intercalate (x :: xs)).head? = x.head? := head?_intercalate xs hx
  rw [h, List.head?_nil] at hhead
  exact hx (List.head?_eq_none_iff.mp hhead.symm)

/-- A join ends with its last piece, when that is not empty. -/
theorem getLast?_intercalate (xs : List (List α)) (hx : x ≠ []) :
    (sep.intercalate (xs ++ [x])).getLast? = x.getLast? := by
  induction xs with
  | nil => rw [List.nil_append, List.intercalate_singleton]
  | cons y ys ih =>
    rw [List.cons_append, List.intercalate_cons_of_ne_nil (by simp), List.getLast?_append, ih,
      List.getLast?_eq_some_getLast hx, Option.some_or]

end Join

/-- Texts that are not empty join to the empty text only when there are none. -/
theorem intercalate_eq_empty_iff {sep : String} {entries : List String}
    (hne : ∀ e ∈ entries, e ≠ "") : sep.intercalate entries = "" ↔ entries = [] := by
  cases entries with
  | nil => simp
  | cons e rest =>
    have he : e.toList ≠ [] := by simpa using hne e List.mem_cons_self
    simp only [List.cons_ne_nil, iff_false, ← String.toList_inj, String.toList_intercalate,
      List.map_cons, String.toList_empty]
    exact intercalate_cons_ne_nil _ he

/-! ### Splitting at a separator -/

theorem splitListBy_eq_splitOnP (l : List Char) : splitListBy p l = l.splitOnP p := by
  induction l with
  | nil => rfl
  | cons c rest ih =>
    rw [splitListBy, List.splitOnP_cons_eq_if_modifyHead, ih]
    split
    · rfl
    · -- a split never gives the empty list, so the first piece takes the character
      obtain ⟨first, others, h⟩ := List.exists_cons_of_ne_nil (List.splitOnP_ne_nil p rest)
      rw [h]
      rfl

/-- Cutting at a separator the join of pieces that hold none gives the pieces. -/
theorem splitBy_intercalate {sep : Char} {s : String} {pieces : List String} (hne : pieces ≠ [])
    (hsep : ∀ x ∈ pieces, sep ∉ x.toList)
    (hs : s.toList = [sep].intercalate (pieces.map String.toList)) :
    splitBy (· == sep) s = pieces := by
  have hcut : s.toList.splitOn sep = pieces.map String.toList := by
    rw [hs]
    exact List.splitOn_intercalate sep (by simpa using hsep) (by simpa using hne)
  rw [splitBy, splitListBy_eq_splitOnP, ← List.splitOn_eq_splitOnP, hcut, List.map_map]
  simp [Function.comp_def, String.ofList_toList]

end Text

end ApiSpec
