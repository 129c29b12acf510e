import ApiSpec.Route.Path
import ApiSpec.Proofs.Text.Trim

/-!
# Combining a combined path

`combinePaths` trims each segment of white space and then of slashes, drops the empty ones and
writes a slash before each of the rest. A segment whose white space stands next to a slash,
such as `a /`, still has white space at its edge after that trim (`a `), so a combined path
(`/a `) is not always a segment in normal form: combined again, it loses that white space.

* `combinePaths_toList`: a combined path is a slash before each part, or the root `/`.
* `combinePaths_segment_iff`: one segment stands in for a list of segments exactly when it
  trims to their parts joined by slashes.
* `pathPart_combinePaths_iff`: a combined path trims to the join of its parts exactly when it
  does not end with white space.
* `combinePaths_flatten_iff`: so a combined path, combined with other segments, gives the path
  of all their segments exactly when it does not end with white space.
  `combinePaths_reflatten_blank_end`: `a /` combines to `/a `, and `/a ` to `/a`.
-/

namespace ApiSpec

/-- The parts segments give a path: each trimmed, the empty ones dropped. -/
def pathParts (segments : List String) : List String :=
  (segments.map pathPart).filter (· ≠ "")

@[simp] theorem pathParts_append (xs ys : List String) :
    pathParts (xs ++ ys) = pathParts xs ++ pathParts ys := by
  simp [pathParts, List.filter_append]

theorem pathParts_cons (s : String) (xs : List String) :
    pathParts (s :: xs) = if pathPart s = "" then pathParts xs else pathPart s :: pathParts xs := by
  simp [pathParts, List.filter_cons]

theorem ne_empty_of_mem_pathParts {x : String} {segments : List String}
    (h : x ∈ pathParts segments) : x ≠ "" := by
  simpa using (List.mem_filter.mp h).2

/-! ### A path as a slash before each part -/

/-- A path written part by part, a slash before each. -/
def slashEach (parts : List String) : List Char :=
  parts.flatMap fun x => '/' :: x.toList

@[simp] theorem slashEach_append (xs ys : List String) :
    slashEach (xs ++ ys) = slashEach xs ++ slashEach ys := by
  simp [slashEach]

@[simp] theorem slashEach_nil : slashEach [] = [] := rfl

theorem slashEach_cons (x : String) (xs : List String) :
    slashEach (x :: xs) = '/' :: (x.toList ++ slashEach xs) := rfl

theorem slashEach_eq_nil {parts : List String} : slashEach parts = [] ↔ parts = [] := by
  cases parts <;> simp [slashEach]

/-- Written with a slash before each part, non-empty parts never give the root alone. -/
theorem slashEach_ne_root {parts : List String} (h : ∀ x ∈ parts, x ≠ "") :
    slashEach parts ≠ ['/'] := by
  cases parts with
  | nil => simp [slashEach]
  | cons x rest =>
    have hx : x.toList ≠ [] := by simpa using h x List.mem_cons_self
    simp [slashEach_cons, hx]

/-- The parts joined by slashes, with a slash in front. -/
theorem slashEach_eq_intercalate {parts : List String} (hne : parts ≠ []) :
    slashEach parts = '/' :: ("/".intercalate parts).toList := by
  induction parts with
  | nil => exact absurd rfl hne
  | cons x rest ih =>
    cases rest with
    | nil => simp [slashEach]
    | cons y more =>
      rw [slashEach_cons, ih (List.cons_ne_nil _ _), String.intercalate_cons_of_ne_nil
        (List.cons_ne_nil _ _)]
      simp

theorem combinePaths_eq (segments : List String) :
    combinePaths segments = "/" ++ "/".intercalate (pathParts segments) := rfl

/-- A combined path: the root when no part is left, else a slash before each part. -/
theorem combinePaths_toList (segments : List String) :
    (combinePaths segments).toList =
      if pathParts segments = [] then ['/'] else slashEach (pathParts segments) := by
  rw [combinePaths_eq]
  split
  next h => simp [h]
  next h => simp [slashEach_eq_intercalate h]

/-- Two lists of segments combine to one path exactly when their parts do. -/
theorem combinePaths_eq_iff {xs ys : List String} :
    combinePaths xs = combinePaths ys ↔ slashEach (pathParts xs) = slashEach (pathParts ys) := by
  have hx : slashEach (pathParts xs) ≠ ['/'] :=
    slashEach_ne_root fun _ h => ne_empty_of_mem_pathParts h
  have hy : slashEach (pathParts ys) ≠ ['/'] :=
    slashEach_ne_root fun _ h => ne_empty_of_mem_pathParts h
  rw [← String.toList_inj, combinePaths_toList, combinePaths_toList]
  by_cases hpx : pathParts xs = [] <;> by_cases hpy : pathParts ys = []
  · simp [hpx, hpy]
  · -- only the first is the root
    simp only [hpx, hpy, if_true, if_false, slashEach, List.flatMap_nil]
    exact ⟨fun h => absurd h.symm hy, fun h => absurd (slashEach_eq_nil.mp h.symm) hpy⟩
  · simp only [hpx, hpy, if_true, if_false, slashEach, List.flatMap_nil]
    exact ⟨fun h => absurd h hx, fun h => absurd (slashEach_eq_nil.mp h) hpx⟩
  · simp only [hpx, hpy, if_false]

/-! ### One segment for several -/

/-- One segment `s` in place of the segments `ys` leaves the path as it is exactly when `s`
trims to the parts of `ys` joined by slashes. -/
theorem combinePaths_segment_iff (xs ys zs : List String) (s : String) :
    combinePaths (xs ++ s :: zs) = combinePaths (xs ++ ys ++ zs) ↔
      pathPart s = "/".intercalate (pathParts ys) := by
  have hjoin : "/".intercalate (pathParts ys) = "" ↔ pathParts ys = [] :=
    Text.intercalate_eq_empty_iff fun _ h => ne_empty_of_mem_pathParts h
  rw [combinePaths_eq_iff]
  simp only [pathParts_append, pathParts_cons, slashEach_append, List.append_assoc,
    List.append_cancel_left_eq]
  by_cases hs : pathPart s = "" <;> by_cases hy : pathParts ys = []
  · simp [hs, hy, slashEach]
  · simp only [hs, if_true]
    rw [List.self_eq_append_left, slashEach_eq_nil]
    exact ⟨fun h => absurd h hy, fun h => absurd (hjoin.mp h.symm) hy⟩
  · simp only [hs, hy, if_false, slashEach_cons, slashEach_nil, List.nil_append]
    constructor
    · intro h
      rw [← List.cons_append, List.append_left_eq_self] at h
      exact absurd h (List.cons_ne_nil _ _)
    · intro h
      exact absurd (by simpa [hy] using h) hs
  · rw [if_neg hs, slashEach_cons, slashEach_eq_intercalate hy, List.cons_append, List.cons.injEq,
      List.append_cancel_right_eq, String.toList_inj, and_iff_right rfl]

/-! ### Trimming a combined path -/

theorem isBlank_slash : Text.isBlank '/' = false := by decide

/-- A part neither starts nor ends with a slash. -/
theorem pathPart_ends (s : String) :
    (∀ c ∈ (pathPart s).toList.head?, c ≠ '/') ∧ (∀ c ∈ (pathPart s).toList.getLast?, c ≠ '/') := by
  have hs : (pathPart s).toList = ((Text.trim s).toList.dropWhile (· == '/')).rdropWhile (· == '/') :=
    Text.toList_trimBy _
  generalize (Text.trim s).toList = t at hs
  rw [hs]
  constructor
  · intro c hc
    simpa using Text.head?_dropWhile_false c (Text.head?_rdropWhile c hc)
  · intro c hc
    simpa using Text.getLast?_rdropWhile_false c hc

/-- Trimming the root and a slash from a text with no slash at either end leaves what the white
space trim leaves, with the slashes it exposes at the end dropped. -/
theorem pathPart_slash_cons {J : List Char} (hh : ∀ c ∈ J.head?, c ≠ '/') :
    (pathPart (String.ofList ('/' :: J))).toList =
      (J.rdropWhile Text.isBlank).rdropWhile (· == '/') := by
  have hpre : ∀ c ∈ (J.rdropWhile Text.isBlank).head?, (c == '/') = false := fun c hc => by
    simpa using hh c (Text.head?_rdropWhile c hc)
  rw [pathPart, Text.toList_trimBy, Text.trim, Text.toList_trimBy, String.toList_ofList,
    List.dropWhile_cons_of_neg (by simp [isBlank_slash]), Text.rdropWhile_cons_of_neg isBlank_slash,
    List.dropWhile_cons_of_pos (by simp), Text.dropWhile_eq_self_of_head hpre]

/-- The parts of a path joined by slashes neither start nor end with a slash. -/
theorem slashJoin_ends {ys : List String} (hy : pathParts ys ≠ []) :
    ("/".intercalate (pathParts ys)).toList ≠ [] ∧
      (∀ c ∈ ("/".intercalate (pathParts ys)).toList.head?, c ≠ '/') ∧
      ∀ c ∈ ("/".intercalate (pathParts ys)).toList.getLast?, c ≠ '/' := by
  have hpart : ∀ y ∈ pathParts ys, y.toList ≠ [] ∧ (∀ c ∈ y.toList.head?, c ≠ '/') ∧
      ∀ c ∈ y.toList.getLast?, c ≠ '/' := fun y hy' => by
    refine ⟨by simpa using ne_empty_of_mem_pathParts hy', ?_⟩
    obtain ⟨s, -, rfl⟩ := List.mem_map.mp (List.mem_filter.mp hy').1
    exact pathPart_ends s
  -- the join starts with its first part and ends with its last one
  obtain ⟨x, rest, hfirst⟩ := List.exists_cons_of_ne_nil hy
  obtain ⟨front, z, hlast⟩ := (List.eq_nil_or_concat _).resolve_left hy
  rw [List.concat_eq_append] at hlast
  have hx := hpart x (hfirst ▸ List.mem_cons_self)
  have hz := hpart z (hlast ▸ List.mem_append_right _ List.mem_cons_self)
  have hhead : ("/".intercalate (pathParts ys)).toList.head? = x.toList.head? := by
    rw [String.toList_intercalate, hfirst, List.map_cons, Text.head?_intercalate _ hx.1]
  refine ⟨?_, hhead ▸ hx.2.1, ?_⟩
  · rw [String.toList_intercalate, hfirst, List.map_cons]
    exact Text.intercalate_cons_ne_nil _ hx.1
  · rw [String.toList_intercalate, hlast, List.map_append, List.map_singleton,
      Text.getLast?_intercalate _ hz.1]
    exact hz.2.2

/-- A combined path trims to the join of its parts exactly when it does not end with white
space: the first trim removes that white space, and then any slashes it leaves at the end. -/
theorem pathPart_combinePaths_iff (ys : List String) :
    pathPart (combinePaths ys) = "/".intercalate (pathParts ys) ↔
      ∀ c ∈ (combinePaths ys).toList.getLast?, Text.isBlank c = false := by
  by_cases hy : pathParts ys = []
  · -- the root trims to nothing, and the join of no parts is empty
    have hroot : combinePaths ys = String.ofList ['/'] := by rw [combinePaths_eq, hy]; rfl
    rw [hroot, hy, ← String.toList_inj, pathPart_slash_cons (J := []) (by simp),
      String.toList_ofList]
    simp [isBlank_slash]
  · obtain ⟨hJne, hhead, hlast⟩ := slashJoin_ends hy
    have hcomb : combinePaths ys =
        String.ofList ('/' :: ("/".intercalate (pathParts ys)).toList) := by
      rw [← String.toList_inj, String.toList_ofList, combinePaths_eq, String.toList_append]
      rfl
    rw [hcomb, ← String.toList_inj, pathPart_slash_cons hhead, String.toList_ofList]
    generalize ("/".intercalate (pathParts ys)).toList = J at hJne hlast ⊢
    rw [List.getLast?_cons, List.getLast?_eq_some_getLast hJne, Option.getD_some,
      ← List.getLast?_eq_some_getLast hJne]
    exact Text.rdropWhile_rdropWhile_eq_self_iff fun c hc => by simpa using hlast c hc

/-- Combining a combined path with other segments gives the path of all their segments exactly
when the combined path does not end with white space. -/
theorem combinePaths_flatten_iff (xs ys zs : List String) :
    combinePaths (xs ++ [combinePaths ys] ++ zs) = combinePaths (xs ++ ys ++ zs) ↔
      ∀ c ∈ (combinePaths ys).toList.getLast?, Text.isBlank c = false := by
  rw [List.append_assoc, List.singleton_append, combinePaths_segment_iff,
    pathPart_combinePaths_iff]

/-- The segment `a /` combines to `/a `, which combines again to `/a`. -/
theorem combinePaths_reflatten_blank_end :
    combinePaths ["a /"] = "/a " ∧ combinePaths [combinePaths ["a /"]] = "/a" ∧
      combinePaths ([] ++ [combinePaths ["a /"]] ++ []) ≠ combinePaths ([] ++ ["a /"] ++ []) := by
  have hinner : combinePaths ["a /"] = "/a " := by decide +kernel
  have houter : combinePaths ["/a "] = "/a" := by decide +kernel
  refine ⟨hinner, by rw [hinner, houter], ?_⟩
  rw [List.nil_append, List.append_nil, List.nil_append, List.append_nil, hinner, houter]
  decide

end ApiSpec
