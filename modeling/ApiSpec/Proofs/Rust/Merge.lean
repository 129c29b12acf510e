import ApiSpec.Rust.Load

/-!
# Where the methods of `impl` blocks land

Loading Rust files first walks each file into a unit, collecting its structs as classes (with no
methods) and its inherent `impl` blocks, then merges the blocks one after another, in file
order. A block of unit `i` for the type `n` goes to the unit `declaringUnit` picks at that
moment, which is `i` itself when no unit declares a class `n`: there its annotations and methods
are appended to the first class named `n`, or make a class of their own.

The unit a block lands in is known from the units as walked (`implHome`): the unit
`declaringUnit` picks among them when some unit declares `n`; otherwise the unit of the first
block for `n`, whose class every later block for `n` then joins.

* `classAt?_mergeImpl`, `allMethods_mergeImpl`: what one merge does, class by class, and to the
  methods of all classes.
* `MergedSoFar.step`, `MergedSoFar.foldl`: what merging a prefix of the blocks has done, as an
  invariant of the merge loop; `mergeImpls_merges` reads it off the whole loop.
* `loadFiles_merges_impls`: loading loses and duplicates no method, each block lands in a class
  of its type where `implHome` says, and the methods and annotations of the first class of each
  name in each unit are the blocks' that land there, in order.
-/

namespace ApiSpec

namespace Rust

open scoped List

/-! ### Classes of units -/

/-- The first class named `n` in unit `j`. -/
def classAt? (units : List SourceFile) (j : Nat) (n : String) : Option ClassDecl :=
  units[j]?.bind fun u => u.classes.find? (·.name == n)

/-- The methods of the first class named `n` in unit `j`; none when there is no such class. -/
def methodsAt (units : List SourceFile) (j : Nat) (n : String) : List MethodDecl :=
  ((classAt? units j n).map (·.methods)).getD []

/-- The annotations of the first class named `n` in unit `j`. -/
def annotationsAt (units : List SourceFile) (j : Nat) (n : String) : List Annotation :=
  ((classAt? units j n).map (·.annotations)).getD []

/-- The methods of all classes of all units. -/
def allMethods (units : List SourceFile) : List MethodDecl :=
  units.flatMap fun u => u.classes.flatMap (·.methods)

/-- No unit declares a class named `n`. -/
def Undeclared (units : List SourceFile) (n : String) : Prop :=
  ∀ u ∈ units, declaresClass u n = false

theorem isSome_classAt? {units : List SourceFile} {j : Nat} {n : String} :
    (classAt? units j n).isSome ↔ ∃ u, units[j]? = some u ∧ declaresClass u n = true := by
  cases h : units[j]? with
  | none => simp [classAt?, h]
  | some u => simp [classAt?, h, declaresClass, List.find?_isSome, List.any_eq_true]

theorem undeclared_iff {units : List SourceFile} {n : String} :
    Undeclared units n ↔ ∀ j, (classAt? units j n).isSome = false := by
  simp only [Undeclared, List.mem_iff_getElem?, Bool.eq_false_iff, ne_eq, isSome_classAt?]
  grind

/-! ### One merge -/

/-- A class with the annotations and methods of an `impl` block appended. -/
def withBlock (cls : ClassDecl) (b : ImplBlock) : ClassDecl :=
  { cls with annotations := cls.annotations ++ b.annotations, methods := cls.methods ++ b.methods }

/-- The class an `impl` block leaves where `old` was the first class of its name: `old` with the
block appended, or a class of the block alone. -/
def absorbed (old : Option ClassDecl) (b : ImplBlock) : ClassDecl :=
  match old with
  | some cls => withBlock cls b
  | none =>
    { name := b.selfTy, docs := none, annotations := b.annotations, typeParams := [],
      properties := [], methods := b.methods }

@[simp] theorem methods_absorbed (old : Option ClassDecl) (b : ImplBlock) :
    (absorbed old b).methods = ((old.map (·.methods)).getD []) ++ b.methods := by
  cases old <;> rfl

@[simp] theorem annotations_absorbed (old : Option ClassDecl) (b : ImplBlock) :
    (absorbed old b).annotations = ((old.map (·.annotations)).getD []) ++ b.annotations := by
  cases old <;> rfl

/-- The unit an `impl` block of unit `i` is merged into. -/
def mergeTarget (units : List SourceFile) (i : Nat) (b : ImplBlock) : Nat :=
  (declaringUnit units i b.selfTy).getD i

/-- Absorbing a block changes the first class of its name and no other. -/
theorem find?_absorbImpl (classes : List ClassDecl) (b : ImplBlock) (n : String) :
    (absorbImpl classes b).find? (·.name == n) =
      (classes.find? (·.name == n)).map fun cls => if n = b.selfTy then withBlock cls b else cls := by
  induction classes with
  | nil => rfl
  | cons cls rest ih =>
    by_cases hb : cls.name = b.selfTy
    · by_cases hn : cls.name = n
      · subst hn
        simp [absorbImpl, hb, withBlock]
      · -- the class of the block's name comes first, so nothing named `n` changes
        have hn' : b.selfTy ≠ n := hb ▸ hn
        simp [absorbImpl, hb, hn', Ne.symm hn']
    · by_cases hn : cls.name = n
      · subst hn
        simp [absorbImpl, hb]
      · simp [absorbImpl, hb, hn, ih]

/-- Absorbing a block into classes of which one has its name adds exactly its methods. -/
theorem flatMap_methods_absorbImpl {classes : List ClassDecl} {b : ImplBlock}
    (h : classes.any (·.name == b.selfTy) = true) :
    ((absorbImpl classes b).flatMap (·.methods)).Perm (classes.flatMap (·.methods) ++ b.methods) := by
  induction classes with
  | nil => simp at h
  | cons cls rest ih =>
    by_cases hb : cls.name = b.selfTy
    · simp only [absorbImpl, hb, beq_self_eq_true, ↓reduceIte, List.flatMap_cons, List.append_assoc]
      exact List.Perm.append_left _ List.perm_append_comm
    · have hrest : rest.any (·.name == b.selfTy) = true := by simpa [hb] using h
      simp only [absorbImpl, hb, beq_iff_eq, ↓reduceIte, List.flatMap_cons, List.append_assoc]
      exact List.Perm.append_left _ (ih hrest)

/-! ### The unit declaring a class -/

/-- What `declaringUnit` reads of a unit for the name `n`: its directory and whether it declares
a class `n`. -/
def unitKey (n : String) (u : SourceFile) : Option (List String) × Bool :=
  (pathParent u.path, declaresClass u n)

/-- `declaringUnit` depends on the units only through their keys. -/
theorem declaringUnit_congr {units units' : List SourceFile} {n : String}
    (h : units.map (unitKey n) = units'.map (unitKey n)) (i : Nat) :
    declaringUnit units i n = declaringUnit units' i n := by
  have hfind : ∀ q : Option (List String) × Bool → Bool,
      units.findIdx? (q ∘ unitKey n) = units'.findIdx? (q ∘ unitKey n) := fun q => by
    rw [← List.findIdx?_map, h, List.findIdx?_map]
  have hi : units[i]?.map (unitKey n) = units'[i]?.map (unitKey n) := by
    simpa using congrArg (·[i]?) h
  unfold declaringUnit
  cases hu : units[i]? with
  | none => cases hu' : units'[i]? <;> simp_all
  | some u =>
    cases hu' : units'[i]? with
    | none => simp_all
    | some u' =>
      simp only [hu, hu', Option.map_some, Option.some.injEq, unitKey, Prod.mk.injEq] at hi
      obtain ⟨hdir, hdecl⟩ := hi
      simp only [hdir, hdecl]
      have h1 := hfind fun k => k.1 == pathParent u'.path && k.2
      have h2 := hfind fun k => k.2
      simp only [Function.comp_def, unitKey] at h1 h2
      rw [h1, h2]

/-- Units with the same paths, each declaring `n` exactly where the other does, have the same
keys. -/
theorem map_unitKey_eq {units units' : List SourceFile} {n : String}
    (hpath : units.map (·.path) = units'.map (·.path))
    (hdecl : ∀ j, (classAt? units j n).isSome ↔ (classAt? units' j n).isSome) :
    units.map (unitKey n) = units'.map (unitKey n) := by
  apply List.ext_getElem?
  intro j
  have hp : units[j]?.map (·.path) = units'[j]?.map (·.path) := by
    simpa using congrArg (·[j]?) hpath
  have hd := hdecl j
  rw [isSome_classAt?, isSome_classAt?] at hd
  rw [List.getElem?_map, List.getElem?_map]
  cases hu : units[j]? with
  | none => cases hu' : units'[j]? <;> simp_all
  | some u =>
    cases hu' : units'[j]? with
    | none => simp_all
    | some u' =>
      simp only [hu, hu', Option.map_some, Option.some.injEq, exists_eq_left'] at hp hd ⊢
      simp [unitKey, hp, Bool.eq_iff_iff.mpr hd]

/-- The unit `declaringUnit` picks declares the class. -/
theorem isSome_classAt?_of_declaringUnit {units : List SourceFile} {i o : Nat} {n : String}
    (h : declaringUnit units i n = some o) : (classAt? units o n).isSome := by
  rw [isSome_classAt?]
  unfold declaringUnit at h
  cases hi : units[i]? with
  | none => simp [hi] at h
  | some own =>
    simp only [hi] at h
    split at h
    · next hown =>
      cases h
      exact ⟨own, hi, hown⟩
    · -- found by one of the two searches, both of which ask that the unit declare `n`
      have hfound : ∀ p : SourceFile → Bool, (∀ u, p u = true → declaresClass u n = true) →
          units.findIdx? p = some o → ∃ u, units[o]? = some u ∧ declaresClass u n = true := by
        intro p hp hidx
        obtain ⟨ho, hpo, -⟩ := List.findIdx?_eq_some_iff_getElem.mp hidx
        exact ⟨units[o], List.getElem?_eq_getElem ho, hp _ hpo⟩
      cases hnear : units.findIdx? fun u => pathParent u.path == pathParent own.path &&
          declaresClass u n with
      | some o' =>
        rw [hnear, Option.orElse_some] at h
        cases h
        exact hfound _ (fun u hu => (Bool.and_eq_true _ _ ▸ hu).2) hnear
      | none =>
        rw [hnear, Option.orElse_none] at h
        exact hfound _ (fun u hu => hu) h

/-- Searching from a unit of the list, `declaringUnit` finds nothing exactly when no unit
declares the class. -/
theorem declaringUnit_eq_none_iff {units : List SourceFile} {i : Nat} {n : String}
    (hi : i < units.length) : declaringUnit units i n = none ↔ Undeclared units n := by
  have hown : units[i]? = some units[i] := List.getElem?_eq_getElem hi
  unfold declaringUnit
  rw [hown]
  by_cases hd : declaresClass units[i] n = true
  · simp only [hd, ↓reduceIte, reduceCtorEq, false_iff]
    exact fun hu => absurd (hu _ (List.getElem_mem hi)) (by simp [hd])
  · simp only [hd, Bool.false_eq_true, ↓reduceIte, Option.orElse_eq_or, Option.or_eq_none_iff,
      List.findIdx?_eq_none_iff, Bool.and_eq_false_iff, Undeclared]
    constructor
    · exact fun h => h.2
    · exact fun h => ⟨fun u hu => .inr (h u hu), h⟩

/-! ### What one merge does -/

/-- In the unit that absorbs a block, only the first class of its name changes. -/
theorem bind_find?_absorbImpl (units : List SourceFile) (o : Nat) (b : ImplBlock) (n : String) :
    (units[o]?.bind fun u => (absorbImpl u.classes b).find? (·.name == n)) =
      (classAt? units o n).map fun cls => if n = b.selfTy then withBlock cls b else cls := by
  unfold classAt?
  cases units[o]? <;> simp [find?_absorbImpl]

theorem classAt?_modify (units : List SourceFile) (o : Nat) (f : SourceFile → SourceFile)
    (j : Nat) (n : String) :
    classAt? (units.modify o f) j n =
      if o = j then units[j]?.bind (fun u => (f u).classes.find? (·.name == n))
      else classAt? units j n := by
  unfold classAt?
  rw [List.getElem?_modify]
  split <;> cases units[j]? <;> rfl

/-- Changing one unit and keeping its path keeps the paths of all units. -/
theorem map_path_modify (units : List SourceFile) (o : Nat) {f : SourceFile → SourceFile}
    (hf : ∀ u, (f u).path = u.path) : (units.modify o f).map (·.path) = units.map (·.path) := by
  apply List.ext_getElem?
  intro j
  rw [List.getElem?_map, List.getElem?_map, List.getElem?_modify]
  cases units[j]? with
  | none => rfl
  | some u => by_cases h : o = j <;> simp [h, hf]

/-- Changing one unit so that its classes gain the methods `extra` adds exactly `extra`. -/
theorem allMethods_modify {units : List SourceFile} {o : Nat} {f : SourceFile → SourceFile}
    {extra : List MethodDecl} (ho : o < units.length)
    (hf : ((f units[o]).classes.flatMap (·.methods)).Perm
      (units[o].classes.flatMap (·.methods) ++ extra)) :
    (allMethods (units.modify o f)).Perm (allMethods units ++ extra) := by
  have hsplit : units = units.take o ++ units[o] :: units.drop (o + 1) := by
    rw [List.getElem_cons_drop ho, List.take_append_drop]
  rw [List.modify_eq_take_cons_drop ho]
  conv => rhs; rw [hsplit]
  simp only [allMethods, List.flatMap_append, List.flatMap_cons, List.append_assoc]
  refine List.Perm.append_left _ ?_
  -- the new methods sit after the changed unit; move them past the units behind it
  calc _ ~ (units[o].classes.flatMap (·.methods) ++ extra) ++ _ := hf.append_right _
    _ = units[o].classes.flatMap (·.methods) ++ (extra ++ _) := List.append_assoc _ _ _
    _ ~ _ := List.Perm.append_left _ List.perm_append_comm

/-- One merge, class by class: the first class of the block's name in its target unit gains
the block, or is made of it; every other class stays. -/
theorem classAt?_mergeImpl {units : List SourceFile} {i : Nat} (b : ImplBlock)
    (hi : i < units.length) (j : Nat) (n : String) :
    classAt? (mergeImpl units i b) j n =
      if j = mergeTarget units i b ∧ n = b.selfTy then some (absorbed (classAt? units j n) b)
      else classAt? units j n := by
  unfold mergeImpl mergeTarget
  cases hd : declaringUnit units i b.selfTy with
  | some o =>
    simp only [Option.getD_some]
    rw [classAt?_modify]
    by_cases hj : o = j
    · subst hj
      rw [bind_find?_absorbImpl]
      by_cases hn : n = b.selfTy
      · -- the declaring unit has a class of the name: it absorbs the block
        subst hn
        obtain ⟨cls, hcls⟩ := Option.isSome_iff_exists.mp (isSome_classAt?_of_declaringUnit hd)
        simp [hcls, absorbed]
      · simp [hn]
    · simp [hj, Ne.symm hj]
  | none =>
    -- no unit declares the name: the block makes a class at the end of its own unit
    have hu := (undeclared_iff.mp ((declaringUnit_eq_none_iff hi).mp hd))
    simp only [Option.getD_none]
    rw [classAt?_modify]
    by_cases hj : i = j
    · subst hj
      have hown : units[i]? = some units[i] := List.getElem?_eq_getElem hi
      by_cases hn : n = b.selfTy
      · subst hn
        have hnone : classAt? units i b.selfTy = none := by simpa using hu i
        simp only [classAt?, hown, Option.bind_some] at hnone
        simp [hown, List.find?_append, hnone, absorbed, classAt?]
      · simp [hown, List.find?_append, hn, Ne.symm hn, classAt?]
    · simp [hj, Ne.symm hj]

theorem methodsAt_mergeImpl {units : List SourceFile} {i : Nat} (b : ImplBlock)
    (hi : i < units.length) (j : Nat) (n : String) :
    methodsAt (mergeImpl units i b) j n =
      methodsAt units j n ++ if j = mergeTarget units i b ∧ n = b.selfTy then b.methods else [] := by
  unfold methodsAt
  rw [classAt?_mergeImpl b hi]
  split <;> simp

theorem annotationsAt_mergeImpl {units : List SourceFile} {i : Nat} (b : ImplBlock)
    (hi : i < units.length) (j : Nat) (n : String) :
    annotationsAt (mergeImpl units i b) j n =
      annotationsAt units j n ++
        if j = mergeTarget units i b ∧ n = b.selfTy then b.annotations else [] := by
  unfold annotationsAt
  rw [classAt?_mergeImpl b hi]
  split <;> simp

/-- After a merge, a unit declares a name where it did, and the target declares the block's. -/
theorem isSome_classAt?_mergeImpl {units : List SourceFile} {i : Nat} (b : ImplBlock)
    (hi : i < units.length) (j : Nat) (n : String) :
    (classAt? (mergeImpl units i b) j n).isSome ↔
      (classAt? units j n).isSome ∨ (j = mergeTarget units i b ∧ n = b.selfTy) := by
  rw [classAt?_mergeImpl b hi]
  split <;> simp_all

theorem map_path_mergeImpl (units : List SourceFile) (i : Nat) (b : ImplBlock) :
    (mergeImpl units i b).map (·.path) = units.map (·.path) := by
  unfold mergeImpl
  split <;> exact map_path_modify _ _ fun _ => rfl

/-- A merge adds the block's methods to the units, and nothing else. -/
theorem allMethods_mergeImpl {units : List SourceFile} {i : Nat} (b : ImplBlock)
    (hi : i < units.length) : (allMethods (mergeImpl units i b)).Perm (allMethods units ++ b.methods) := by
  unfold mergeImpl
  cases hd : declaringUnit units i b.selfTy with
  | some o =>
    obtain ⟨u, hu, hdecl⟩ := isSome_classAt?.mp (isSome_classAt?_of_declaringUnit hd)
    obtain ⟨ho, rfl⟩ := List.getElem?_eq_some_iff.mp hu
    exact allMethods_modify ho (flatMap_methods_absorbImpl hdecl)
  | none => exact allMethods_modify hi (by simp)

/-! ### Where each block lands -/

/-- The unit of the first block for the type `n`. -/
def firstImplUnit (pending : List (Nat × ImplBlock)) (n : String) : Option Nat :=
  (pending.find? (·.2.selfTy == n)).map (·.1)

/-- Where a block of unit `i` for the type `n` lands, read off the units before any merge: the
unit `declaringUnit` picks among them or, when none declares `n`, the unit of the first block
for `n`. -/
def implHome (units : List SourceFile) (pending : List (Nat × ImplBlock)) (i : Nat) (n : String) :
    Nat :=
  (declaringUnit units i n).getD ((firstImplUnit pending n).getD i)

/-- The blocks among `blocks` that land in the class `n` of unit `j`, in order. -/
def homedAt (units : List SourceFile) (pending blocks : List (Nat × ImplBlock)) (j : Nat)
    (n : String) : List (Nat × ImplBlock) :=
  blocks.filter fun p => p.2.selfTy == n && implHome units pending p.1 n == j

theorem firstImplUnit_of_mem {blocks : List (Nat × ImplBlock)} {n : String}
    (h : ∃ p ∈ blocks, p.2.selfTy = n) : ∃ f, firstImplUnit blocks n = some f := by
  have hsome : (blocks.find? (·.2.selfTy == n)).isSome := List.find?_isSome.mpr (by simpa using h)
  obtain ⟨p, hp⟩ := Option.isSome_iff_exists.mp hsome
  exact ⟨p.1, by simp [firstImplUnit, hp]⟩

theorem firstImplUnit_append_of_mem {pre rest : List (Nat × ImplBlock)} {n : String}
    (h : ∃ p ∈ pre, p.2.selfTy = n) : firstImplUnit (pre ++ rest) n = firstImplUnit pre n := by
  have hsome : (pre.find? (·.2.selfTy == n)).isSome := List.find?_isSome.mpr (by simpa using h)
  obtain ⟨p, hp⟩ := Option.isSome_iff_exists.mp hsome
  simp [firstImplUnit, List.find?_append, hp]

theorem firstImplUnit_append_cons {pre rest : List (Nat × ImplBlock)} {p : Nat × ImplBlock}
    (h : ∀ q ∈ pre, q.2.selfTy ≠ p.2.selfTy) : firstImplUnit (pre ++ p :: rest) p.2.selfTy = some p.1 := by
  have hnone : pre.find? (·.2.selfTy == p.2.selfTy) = none := List.find?_eq_none.mpr (by simpa using h)
  simp [firstImplUnit, List.find?_append, hnone]

/-- A block for a name some unit declares lands in a unit that declares it. -/
theorem isSome_classAt?_implHome {units : List SourceFile} (pending : List (Nat × ImplBlock))
    {i : Nat} {n : String} (hi : i < units.length) (hu : ¬ Undeclared units n) :
    (classAt? units (implHome units pending i n) n).isSome := by
  cases hd : declaringUnit units i n with
  | none => exact absurd ((declaringUnit_eq_none_iff hi).mp hd) hu
  | some o =>
    rw [implHome, hd, Option.getD_some]
    exact isSome_classAt?_of_declaringUnit hd

theorem implHome_of_undeclared {units : List SourceFile} (pending : List (Nat × ImplBlock))
    {i : Nat} {n : String} (hi : i < units.length) (hu : Undeclared units n) :
    implHome units pending i n = (firstImplUnit pending n).getD i := by
  rw [implHome, (declaringUnit_eq_none_iff hi).mpr hu, Option.getD_none]

theorem flatMap_homedAt_append {β : Type} (units : List SourceFile)
    (pending pre : List (Nat × ImplBlock)) (p : Nat × ImplBlock) (g : Nat × ImplBlock → List β)
    (j : Nat) (n : String) :
    (homedAt units pending (pre ++ [p]) j n).flatMap g =
      (homedAt units pending pre j n).flatMap g ++
        if j = implHome units pending p.1 p.2.selfTy ∧ n = p.2.selfTy then g p else [] := by
  by_cases hn : n = p.2.selfTy
  · subst hn
    by_cases hj : j = implHome units pending p.1 p.2.selfTy
    · simp [homedAt, List.filter_append, hj]
    · simp [homedAt, List.filter_append, hj, Ne.symm hj]
  · simp [homedAt, List.filter_append, hn, Ne.symm hn]

/-! ### The merge loop -/

/-- What merging the blocks `done`, a prefix of `pending`, into `units` has made of them:
paths kept; a unit declares a name where it did, or where the first block for a name no unit
declared made its class; the first class of each name in each unit has gained, in order, the
annotations and methods of the blocks that land there, and no other methods were added. -/
structure MergedSoFar (units : List SourceFile) (pending done : List (Nat × ImplBlock))
    (merged : List SourceFile) : Prop where
  paths : merged.map (·.path) = units.map (·.path)
  declares : ∀ j n, (classAt? merged j n).isSome ↔ (classAt? units j n).isSome ∨
    (Undeclared units n ∧ (∃ p ∈ done, p.2.selfTy = n) ∧ firstImplUnit pending n = some j)
  methods : ∀ j n, methodsAt merged j n =
    methodsAt units j n ++ (homedAt units pending done j n).flatMap (·.2.methods)
  annotations : ∀ j n, annotationsAt merged j n =
    annotationsAt units j n ++ (homedAt units pending done j n).flatMap (·.2.annotations)
  perm : (allMethods merged).Perm (allMethods units ++ done.flatMap (·.2.methods))

section Loop

variable {units : List SourceFile} {pending : List (Nat × ImplBlock)}

theorem mergedSoFar_nil : MergedSoFar units pending [] units where
  paths := rfl
  declares _ _ := by simp
  methods _ _ := by simp [homedAt]
  annotations _ _ := by simp [homedAt]
  perm := by simp

/-- Merging keeps the units, so a unit of the list before is one after. -/
theorem MergedSoFar.lt_length {done : List (Nat × ImplBlock)} {merged : List SourceFile}
    (h : MergedSoFar units pending done merged) {i : Nat} (hi : i < units.length) :
    i < merged.length := by
  have hlen : merged.length = units.length := by simpa using congrArg List.length h.paths
  exact hlen ▸ hi

/-- At its turn a block goes where `implHome` says: the declaring units then are those of the
start, or only the unit of the first block for a name no unit declared. -/
theorem MergedSoFar.mergeTarget_eq {pre post : List (Nat × ImplBlock)} {merged : List SourceFile}
    {p : Nat × ImplBlock} (h : MergedSoFar units pending pre merged)
    (hidx : ∀ q ∈ pending, q.1 < units.length) (hsplit : pending = pre ++ p :: post) :
    mergeTarget merged p.1 p.2 = implHome units pending p.1 p.2.selfTy := by
  obtain ⟨i, b⟩ := p
  have hi : i < units.length := hidx _ (hsplit ▸ List.mem_append_right _ List.mem_cons_self)
  have hi' : i < merged.length := h.lt_length hi
  unfold mergeTarget
  by_cases hu : Undeclared units b.selfTy
  · rw [implHome_of_undeclared pending hi hu]
    by_cases hpre : ∃ q ∈ pre, q.2.selfTy = b.selfTy
    · -- an earlier block made the class, in the unit of the first block for the name
      obtain ⟨f, hf⟩ := firstImplUnit_of_mem hpre
      have hfp : firstImplUnit pending b.selfTy = some f := by
        rw [hsplit, firstImplUnit_append_of_mem hpre, hf]
      have honly : ∀ j, (classAt? merged j b.selfTy).isSome ↔ f = j := fun j => by
        simp [h.declares, undeclared_iff.mp hu j, hu, hpre, hfp]
      cases hd : declaringUnit merged i b.selfTy with
      | none =>
        have hno := undeclared_iff.mp ((declaringUnit_eq_none_iff hi').mp hd) f
        simp [(honly f).mpr rfl] at hno
      | some o => simp [(honly o).mp (isSome_classAt?_of_declaringUnit hd), hfp]
    · -- the first block for the name: no unit declares it yet
      have hfp : firstImplUnit pending b.selfTy = some i := by
        rw [hsplit]
        exact firstImplUnit_append_cons fun q hq heq => hpre ⟨q, hq, heq⟩
      have hnone : Undeclared merged b.selfTy := undeclared_iff.mpr fun j => by
        rw [Bool.eq_false_iff, ne_eq, h.declares]
        simp [undeclared_iff.mp hu j, hpre]
      rw [(declaringUnit_eq_none_iff hi').mpr hnone, hfp]
      rfl
  · -- some unit declared the name from the start, and merging keeps which ones do
    have hsame : ∀ j, (classAt? merged j b.selfTy).isSome ↔ (classAt? units j b.selfTy).isSome :=
      fun j => by simp [h.declares, hu]
    rw [declaringUnit_congr (map_unitKey_eq h.paths hsame)]
    cases hd : declaringUnit units i b.selfTy with
    | none => exact absurd ((declaringUnit_eq_none_iff hi).mp hd) hu
    | some o => simp [implHome, hd]

/-- Merging the next block keeps the invariant. -/
theorem MergedSoFar.step {pre post : List (Nat × ImplBlock)} {merged : List SourceFile}
    {p : Nat × ImplBlock} (h : MergedSoFar units pending pre merged)
    (hidx : ∀ q ∈ pending, q.1 < units.length) (hsplit : pending = pre ++ p :: post) :
    MergedSoFar units pending (pre ++ [p]) (mergeImpl merged p.1 p.2) := by
  have htarget := h.mergeTarget_eq hidx hsplit
  have hmem : p ∈ pending := hsplit ▸ List.mem_append_right _ List.mem_cons_self
  have hi : p.1 < units.length := hidx p hmem
  have hi' : p.1 < merged.length := h.lt_length hi
  refine ⟨?_, ?_, ?_, ?_, ?_⟩
  · rw [map_path_mergeImpl, h.paths]
  · intro j n
    rw [isSome_classAt?_mergeImpl _ hi', h.declares, htarget]
    by_cases hn : n = p.2.selfTy
    · subst hn
      by_cases hu : Undeclared units p.2.selfTy
      · -- the block's unit is that of the first block for the name
        obtain ⟨f, hf⟩ := firstImplUnit_of_mem ⟨p, hmem, rfl⟩
        rw [implHome_of_undeclared pending hi hu, hf]
        simp [undeclared_iff.mp hu j, hu, eq_comm]
      · -- the block's unit already declared the name
        have hhome := isSome_classAt?_implHome pending hi hu
        simp only [hu, false_and, or_false, and_true]
        constructor
        · rintro (hj | rfl)
          · exact hj
          · exact hhome
        · exact .inl
    · simp [hn, Ne.symm hn]
  · intro j n
    rw [methodsAt_mergeImpl _ hi', h.methods, htarget, flatMap_homedAt_append, List.append_assoc]
  · intro j n
    rw [annotationsAt_mergeImpl _ hi', h.annotations, htarget, flatMap_homedAt_append,
      List.append_assoc]
  · rw [List.flatMap_append, List.flatMap_singleton, ← List.append_assoc]
    exact (allMethods_mergeImpl _ hi').trans (h.perm.append_right _)

/-- Merging the blocks that follow a prefix keeps the invariant: the run lemma of the loop. -/
theorem MergedSoFar.foldl (hidx : ∀ q ∈ pending, q.1 < units.length) (rest : List (Nat × ImplBlock)) :
    ∀ {pre : List (Nat × ImplBlock)} {merged : List SourceFile},
      MergedSoFar units pending pre merged → pre ++ rest <+: pending →
        MergedSoFar units pending (pre ++ rest) (rest.foldl (fun us p => mergeImpl us p.1 p.2) merged) := by
  induction rest with
  | nil => intro pre merged h _; simpa using h
  | cons p rest ih =>
    intro pre merged h hpre
    obtain ⟨post, hpost⟩ := hpre
    have hsplit : pending = pre ++ p :: (rest ++ post) := by simp [← hpost]
    have hnext := ih (h.step hidx hsplit) ⟨post, by simp [← hpost]⟩
    simpa using hnext

theorem mergedSoFar_mergeImpls (hidx : ∀ q ∈ pending, q.1 < units.length)
    {pre : List (Nat × ImplBlock)} (hpre : pre <+: pending) :
    MergedSoFar units pending pre (mergeImpls units pre) := by
  simpa [mergeImpls] using mergedSoFar_nil.foldl hidx pre (by simpa using hpre)

end Loop

/-- What merging all the blocks `pending` into `units` gives: the methods of all classes are
those of the units and of the blocks, none lost or doubled; each block lands in a class of its
type, in the unit `implHome` names, which is the unit the block is merged into at its turn; the
first class of each name in each unit has gained, in order, the annotations and methods of the
blocks that land there. -/
structure ImplsMerged (units : List SourceFile) (pending : List (Nat × ImplBlock))
    (merged : List SourceFile) : Prop where
  perm : (allMethods merged).Perm (allMethods units ++ pending.flatMap (·.2.methods))
  home : ∀ p ∈ pending, (classAt? merged (implHome units pending p.1 p.2.selfTy) p.2.selfTy).isSome
  atTurn : ∀ pre p post, pending = pre ++ p :: post →
    mergeTarget (mergeImpls units pre) p.1 p.2 = implHome units pending p.1 p.2.selfTy
  methods : ∀ j n, methodsAt merged j n =
    methodsAt units j n ++ (homedAt units pending pending j n).flatMap (·.2.methods)
  annotations : ∀ j n, annotationsAt merged j n =
    annotationsAt units j n ++ (homedAt units pending pending j n).flatMap (·.2.annotations)

/-- Merging blocks of units of the list, one after another. -/
theorem mergeImpls_merges {units : List SourceFile} {pending : List (Nat × ImplBlock)}
    (hidx : ∀ q ∈ pending, q.1 < units.length) :
    ImplsMerged units pending (mergeImpls units pending) := by
  have hall := mergedSoFar_mergeImpls hidx (List.prefix_refl pending)
  refine ⟨hall.perm, ?_, ?_, hall.methods, hall.annotations⟩
  · intro p hp
    have hi := hidx p hp
    rw [hall.declares]
    by_cases hu : Undeclared units p.2.selfTy
    · -- the class the first block for the name made
      obtain ⟨f, hf⟩ := firstImplUnit_of_mem ⟨p, hp, rfl⟩
      rw [implHome_of_undeclared pending hi hu, hf]
      exact .inr ⟨hu, ⟨p, hp, rfl⟩, rfl⟩
    · exact .inl (isSome_classAt?_implHome pending hi hu)
  · intro pre p post hsplit
    have hpre : pre <+: pending := ⟨p :: post, hsplit.symm⟩
    exact (mergedSoFar_mergeImpls hidx hpre).mergeTarget_eq hidx hsplit

/-- Two units declare `User`: a block in a third unit goes to the one in its own directory,
though the other comes first. -/
example :
    implHome [⟨"b/user.rs", [⟨"User", none, [], [], [], []⟩], [], []⟩,
        ⟨"a/user.rs", [⟨"User", none, [], [], [], []⟩], [], []⟩, ⟨"a/impls.rs", [], [], []⟩]
      [(2, ⟨"User", [], []⟩)] 2 "User" = 1 := by
  decide +kernel

/-! ### Loading files -/

/-- The classes collected so far have no methods. -/
def NoMethods (acc : Collected) : Prop := ∀ cls ∈ acc.classes, cls.methods = []

/-- A struct is collected as a class without methods. -/
theorem NoMethods.addStruct {acc : Collected} (h : NoMethods acc) (c : Classifier)
    (attrs : List Attribute) (name : String) (params : List String) (fields : Fields) :
    NoMethods (acc.addStruct c attrs name params fields) := by
  intro cls hcls
  simp only [Collected.addStruct, List.mem_append, List.mem_singleton] at hcls
  rcases hcls with hcls | rfl
  · exact h cls hcls
  · rfl

theorem NoMethods.addEnum {acc : Collected} (h : NoMethods acc) (attrs : List Attribute)
    (name : String) (variants : List Variant) : NoMethods (acc.addEnum attrs name variants) := by
  unfold Collected.addEnum
  exact h

mutual

theorem noMethods_walkItem (c : Classifier) {acc : Collected} (h : NoMethods acc) :
    (item : Item) → NoMethods (walkItem c acc item)
  | .struct attrs name params fields nested => by
    rw [walkItem]
    exact noMethods_walkItems c (h.addStruct c attrs name params fields) nested
  | .enum attrs name variants nested => by
    rw [walkItem]
    exact noMethods_walkItems c (h.addEnum attrs name variants) nested
  | .impl attrs ofTrait selfTy fns => by
    -- an `impl` block is recorded apart from the classes
    rw [walkItem]
    split
    · exact h
    · split <;> exact h
  | .other nested => by
    rw [walkItem]
    exact noMethods_walkItems c h nested
  | .verbatim => by
    rw [walkItem]
    exact h

theorem noMethods_walkItems (c : Classifier) {acc : Collected} (h : NoMethods acc) :
    (items : List Item) → NoMethods (walkItems c acc items)
  | [] => by
    rw [walkItems]
    exact h
  | item :: rest => by
    rw [walkItems]
    exact noMethods_walkItems c (noMethods_walkItem c h item) rest

end

/-- Before any merge, the units of walked files hold no methods. -/
theorem allMethods_unitsOf_walkFiles (c : Classifier) (files : List (String × File)) :
    allMethods (unitsOf (walkFiles c files)) = [] := by
  simp only [allMethods, unitsOf, walkFiles, List.map_map, List.flatMap_map, List.flatMap_eq_nil_iff]
  intro f _ cls hcls
  exact noMethods_walkItems c (fun _ h => by simp [Collected.empty] at h) f.2.items cls hcls

/-- Every collected block belongs to a unit of the list. -/
theorem lt_length_of_mem_pendingImpls {walked : List (String × Collected)}
    {p : Nat × ImplBlock} (hp : p ∈ pendingImpls walked) : p.1 < (unitsOf walked).length := by
  simp only [pendingImpls, List.mem_flatMap, List.mem_map] at hp
  obtain ⟨w, hw, b, -, rfl⟩ := hp
  simpa [unitsOf] using (List.of_mem_zip hw).1

/-- Loading parsed files loses and duplicates no method of the inherent `impl` blocks it
collects, and adds no other: the methods of all classes are those of the blocks. Each block
lands in a class of its type in the unit `implHome` names, the unit `declaringUnit` picks at its
turn (its own unit when none declares the type, whose class later blocks for the type join);
the first class of each name in each unit holds, in file order, the methods of the blocks that
land there, and its annotations are followed by theirs. -/
theorem loadFiles_merges_impls (c : Classifier) (files : List (String × File)) :
    allMethods (unitsOf (walkFiles c files)) = [] ∧
      ImplsMerged (unitsOf (walkFiles c files)) (pendingImpls (walkFiles c files))
        (loadFiles c files).1.units :=
  ⟨allMethods_unitsOf_walkFiles c files,
    mergeImpls_merges fun _ hp => lt_length_of_mem_pendingImpls hp⟩

end Rust

end ApiSpec
