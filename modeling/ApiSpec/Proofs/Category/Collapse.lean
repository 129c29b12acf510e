import ApiSpec.Category
import ApiSpec.Proofs.Text.Trim
import Mathlib.Data.List.Destutter

/-!
# Categories read off a location

`PathHeuristic.infer` reads a category off a controller's location: it cuts through the source
root and the first anchor, takes the directory segments other than the artifact directories,
humanizes them, drops each entry equal in normal form to the one kept before it, and joins the
rest with ` - `, or answers `Uncategorized` when nothing is left.

* `collapseDuplicates_eq_destutter`: the collapse is `List.destutter` by `DiffersInForm`, the
  entries kept being exactly those that differ in normal form from the one kept before them. So
  a run of equal entries of any length leaves its first, and no two adjacent entries of the
  result are equal in normal form, while an entry equal to one kept further back survives.
* `PathHeuristic.infer_eq`: a category is the label of the collapsed humanized directories of the
  anchored location.
* `PathHeuristic.infer_labels_directories`: whenever inferring ends without a fault, the category
  is `Uncategorized` when the collapse leaves nothing, and otherwise the ` - ` join of the
  non-empty list it leaves, of non-empty entries (`LabelsDirectories`).
-/

namespace ApiSpec

/-- Two categories that differ in normal form: not equal up to case, white space, `-` and `_`. -/
def DiffersInForm (a b : String) : Prop := normalizeCategory a ≠ normalizeCategory b

instance : DecidableRel DiffersInForm := fun a b =>
  inferInstanceAs (Decidable (normalizeCategory a ≠ normalizeCategory b))

/-! ### Collapsing duplicates -/

/-- After the entry `prev`, the collapse keeps what `List.destutter'` keeps. -/
theorem collapseAfter_eq_destutter' (prev : String) (rest : List String) :
    prev :: collapseDuplicates.collapseAfter prev rest = rest.destutter' DiffersInForm prev := by
  induction rest generalizing prev with
  | nil => rfl
  | cons t more ih =>
    rw [collapseDuplicates.collapseAfter, List.destutter'_cons]
    by_cases h : normalizeCategory prev = normalizeCategory t
    · -- an entry equal to the one kept before it goes
      have hnot : ¬ DiffersInForm prev t := fun hd => hd h
      rw [if_pos (beq_iff_eq.mpr h), if_neg hnot, ih]
    · have hd : DiffersInForm prev t := h
      rw [if_neg (by simpa using h), if_pos hd, ih]

theorem collapseDuplicates_eq_destutter (entries : List String) :
    collapseDuplicates entries = entries.destutter DiffersInForm := by
  cases entries with
  | nil => rfl
  | cons s rest => rw [collapseDuplicates, List.destutter_cons', collapseAfter_eq_destutter']

/-- No two adjacent entries of a collapsed list are equal in normal form. -/
theorem isChain_collapseDuplicates (entries : List String) :
    (collapseDuplicates entries).IsChain DiffersInForm := by
  rw [collapseDuplicates_eq_destutter]
  exact List.isChain_destutter DiffersInForm entries

/-! ### The label of a category -/

/-- A category from its entries: joined by ` - `, or `Uncategorized` when that is empty. -/
def categoryLabel (entries : List String) : String :=
  if (" - ".intercalate entries).isEmpty then uncategorized else " - ".intercalate entries

/-- What a category is, read off the humanized directories `dirs` of its location: the
collapse `dirs.destutter DiffersInForm` keeps non-empty entries, no two adjacent ones equal in
normal form; the category is `Uncategorized` when it keeps none, and otherwise their join. -/
structure LabelsDirectories (dirs : List String) (category : String) : Prop where
  label : dirs.destutter DiffersInForm = [] ∧ category = uncategorized ∨
    dirs.destutter DiffersInForm ≠ [] ∧ category = " - ".intercalate (dirs.destutter DiffersInForm)
  nonempty : ∀ e ∈ dirs.destutter DiffersInForm, e ≠ ""
  chain : (dirs.destutter DiffersInForm).IsChain DiffersInForm

theorem labelsDirectories_categoryLabel {dirs : List String} (hne : ∀ e ∈ dirs, e ≠ "") :
    LabelsDirectories dirs (categoryLabel (collapseDuplicates dirs)) := by
  rw [collapseDuplicates_eq_destutter]
  have hkept : ∀ e ∈ dirs.destutter DiffersInForm, e ≠ "" := fun e he =>
    hne e ((List.destutter_sublist DiffersInForm dirs).subset he)
  refine ⟨?_, hkept, List.isChain_destutter DiffersInForm dirs⟩
  by_cases hnil : dirs.destutter DiffersInForm = []
  · exact .inl ⟨hnil, by simp [categoryLabel, hnil]⟩
  · have hjoin : " - ".intercalate (dirs.destutter DiffersInForm) ≠ "" := fun h =>
      hnil ((Text.intercalate_eq_empty_iff hkept).mp h)
    exact .inr ⟨hnil, by simp [categoryLabel, hjoin]⟩

/-! ### Inferring a category -/

namespace PathHeuristic

/-- The location a category is read from: cut through the source root, then through the first
version anchor or else the first generic anchor. -/
def anchored (h : PathHeuristic) (path : String) : Except StripFault String := do
  let loc := slashed path
  let rooted ← match h.sourceRoot with
    | some root => (stripThrough loc (root ++ "/")).map (·.getD loc)
    | none => pure loc
  match afterVersionAnchor? rooted.toList with
    | some after => pure (String.ofList after)
    | none => (throughAnchors rooted sourceAnchors).map (·.getD rooted)

/-- The humanized directories of a location: its segments less the last one (the file name)
and the artifact directories, humanized, the empty ones dropped. -/
def humanizedDirs (h : PathHeuristic) (loc : String) : List String :=
  ((((Text.splitBy (· == '/') loc).filter (· ≠ "")).dropLast.filter fun s => !h.isArtifactDir s).map
    humanize).filter (· ≠ "")

theorem humanizedDirs_ne_empty (h : PathHeuristic) (loc : String) :
    ∀ e ∈ h.humanizedDirs loc, e ≠ "" := fun _ he => by
  simpa using (List.mem_filter.mp he).2

/-- A category is the label of the collapsed humanized directories of the anchored location. -/
theorem infer_eq (h : PathHeuristic) (path : String) :
    h.infer path =
      (fun loc => categoryLabel (collapseDuplicates (h.humanizedDirs loc))) <$> h.anchored path := by
  rw [← bind_pure_comp, infer, anchored]
  -- the two agree on each way of cutting the root and then the anchor
  cases hroot : h.sourceRoot with
  | some root =>
    simp only [bind_assoc]
    congr 1
    funext rooted
    cases afterVersionAnchor? rooted.toList <;> simp [categoryLabel, humanizedDirs]
  | none =>
    simp only [pure_bind]
    cases afterVersionAnchor? (slashed path).toList <;> simp [categoryLabel, humanizedDirs]

/-- Whenever inferring a category ends without a fault, the category is `Uncategorized` or the
` - ` join of a non-empty list of non-empty humanized directories of the anchored location, the
file name and the artifact directories left out, no two adjacent entries equal in normal form;
that list is what remains of the humanized directories when each entry equal in normal form to
the one kept before it is dropped. -/
theorem infer_labels_directories (h : PathHeuristic) (path c : String)
    (hc : h.infer path = .ok c) :
    ∃ loc, h.anchored path = .ok loc ∧ LabelsDirectories (h.humanizedDirs loc) c := by
  rw [infer_eq] at hc
  cases ha : h.anchored path with
  | error e =>
    rw [ha] at hc
    cases hc
  | ok loc =>
    rw [ha] at hc
    refine ⟨loc, rfl, ?_⟩
    have hlabel : categoryLabel (collapseDuplicates (h.humanizedDirs loc)) = c := by
      simpa using hc
    exact hlabel ▸ labelsDirectories_categoryLabel (h.humanizedDirs_ne_empty loc)

/-- A run of two entries equal in normal form leaves one, and an entry equal to one kept two
places back stays. -/
theorem admin_run_collapses :
    (make none defaultArtifactDirs).infer "src/modules/admin/admin/auth/admin/x.rs" =
        .ok "Admin - Auth - Admin" ∧
      ∃ loc, (make none defaultArtifactDirs).anchored "src/modules/admin/admin/auth/admin/x.rs" =
          .ok loc ∧
        LabelsDirectories ((make none defaultArtifactDirs).humanizedDirs loc) "Admin - Auth - Admin" :=
  have hinfer : (make none defaultArtifactDirs).infer "src/modules/admin/admin/auth/admin/x.rs" =
      .ok "Admin - Auth - Admin" := by rfl
  ⟨hinfer, infer_labels_directories _ _ _ hinfer⟩

end PathHeuristic

end ApiSpec
