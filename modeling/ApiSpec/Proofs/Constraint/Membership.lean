import ApiSpec.Proofs.Constraint.Override
import ApiSpec.Proofs.Text.Trim

/-!
# Membership lists

A membership annotation (`IsIn`, `IsEnum`, `IsNotIn`) reads its values from one argument written
as a list, `["admin", "user"]`, or from several arguments, one value each.

* `listText`: a list as written, with any white space around its brackets, quotes and commas.
* `splitList_listText`: decoding such a list gives back its values, in order, when each one is
  plain (`PlainValue`): not empty, no comma or quote, no white space at either end.
* `unquote_plain`: a plain value standing alone is read as it is.
* `membership_lists_decode`: so `IsIn` and `IsEnum` read exactly the values written into their
  allowed values, and `IsNotIn` into the excluded ones, from a written list or, for two values
  or more, from one argument each.
-/

namespace ApiSpec

/-- Every character is white space. -/
def Blanks (s : String) : Prop := ∀ c ∈ s.toList, Text.isBlank c = true

/-- A value that a membership list carries as it is: not empty, without comma or quote
character, and without white space at either end. -/
structure PlainValue (v : String) : Prop where
  ne_empty : v ≠ ""
  no_comma : ',' ∉ v.toList
  no_quote : '"' ∉ v.toList
  no_apostrophe : '\x27' ∉ v.toList
  head_not_blank : ∀ c ∈ v.toList.head?, Text.isBlank c = false
  last_not_blank : ∀ c ∈ v.toList.getLast?, Text.isBlank c = false

/-- One entry of a written list: white space, the value in double quotes, white space. -/
structure ListItem where
  before : String
  value : String
  after : String

/-- The text of an entry. -/
def ListItem.text (i : ListItem) : String := i.before ++ "\"" ++ i.value ++ "\"" ++ i.after

/-- An entry as a list may hold it: white space around a plain value. -/
structure ListItem.WellWritten (i : ListItem) : Prop where
  before_blank : Blanks i.before
  after_blank : Blanks i.after
  plain : PlainValue i.value

/-- A list as written in an annotation: white space, `[`, the entries separated by commas, `]`,
white space. -/
def listText (pre post : String) (items : List ListItem) : String :=
  pre ++ "[" ++ ",".intercalate (items.map ListItem.text) ++ "]" ++ post

theorem ListItem.text_toList (i : ListItem) :
    i.text.toList = i.before.toList ++ '"' :: (i.value.toList ++ '"' :: i.after.toList) := by
  simp [ListItem.text]

/-- A white-space character is none of the characters the decoder cuts or trims at. -/
theorem ne_of_isBlank {c : Char} (hc : Text.isBlank c = true) {d : Char}
    (hd : Text.isBlank d = false) : c ≠ d := by
  rintro rfl
  rw [hc] at hd
  cases hd

/-- What stands at either end of an entry: white space or a double quote. -/
def EntryEnd (c : Char) : Prop := Text.isBlank c = true ∨ c = '"'

theorem EntryEnd.not_opening {c : Char} (h : EntryEnd c) :
    (c == '[' || c == '(' || c == '\x7b') = false := by
  rcases h with h | rfl
  · have h₁ := ne_of_isBlank h (d := '[') (by decide)
    have h₂ := ne_of_isBlank h (d := '(') (by decide)
    have h₃ := ne_of_isBlank h (d := '\x7b') (by decide)
    simp [h₁, h₂, h₃]
  · decide

theorem EntryEnd.not_closing {c : Char} (h : EntryEnd c) :
    (c == ']' || c == ')' || c == '\x7d') = false := by
  rcases h with h | rfl
  · have h₁ := ne_of_isBlank h (d := ']') (by decide)
    have h₂ := ne_of_isBlank h (d := ')') (by decide)
    have h₃ := ne_of_isBlank h (d := '\x7d') (by decide)
    simp [h₁, h₂, h₃]
  · decide

theorem ListItem.WellWritten.head {i : ListItem} (h : i.WellWritten) :
    ∀ c ∈ i.text.toList.head?, EntryEnd c := by
  intro c hc
  rw [i.text_toList, List.head?_append] at hc
  cases hb : i.before.toList.head? with
  | some d =>
    rw [hb, Option.some_or, Option.mem_def, Option.some.injEq] at hc
    subst hc
    exact .inl (h.before_blank _ (List.mem_of_head? hb))
  | none =>
    rw [hb, Option.none_or, List.head?_cons, Option.mem_def, Option.some.injEq] at hc
    exact .inr hc.symm

theorem ListItem.WellWritten.last {i : ListItem} (h : i.WellWritten) :
    ∀ c ∈ i.text.toList.getLast?, EntryEnd c := by
  intro c hc
  have hform : i.text.toList = (i.before.toList ++ '"' :: i.value.toList ++ ['"']) ++
      i.after.toList := by
    simp [i.text_toList]
  rw [hform, List.getLast?_append] at hc
  cases ha : i.after.toList.getLast? with
  | some d =>
    rw [ha, Option.some_or, Option.mem_def, Option.some.injEq] at hc
    subst hc
    exact .inl (h.after_blank _ (List.mem_of_getLast? ha))
  | none =>
    rw [ha, Option.none_or, List.getLast?_append, List.getLast?_singleton, Option.some_or,
      Option.mem_def, Option.some.injEq] at hc
    exact .inr hc.symm

/-- An entry holds no comma. -/
theorem ListItem.WellWritten.no_comma {i : ListItem} (h : i.WellWritten) :
    ',' ∉ i.text.toList := by
  rw [i.text_toList]
  simp only [List.mem_append, List.mem_cons, not_or]
  exact ⟨fun hc => ne_of_isBlank (h.before_blank _ hc) (d := ',') (by decide) rfl, by decide,
    h.plain.no_comma, by decide,
    fun hc => ne_of_isBlank (h.after_blank _ hc) (d := ',') (by decide) rfl⟩

/-! ### Unquoting -/

/-- No character of a plain value is a quote. -/
theorem PlainValue.not_quote {v : String} (h : PlainValue v) :
    ∀ c ∈ v.toList, (c == '"' || c == '\x27') = false := by
  intro c hc
  have h₁ : c ≠ '"' := fun e => h.no_quote (e ▸ hc)
  have h₂ : c ≠ '\x27' := fun e => h.no_apostrophe (e ▸ hc)
  simp [h₁, h₂]

/-- A plain value standing alone is read as it is. -/
theorem unquote_plain {v : String} (h : PlainValue v) : Constraints.unquote v = v := by
  have htrim : (Text.trim v).toList = v.toList :=
    Text.trimBy_frame (l := []) (r := []) (by simp) (by simp) (by simp) h.head_not_blank
      h.last_not_blank
  rw [← String.toList_inj, Constraints.unquote]
  exact Text.trimBy_frame (l := []) (r := []) (by simp [htrim]) (by simp) (by simp)
    (fun c hc => h.not_quote c (List.mem_of_mem_head? hc))
    (fun c hc => h.not_quote c (List.mem_of_mem_getLast? hc))

theorem isBlank_quote : Text.isBlank '"' = false := by decide

/-- An entry is read as its value: the white space around it goes first, then its quotes. -/
theorem ListItem.WellWritten.unquote {i : ListItem} (h : i.WellWritten) :
    Constraints.unquote i.text = i.value := by
  have htrim : (Text.trim i.text).toList = ['"'] ++ i.value.toList ++ ['"'] :=
    Text.trimBy_frame (by simp [i.text_toList]) h.before_blank h.after_blank
      (by simp [isBlank_quote]) (fun c hc => by
        rw [List.getLast?_append, List.getLast?_singleton, Option.some_or, Option.mem_def,
          Option.some.injEq] at hc
        exact hc ▸ isBlank_quote)
  rw [← String.toList_inj, Constraints.unquote]
  exact Text.trimBy_frame htrim (by simp) (by simp)
    (fun c hc => h.plain.not_quote c (List.mem_of_mem_head? hc))
    (fun c hc => h.plain.not_quote c (List.mem_of_mem_getLast? hc))

/-! ### Decoding a written list -/

theorem ListItem.text_ne_nil (i : ListItem) : i.text.toList ≠ [] := by
  simp [i.text_toList]

/-- The entries of a list joined by commas start and end with white space or a quote. -/
theorem entries_ends {items : List ListItem} (hne : items ≠ [])
    (hitems : ∀ i ∈ items, i.WellWritten) :
    (∀ c ∈ ([','].intercalate (items.map (·.text.toList))).head?, EntryEnd c) ∧
      ∀ c ∈ ([','].intercalate (items.map (·.text.toList))).getLast?, EntryEnd c := by
  obtain ⟨first, rest, hfirst⟩ := List.exists_cons_of_ne_nil hne
  obtain ⟨front, last, hlast⟩ := (List.eq_nil_or_concat _).resolve_left hne
  rw [List.concat_eq_append] at hlast
  constructor
  · rw [hfirst, List.map_cons, Text.head?_intercalate _ first.text_ne_nil]
    exact (hitems first (hfirst ▸ List.mem_cons_self)).head
  · rw [hlast, List.map_append, List.map_singleton, Text.getLast?_intercalate _ last.text_ne_nil]
    exact (hitems last (hlast ▸ List.mem_append_right _ List.mem_cons_self)).last

/-- Decoding a written list gives back its values, in order: the white space around it goes,
then one run of opening and one of closing brackets, the commas cut the entries apart, and each
entry is read as its value. -/
theorem splitList_listText {pre post : String} {items : List ListItem} (hne : items ≠ [])
    (hpre : Blanks pre) (hpost : Blanks post) (hitems : ∀ i ∈ items, i.WellWritten) :
    Constraints.splitList (listText pre post items) = items.map ListItem.value := by
  obtain ⟨hhead, hlast⟩ := entries_ends hne hitems
  obtain ⟨body, hbody⟩ : ∃ body, [','].intercalate (items.map (·.text.toList)) = body := ⟨_, rfl⟩
  rw [hbody] at hhead hlast
  have hbne : body ≠ [] := by
    obtain ⟨first, rest, hfirst⟩ := List.exists_cons_of_ne_nil hne
    rw [← hbody, hfirst, List.map_cons]
    exact Text.intercalate_cons_ne_nil _ first.text_ne_nil
  have hopenBlank : Text.isBlank '[' = false := by decide
  have hcloseBlank : Text.isBlank ']' = false := by decide
  have htrim : (Text.trim (listText pre post items)).toList = ['['] ++ body ++ [']'] := by
    refine Text.trimBy_frame ?_ hpre hpost (fun c hc => ?_) (fun c hc => ?_)
    · simp [listText, ← hbody, String.toList_intercalate, Function.comp_def]
    · obtain rfl : '[' = c := by simpa using hc
      exact hopenBlank
    · rw [List.getLast?_append, List.getLast?_singleton, Option.some_or, Option.mem_def,
        Option.some.injEq] at hc
      exact hc ▸ hcloseBlank
  have hopen : (Text.trimStartBy (fun c => c == '[' || c == '(' || c == '\x7b')
      (Text.trim (listText pre post items))).toList = body ++ [']'] := by
    rw [Text.toList_trimStartBy, htrim, List.append_assoc,
      Text.dropWhile_frame (by simp) (fun c hc => ?_)]
    rw [List.head?_append_of_ne_nil _ hbne] at hc
    exact (hhead c hc).not_opening
  have hclose : (Text.trimEndBy (fun c => c == ']' || c == ')' || c == '\x7d')
      (Text.trimStartBy (fun c => c == '[' || c == '(' || c == '\x7b')
        (Text.trim (listText pre post items)))).toList = body := by
    rw [Text.toList_trimEndBy, hopen]
    exact Text.rdropWhile_frame (by simp) fun c hc => (hlast c hc).not_closing
  have hcut : Text.splitBy (· == ',') (Text.trimEndBy (fun c => c == ']' || c == ')' || c == '\x7d')
      (Text.trimStartBy (fun c => c == '[' || c == '(' || c == '\x7b')
        (Text.trim (listText pre post items)))) = items.map ListItem.text := by
    refine Text.splitBy_intercalate (by simpa using hne) ?_ ?_
    · intro x hx
      obtain ⟨i, hi, rfl⟩ := List.mem_map.mp hx
      exact (hitems i hi).no_comma
    · rw [hclose, ← hbody, List.map_map]
      rfl
  have hvalues : (items.map ListItem.text).map Constraints.unquote = items.map ListItem.value := by
    rw [List.map_map]
    exact List.map_congr_left fun i hi => (hitems i hi).unquote
  simp only [Constraints.splitList]
  rw [hcut, hvalues, List.filter_eq_self]
  intro v hv
  obtain ⟨i, hi, rfl⟩ := List.mem_map.mp hv
  simpa using (hitems i hi).plain.ne_empty

/-! ### The membership annotations -/

/-- A written list as the one argument: its values. -/
theorem argList_listText {pre post : String} {items : List ListItem} (hne : items ≠ [])
    (hpre : Blanks pre) (hpost : Blanks post) (hitems : ∀ i ∈ items, i.WellWritten)
    {a : AnnotationArg} (ha : a.text = listText pre post items) :
    Constraints.argList [a] = some (items.map ListItem.value) := by
  have hvalues := splitList_listText hne hpre hpost hitems
  simp only [Constraints.argList, ha, hvalues, List.isEmpty_iff, List.map_eq_nil_iff, hne,
    if_false]

/-- Two arguments or more, each a plain value: those values. -/
theorem argList_separate {args : List AnnotationArg} (hlen : 2 ≤ args.length)
    (hplain : ∀ a ∈ args, PlainValue a.text) :
    Constraints.argList args = some (args.map AnnotationArg.text) := by
  match args, hlen with
  | a :: b :: rest, _ =>
    simp only [Constraints.argList, Option.some.injEq]
    exact List.map_congr_left fun x hx => unquote_plain (hplain x hx)

/-- `IsIn` and `IsEnum` read their arguments into the allowed values, `IsNotIn` into the
excluded ones. -/
theorem extractConstraints_membership (args : List AnnotationArg) :
    (extractConstraints [⟨"IsIn", args⟩]).enumValues = Constraints.argList args ∧
      (extractConstraints [⟨"IsEnum", args⟩]).enumValues = Constraints.argList args ∧
      (extractConstraints [⟨"IsNotIn", args⟩]).notIn = Constraints.argList args := by
  have hin : normalizeName "IsIn" = "isin" := rfl
  have henum : normalizeName "IsEnum" = "isenum" := rfl
  have hnot : normalizeName "IsNotIn" = "isnotin" := rfl
  simp [extractConstraints, Constraints.apply, hin, henum, hnot]

/-- Membership lists decode: a list `["v1", …, "vn"]` of plain values, with any white space
around its brackets, quotes and commas, gives `IsIn` and `IsEnum` exactly the allowed values
`v1, …, vn` and `IsNotIn` exactly those excluded values; for two values or more, so do as
many separate arguments, one value each. -/
theorem membership_lists_decode {pre post : String} {items : List ListItem} (hne : items ≠ [])
    (hpre : Blanks pre) (hpost : Blanks post) (hitems : ∀ i ∈ items, i.WellWritten)
    (a : AnnotationArg) (ha : a.text = listText pre post items) :
    (extractConstraints [⟨"IsIn", [a]⟩]).enumValues = some (items.map ListItem.value) ∧
      (extractConstraints [⟨"IsEnum", [a]⟩]).enumValues = some (items.map ListItem.value) ∧
      (extractConstraints [⟨"IsNotIn", [a]⟩]).notIn = some (items.map ListItem.value) ∧
      ∀ args : List AnnotationArg, args.map AnnotationArg.text = items.map ListItem.value →
        2 ≤ args.length →
        (extractConstraints [⟨"IsIn", args⟩]).enumValues = some (items.map ListItem.value) ∧
          (extractConstraints [⟨"IsEnum", args⟩]).enumValues = some (items.map ListItem.value) ∧
          (extractConstraints [⟨"IsNotIn", args⟩]).notIn = some (items.map ListItem.value) := by
  obtain ⟨hin, henum, hnot⟩ := extractConstraints_membership [a]
  have hlist := argList_listText hne hpre hpost hitems ha
  refine ⟨hin.trans hlist, henum.trans hlist, hnot.trans hlist, fun args htexts hlen => ?_⟩
  -- each argument's text is the value of its entry, so it is plain
  have hplain : ∀ x ∈ args, PlainValue x.text := by
    intro x hx
    have hmem : x.text ∈ items.map ListItem.value := htexts ▸ List.mem_map_of_mem hx
    obtain ⟨i, hi, hiv⟩ := List.mem_map.mp hmem
    exact hiv ▸ (hitems i hi).plain
  have hsep := argList_separate hlen hplain
  rw [htexts] at hsep
  obtain ⟨hin', henum', hnot'⟩ := extractConstraints_membership args
  exact ⟨hin'.trans hsep, henum'.trans hsep, hnot'.trans hsep⟩

/-- `[ "admin" ,  "user"  ]` with a blank before it reads as the allowed or excluded values
`admin` and `user`, and so do two separate arguments. -/
theorem adminUser_list_decodes :
    [(⟨"", "admin", " "⟩ : ListItem), ⟨"  ", "user", "\t"⟩] ≠ [] ∧ Blanks " " ∧ Blanks "" ∧
      (∀ i ∈ [(⟨"", "admin", " "⟩ : ListItem), ⟨"  ", "user", "\t"⟩], i.WellWritten) ∧
      (extractConstraints [⟨"IsIn", [.expr (listText " " ""
        [⟨"", "admin", " "⟩, ⟨"  ", "user", "\t"⟩])]⟩]).enumValues = some ["admin", "user"] ∧
      (extractConstraints [⟨"IsNotIn", [.literal "admin", .literal "user"]⟩]).notIn =
        some ["admin", "user"] := by
  have hpre : Blanks " " := by simp [Blanks, Text.isBlank]
  have hpost : Blanks "" := by simp [Blanks]
  have hitems : ∀ i ∈ [(⟨"", "admin", " "⟩ : ListItem), ⟨"  ", "user", "\t"⟩], i.WellWritten := by
    intro i hi
    simp only [List.mem_cons, List.not_mem_nil, or_false] at hi
    rcases hi with rfl | rfl <;>
      exact ⟨by simp [Blanks, Text.isBlank], by simp [Blanks, Text.isBlank],
        ⟨by simp, by simp, by simp, by simp, by simp [Text.isBlank], by simp [Text.isBlank]⟩⟩
  have h := membership_lists_decode (by simp) hpre hpost hitems
    (.expr (listText " " "" [⟨"", "admin", " "⟩, ⟨"  ", "user", "\t"⟩])) rfl
  exact ⟨by simp, hpre, hpost, hitems, h.1, (h.2.2.2 [.literal "admin", .literal "user"] rfl
    (by simp)).2.2⟩

end ApiSpec
