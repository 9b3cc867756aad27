import RelationalQuery.Execute.FieldName
import RelationalQuery.Proofs.Text.Words

/-!
# Field names are settled

A column name is a row of underscores, mostly empty, and a stem. Its field keeps the underscores and
has a stem without any, so taking field names a second time changes nothing. The stem is that of the
column where it held no underscore, and else its camel case (`toList_fieldName`), which loses no
letter or digit.
-/

namespace RelationalQuery.Execute

open Text (camelChars camelOf lettersFrom Letter)

variable {column name : String} {front back : List Char}

/-- The underscores that a name begins with. -/
def underscores (name : String) : List Char := name.toList.takeWhile (· == '_')

/-- A name behind the underscores that it begins with. -/
def stem (name : String) : List Char := name.toList.dropWhile (· == '_')

/-- A name with all its underscores taken out, up to letter case. -/
def lettersOnly (name : String) : List Char := (name.toList.filter (· != '_')).map Char.toLower

/-! ## Underscores and stem -/

theorem underscores_append_stem (name : String) : underscores name ++ stem name = name.toList :=
  List.takeWhile_append_dropWhile

theorem eq_of_mem_underscores {c : Char} (h : c ∈ underscores name) : c = '_' :=
  beq_iff_eq.mp (List.all_eq_true.mp List.all_takeWhile c h)

/-- Underscores in front of a text without any are those that the name begins with. -/
theorem underscores_stem_of_toList (h : name.toList = front ++ back) (hfront : ∀ c ∈ front, c = '_')
    (hback : '_' ∉ back) : underscores name = front ∧ stem name = back := by
  have hpos : ∀ c ∈ front, (c == '_') = true := fun c hc => beq_iff_eq.mpr (hfront c hc)
  rw [underscores, stem, h, List.takeWhile_append_of_pos hpos, List.dropWhile_append_of_pos hpos]
  cases back with
  | nil => exact ⟨List.append_nil front, rfl⟩
  | cons c rest =>
    have hc : (c == '_') = false :=
      beq_eq_false_iff_ne.mpr fun heq => hback (heq ▸ List.mem_cons_self)
    rw [List.takeWhile_cons, List.dropWhile_cons, hc]
    exact ⟨List.append_nil front, rfl⟩

theorem lettersOnly_eq (name : String) :
    lettersOnly name = ((stem name).filter (· != '_')).map Char.toLower := by
  have hnone : (underscores name).filter (· != '_') = [] :=
    List.filter_eq_nil_iff.mpr fun c hc => by simp [eq_of_mem_underscores hc]
  rw [lettersOnly, ← underscores_append_stem, List.filter_append, hnone, List.nil_append]

/-! ## Field names -/

theorem toList_fieldName (column : String) : (fieldName column).toList =
    underscores column ++
      if '_' ∈ stem column then camelChars (stem column) else stem column := by
  have hchars : (fieldName column).toList = if (stem column).contains '_' then
      underscores column ++ camelChars (stem column) else column.toList := String.toList_ofList
  rw [hchars]
  by_cases h : '_' ∈ stem column
  · rw [if_pos h, if_pos (List.contains_iff_mem.mpr h)]
  · rw [if_neg h, if_neg (fun hcontains => h (List.contains_iff_mem.mp hcontains)),
      underscores_append_stem]

theorem fieldName_of_not_mem (h : '_' ∉ stem column) : fieldName column = column := by
  rw [← String.toList_inj, toList_fieldName, if_neg h, underscores_append_stem]

theorem not_mem_camelChars (name : List Char) : '_' ∉ camelChars name := fun h =>
  absurd (List.all_eq_true.mp (Text.all_camelChars name) '_' h) (by decide)

/-- The underscores stay, and the stem is put in camel case if it holds one. -/
theorem underscores_stem_fieldName (column : String) :
    underscores (fieldName column) = underscores column ∧ stem (fieldName column) =
      if '_' ∈ stem column then camelChars (stem column) else stem column := by
  refine underscores_stem_of_toList (toList_fieldName column)
    (fun c hc => eq_of_mem_underscores hc) ?_
  split
  · exact not_mem_camelChars _
  · assumption

/-- The stem of a field is free of underscores. -/
theorem not_mem_stem_fieldName (column : String) : '_' ∉ stem (fieldName column) := by
  rw [(underscores_stem_fieldName column).2]
  split
  · exact not_mem_camelChars _
  · assumption

theorem filter_bne_underscore {cs : List Char} (h : ∀ c ∈ cs, c.isAlphanum || c == '_') :
    cs.filter (· != '_') = cs.filter Char.isAlphanum := by
  apply List.filter_congr
  intro c hc
  by_cases heq : c = '_'
  · rw [heq]
    decide
  · have halnum : c.isAlphanum := ((Bool.or_eq_true _ _).mp (h c hc)).resolve_right fun hbeq =>
      heq (beq_iff_eq.mp hbeq)
    rw [halnum]
    exact bne_iff_ne.mpr heq

/-- Of a name of letters, digits and underscores, nothing but underscores is lost. -/
theorem lettersOnly_fieldName (h : column.toList.all fun c => c.isAlphanum || c == '_') :
    lettersOnly (fieldName column) = lettersOnly column := by
  by_cases hmem : '_' ∈ stem column
  · have hcamel : (camelChars (stem column)).filter (· != '_') = camelChars (stem column) :=
      List.filter_eq_self.mpr fun c hc =>
        bne_iff_ne.mpr fun heq => not_mem_camelChars _ (heq ▸ hc)
    have hstem : ∀ c ∈ stem column, c.isAlphanum || c == '_' := fun c hc =>
      List.all_eq_true.mp h c ((List.dropWhile_sublist _).subset hc)
    rw [lettersOnly_eq, lettersOnly_eq, (underscores_stem_fieldName column).2, if_pos hmem, hcamel,
      Text.map_toLower_camelChars, filter_bne_underscore hstem]
  · rw [fieldName_of_not_mem hmem]

/-- Taking field names is a projection: it keeps the underscores in front, its results are the names
without others, which it leaves as they are, and it loses nothing but underscores of a name of
letters, digits and underscores. What it changes is put in camel case: the words start behind every
character that is no letter or digit and where the case changes, and each but the first is written
with a capital. -/
theorem fieldName_projects (column : String) :
    fieldName (fieldName column) = fieldName column ∧
    underscores (fieldName column) = underscores column ∧
    '_' ∉ stem (fieldName column) ∧
    (fieldName column = column ↔ '_' ∉ stem column) ∧
    ((column.toList.all fun c => c.isAlphanum || c == '_') →
      lettersOnly (fieldName column) = lettersOnly column) ∧
    ('_' ∈ stem column →
      (Text.words (stem column)).flatMap Letter.ofWord = lettersFrom [] (stem column) ∧
      stem (fieldName column) = camelOf (lettersFrom [] (stem column))) := by
  have hsettled := not_mem_stem_fieldName column
  refine ⟨fieldName_of_not_mem hsettled, (underscores_stem_fieldName column).1, hsettled,
    ⟨fun heq => heq ▸ hsettled, fieldName_of_not_mem⟩, lettersOnly_fieldName, fun hmem => ?_⟩
  rw [(underscores_stem_fieldName column).2, if_pos hmem, Text.camelChars_eq]
  exact ⟨Text.flatMap_words _, rfl⟩

theorem fieldName_projects_acronym :
    ("__XMLHttp_file2Go_".toList.all fun c => c.isAlphanum || c == '_') ∧
    '_' ∈ stem "__XMLHttp_file2Go_" ∧
    lettersOnly (fieldName "__XMLHttp_file2Go_") = lettersOnly "__XMLHttp_file2Go_" ∧
    stem (fieldName "__XMLHttp_file2Go_") = "xmlHttpFile2Go".toList := by
  have hall : ("__XMLHttp_file2Go_".toList.all fun c => c.isAlphanum || c == '_') := by
    decide +kernel
  have hmem : '_' ∈ stem "__XMLHttp_file2Go_" := by decide +kernel
  have hcased : camelOf (lettersFrom [] (stem "__XMLHttp_file2Go_")) = "xmlHttpFile2Go".toList := by
    decide +kernel
  obtain ⟨-, -, -, -, hletters, hcamel⟩ := fieldName_projects "__XMLHttp_file2Go_"
  exact ⟨hall, hmem, hletters hall, (hcamel hmem).2.trans hcased⟩

end RelationalQuery.Execute
