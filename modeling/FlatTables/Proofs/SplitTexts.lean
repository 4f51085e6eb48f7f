import FlatTables.Text.Split
import Mathlib.Data.List.Basic

/-!
# What a text is split into

A cut at the first or at the last separator is told by the text that its parts make with the
separator between them, and by the part in which no other separator stands
(`cutFirst?_eq_some_iff`, `cutLast?_eq_some_iff`). A text has one cut into pieces without separators
(`cut_eq_iff`), and what is added behind it without any goes to the last piece
(`exists_cut_append`).
-/

set_option autoImplicit false
set_option relaxedAutoImplicit false

namespace FlatTables.Text

/-! ### Lists of characters -/

section Characters

variable {separator : Char} {text before after : List Char}

theorem splitFirst?_append (hbefore : separator ∉ before) (after : List Char) :
    splitFirst? separator (before ++ separator :: after) = some (before, after) := by
  induction before with
  | nil => rw [List.nil_append, splitFirst?, if_pos rfl]
  | cons c before ih =>
    obtain ⟨hc, hrest⟩ := List.ne_and_not_mem_of_not_mem_cons hbefore
    rw [List.cons_append, splitFirst?, if_neg hc.symm, ih hrest, Option.map_some]

theorem splitFirst?_eq_some_iff :
    splitFirst? separator text = some (before, after) ↔
      text = before ++ separator :: after ∧ separator ∉ before := by
  constructor
  · intro hsplit
    induction text generalizing before with
    | nil => cases hsplit
    | cons c text ih =>
      rw [splitFirst?] at hsplit
      by_cases hc : c = separator
      · rw [if_pos hc] at hsplit
        obtain ⟨rfl, rfl⟩ := Prod.mk.inj (Option.some.inj hsplit)
        exact ⟨congrArg (· :: text) hc, List.not_mem_nil⟩
      · rw [if_neg hc] at hsplit
        obtain ⟨parts, hparts, hcons⟩ := Option.map_eq_some_iff.mp hsplit
        obtain ⟨rfl, rfl⟩ := Prod.mk.inj hcons
        obtain ⟨rfl, hfree⟩ := ih hparts
        exact ⟨rfl, List.not_mem_cons_of_ne_of_not_mem (Ne.symm hc) hfree⟩
  · rintro ⟨rfl, hbefore⟩
    exact splitFirst?_append hbefore after

theorem splitLast?_eq_none_iff : splitLast? separator text = none ↔ separator ∉ text := by
  induction text with
  | nil => simp [splitLast?]
  | cons c text ih =>
    rw [splitLast?, List.mem_cons, not_or, ← ih]
    cases splitLast? separator text with
    | none => simp [eq_comm]
    | some parts => simp

theorem splitLast?_append (before : List Char) (hafter : separator ∉ after) :
    splitLast? separator (before ++ separator :: after) = some (before, after) := by
  induction before with
  | nil =>
    rw [List.nil_append, splitLast?, splitLast?_eq_none_iff.mpr hafter]
    exact if_pos rfl
  | cons c before ih => rw [List.cons_append, splitLast?, ih]

theorem splitLast?_eq_some_iff :
    splitLast? separator text = some (before, after) ↔
      text = before ++ separator :: after ∧ separator ∉ after := by
  constructor
  · intro hsplit
    induction text generalizing before with
    | nil => cases hsplit
    | cons c text ih =>
      rw [splitLast?] at hsplit
      cases hparts : splitLast? separator text with
      | none =>
        rw [hparts] at hsplit
        obtain ⟨hc, hnil⟩ := Option.ite_none_right_eq_some.mp hsplit
        obtain ⟨rfl, rfl⟩ := Prod.mk.inj (Option.some.inj hnil)
        exact ⟨congrArg (· :: text) hc, splitLast?_eq_none_iff.mp hparts⟩
      | some parts =>
        rw [hparts] at hsplit
        obtain ⟨rfl, rfl⟩ := Prod.mk.inj (Option.some.inj hsplit)
        obtain ⟨rfl, hfree⟩ := ih hparts
        exact ⟨rfl, hfree⟩
  · rintro ⟨rfl, hafter⟩
    exact splitLast?_append before hafter

/-- No separator stands in a piece. -/
theorem notMem_of_mem_splitOn {piece : List Char} (hpiece : piece ∈ text.splitOn separator) :
    separator ∉ piece := by
  induction text generalizing piece with
  | nil =>
    rw [List.splitOn_nil, List.mem_singleton] at hpiece
    rw [hpiece]
    exact List.not_mem_nil
  | cons c text ih =>
    rw [List.splitOn_cons_eq_if_modifyHead] at hpiece
    by_cases hc : c = separator
    · rw [if_pos (beq_iff_eq.mpr hc)] at hpiece
      rcases List.mem_cons.mp hpiece with rfl | hpiece
      · exact List.not_mem_nil
      · exact ih hpiece
    · rw [if_neg (mt beq_iff_eq.mp hc)] at hpiece
      obtain ⟨first, others, hrest⟩ :=
        List.exists_cons_of_ne_nil (List.splitOn_ne_nil separator text)
      rw [hrest, List.modifyHead_cons] at hpiece
      rw [hrest] at ih
      rcases List.mem_cons.mp hpiece with rfl | hpiece
      · exact List.not_mem_cons_of_ne_of_not_mem (Ne.symm hc) (ih List.mem_cons_self)
      · exact ih (List.mem_cons_of_mem _ hpiece)

/-- The pieces of a text are those without separators that make it with the separator between
them. -/
theorem splitOn_eq_iff {parts : List (List Char)} :
    text.splitOn separator = parts ↔
      parts ≠ [] ∧ (∀ part ∈ parts, separator ∉ part) ∧ [separator].intercalate parts = text := by
  constructor
  · rintro rfl
    exact ⟨List.splitOn_ne_nil separator text, fun _ hpiece ↦ notMem_of_mem_splitOn hpiece,
      List.intercalate_splitOn separator⟩
  · rintro ⟨hne, hfree, rfl⟩
    exact List.splitOn_intercalate separator hfree hne

theorem exists_splitOn_append (separator : Char) (text : List Char) :
    ∃ front last, ∀ suffix, separator ∉ suffix →
      (text ++ suffix).splitOn separator = front ++ [last ++ suffix] := by
  cases hsplit : splitLast? separator text with
  | none =>
    have htext : separator ∉ text := splitLast?_eq_none_iff.mp hsplit
    exact ⟨[], text, fun suffix hsuffix ↦
      List.splitOn_eq_singleton (List.not_mem_append htext hsuffix)⟩
  | some parts =>
    obtain ⟨front, last⟩ := parts
    obtain ⟨rfl, hlast⟩ := splitLast?_eq_some_iff.mp hsplit
    refine ⟨front.splitOn separator, last, fun suffix hsuffix ↦ ?_⟩
    rw [List.append_assoc, List.cons_append, List.splitOn_append_cons_self,
      List.splitOn_eq_singleton (List.not_mem_append hlast hsuffix)]

end Characters

/-! ### Texts -/

section Texts

variable {separator : Char} {text before after : String}

theorem map_ofList_eq_some_iff {parts : Option (List Char × List Char)} :
    parts.map (fun (before, after) ↦ (String.ofList before, String.ofList after)) =
        some (before, after) ↔ parts = some (before.toList, after.toList) := by
  rw [Option.map_eq_some_iff]
  constructor
  · rintro ⟨characters, hparts, htexts⟩
    obtain ⟨rfl, rfl⟩ := Prod.mk.inj htexts
    rw [hparts, String.toList_ofList, String.toList_ofList]
  · intro hparts
    exact ⟨_, hparts, Prod.ext String.ofList_toList String.ofList_toList⟩

theorem eq_append_singleton_append_iff :
    text = before ++ String.singleton separator ++ after ↔
      text.toList = before.toList ++ separator :: after.toList := by
  rw [← String.toList_inj, String.toList_append, String.toList_append, String.toList_singleton,
    List.append_assoc, List.singleton_append]

theorem cutFirst?_eq_some_iff :
    cutFirst? separator text = some (before, after) ↔
      text = before ++ String.singleton separator ++ after ∧ separator ∉ before.toList := by
  rw [cutFirst?, map_ofList_eq_some_iff, splitFirst?_eq_some_iff, eq_append_singleton_append_iff]

theorem cutLast?_eq_none_iff : cutLast? separator text = none ↔ separator ∉ text.toList := by
  rw [cutLast?, Option.map_eq_none_iff, splitLast?_eq_none_iff]

theorem cutLast?_eq_some_iff :
    cutLast? separator text = some (before, after) ↔
      text = before ++ String.singleton separator ++ after ∧ separator ∉ after.toList := by
  rw [cutLast?, map_ofList_eq_some_iff, splitLast?_eq_some_iff, eq_append_singleton_append_iff]

theorem cut_eq_iff {parts : List String} :
    cut separator text = parts ↔
      parts ≠ [] ∧ (∀ part ∈ parts, separator ∉ part.toList) ∧
        (String.singleton separator).intercalate parts = text := by
  have hcharacters : cut separator text = parts ↔
      text.toList.splitOn separator = parts.map String.toList := by
    constructor
    · rintro rfl
      simp [cut]
    · intro hpieces
      simp [cut, hpieces]
  have hjoined : (String.singleton separator).intercalate parts = text ↔
      [separator].intercalate (parts.map String.toList) = text.toList := by
    rw [← String.toList_inj, String.toList_intercalate, String.toList_singleton]
  rw [hcharacters, hjoined, splitOn_eq_iff, ne_eq, List.map_eq_nil_iff, List.forall_mem_map]

/-- What is added behind a text without a separator goes to its last piece. -/
theorem exists_cut_append (separator : Char) (text : String) :
    ∃ front last, ∀ suffix : String, separator ∉ suffix.toList →
      cut separator (text ++ suffix) = front ++ [last ++ suffix] := by
  obtain ⟨front, last, hpieces⟩ := exists_splitOn_append separator text.toList
  refine ⟨front.map String.ofList, String.ofList last, fun suffix hsuffix ↦ ?_⟩
  rw [cut, String.toList_append, hpieces suffix.toList hsuffix]
  simp

end Texts

end FlatTables.Text
