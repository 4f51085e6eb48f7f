import Mathlib.Data.List.Induction
import Mathlib.Data.List.Sort
import FlatTables.Query.Payload

/-!
# Payloads as maps

A payload is determined by the values of its columns (`Payload.eq_of_get?_eq`). Of many assignments
to one column the last is kept (`Payload.get?_ofList`), so assignments to different columns may be
made in any order (`Payload.ofList_eq_of_perm`).
-/

set_option autoImplicit false
set_option relaxedAutoImplicit false

namespace FlatTables

theorem lookup_cons_eq_ite (column name value : String) (entries : List (String × String)) :
    ((name, value) :: entries).lookup column =
      if column = name then some value else entries.lookup column := by
  by_cases hcolumn : column = name
  · rw [hcolumn, List.lookup_cons_self, if_pos rfl]
  · have hne : (column == name) = false := by simpa using hcolumn
    rw [List.lookup_cons, hne, if_neg hcolumn]

theorem lookup_assign (column value other : String) (entries : List (String × String)) :
    (assign column value entries).lookup other =
      if other = column then some value else entries.lookup other := by
  induction entries with
  | nil => rw [assign, lookup_cons_eq_ite]
  | cons entry entries ih =>
    obtain ⟨name, old⟩ := entry
    rw [assign]
    by_cases hname : column = name
    · rw [if_pos hname, lookup_cons_eq_ite, lookup_cons_eq_ite, ← hname]
      by_cases hother : other = column <;> simp only [hother, if_true, if_false]
    · rw [if_neg hname]
      by_cases hless : column < name
      · rw [if_pos hless, lookup_cons_eq_ite]
      · rw [if_neg hless, lookup_cons_eq_ite, lookup_cons_eq_ite, ih]
        by_cases hother : other = column
        · rw [hother, if_neg hname, if_pos rfl, if_pos rfl]
        · rw [if_neg hother, if_neg hother]

/-- Where no column comes twice, the entries are what is found under their columns. -/
theorem lookup_eq_some_iff_mem {entries : List (String × String)}
    (hnodup : (entries.map Prod.fst).Nodup) {column value : String} :
    entries.lookup column = some value ↔ (column, value) ∈ entries := by
  induction entries with
  | nil => simp
  | cons entry entries ih =>
    obtain ⟨name, old⟩ := entry
    obtain ⟨hfresh, hnodup⟩ := List.nodup_cons.mp hnodup
    rw [lookup_cons_eq_ite, List.mem_cons, Prod.mk.injEq]
    by_cases hcolumn : column = name
    · subst hcolumn
      have hother : (column, value) ∉ entries := fun h ↦
        hfresh (List.mem_map.mpr ⟨_, h, rfl⟩)
      simp [hother, eq_comm]
    · simp [hcolumn, ih hnodup]

namespace Payload

/-- A payload assigns to no column twice. -/
theorem nodup_columns (payload : Payload) : payload.columns.Nodup := by
  have hdifferent : payload.entries.Pairwise (·.1 ≠ ·.1) := by
    refine payload.ordered.imp fun {first second} hless hsame ↦ ?_
    rw [hsame] at hless
    exact String.lt_irrefl _ hless
  exact List.pairwise_map.mpr hdifferent

theorem get?_eq_none_iff {payload : Payload} {column : String} :
    payload.get? column = none ↔ column ∉ payload.columns := by
  rw [get?, List.lookup_eq_none_iff, columns, List.mem_map]
  simp only [not_exists, not_and]
  refine forall₂_congr fun entry _ ↦ ?_
  rw [bne_iff_ne]
  exact ne_comm

/-- The values of its columns determine a payload. -/
theorem eq_of_get?_eq {payload other : Payload}
    (hget : ∀ column, payload.get? column = other.get? column) : payload = other := by
  have hmem (entry : String × String) : entry ∈ payload.entries ↔ entry ∈ other.entries := by
    rw [← lookup_eq_some_iff_mem payload.nodup_columns,
      ← lookup_eq_some_iff_mem other.nodup_columns]
    exact Eq.congr_left (hget entry.1)
  have hirrefl (first second : String × String) (hless : first.1 < second.1)
      (hgreater : second.1 < first.1) : first = second :=
    absurd (String.lt_trans hless hgreater) (String.lt_irrefl _)
  have hperm : payload.entries.Perm other.entries :=
    (List.perm_ext_iff_of_nodup (.of_map _ payload.nodup_columns)
      (.of_map _ other.nodup_columns)).mpr hmem
  have hentries : payload.entries = other.entries :=
    hperm.eq_of_pairwise (fun _ _ _ _ ↦ hirrefl _ _) payload.ordered other.ordered
  cases payload
  cases other
  congr

theorem get?_insert (payload : Payload) (column value other : String) :
    (payload.insert column value).get? other =
      if other = column then some value else payload.get? other :=
  lookup_assign column value other payload.entries

/-- The last assignment to a column is kept. -/
theorem get?_ofList (assignments : List (String × String)) (column : String) :
    (ofList assignments).get? column = assignments.reverse.lookup column := by
  induction assignments using List.reverseRecOn with
  | nil => rfl
  | append_singleton assignments last ih =>
    have hlast : ofList (assignments ++ [last]) = (ofList assignments).insert last.1 last.2 := by
      rw [ofList, List.foldl_append]
      rfl
    rw [hlast, get?_insert, ih, List.reverse_append, List.reverse_singleton, List.singleton_append,
      lookup_cons_eq_ite]

/-- Assignments in any order make the payload that has them. -/
theorem ofList_eq_of_perm {assignments : List (String × String)} {payload : Payload}
    (hperm : assignments.Perm payload.entries) : ofList assignments = payload := by
  have hreverse : assignments.reverse.Perm payload.entries :=
    (List.reverse_perm assignments).trans hperm
  have hnodup : (assignments.reverse.map Prod.fst).Nodup :=
    (hreverse.map Prod.fst).nodup_iff.mpr payload.nodup_columns
  refine eq_of_get?_eq fun column ↦ ?_
  rw [get?_ofList, get?]
  ext value
  rw [lookup_eq_some_iff_mem hnodup, lookup_eq_some_iff_mem payload.nodup_columns]
  exact hreverse.mem_iff

end Payload

end FlatTables
