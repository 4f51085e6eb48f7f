import FlatTables.Sheet.Basic
import Mathlib.Data.List.Nodup

/-!
# Joined headers

The header of a join is the left one followed by a name for each column of the right one. Suffixes
are put behind a name while it is taken. Every suffix makes it longer, so that each name that is
found taken is one less to run into, and as many tries as there are names are enough
(`Sheet.freshName_notMem`). Names that differ on the left therefore still differ in the joined
header (`Sheet.nodup_joinHeader`), even if the right header repeats a name.
-/

set_option autoImplicit false
set_option relaxedAutoImplicit false

namespace FlatTables.Sheet

/-- The names that are at least as long as a given one, and so may still be met when suffixes are
put behind it. -/
def ahead (taken : List String) (name : String) : List String :=
  taken.filter fun other ↦ name.length ≤ other.length

theorem length_ahead_suffixed_lt {taken : List String} {name : String} (hname : name ∈ taken) :
    (ahead taken (name ++ joinSuffix)).length < (ahead taken name).length := by
  have hlength : (name ++ joinSuffix).length = name.length + 6 := by
    rw [String.length_append]
    rfl
  have hsublist : (ahead taken (name ++ joinSuffix)).Sublist (ahead taken name) := by
    refine List.monotone_filter_right taken fun other hother ↦ ?_
    simp only [decide_eq_true_eq] at hother ⊢
    omega
  have hahead : name ∈ ahead taken name := List.mem_filter.mpr ⟨hname, by simp⟩
  have hpassed : name ∉ ahead taken (name ++ joinSuffix) := by
    intro hmem
    have hlonger := (List.mem_filter.mp hmem).2
    simp only [decide_eq_true_eq] at hlonger
    omega
  refine Nat.lt_of_le_of_ne hsublist.length_le fun hsame ↦ hpassed ?_
  rwa [hsublist.eq_of_length hsame]

theorem suffixed_notMem (taken : List String) (tries : Nat) :
    ∀ name, (ahead taken name).length ≤ tries → suffixed taken tries name ∉ taken := by
  induction tries with
  | zero =>
    intro name hahead hname
    have hmem : name ∈ ahead taken name := List.mem_filter.mpr ⟨hname, by simp⟩
    rw [List.length_eq_zero_iff.mp (Nat.le_zero.mp hahead)] at hmem
    exact absurd hmem List.not_mem_nil
  | succ tries ih =>
    intro name hahead
    rw [suffixed]
    by_cases hname : name ∈ taken
    · have hless := length_ahead_suffixed_lt hname
      rw [if_pos (List.contains_iff_mem.mpr hname)]
      exact ih _ (by omega)
    · rwa [if_neg (mt List.contains_iff_mem.mp hname)]

theorem freshName_notMem (taken : List String) (name : String) : freshName taken name ∉ taken :=
  suffixed_notMem taken taken.length name (List.length_filter_le _ _)

theorem nodup_joinHeader (right : List String) :
    ∀ {left : List String}, left.Nodup → (joinHeader left right).Nodup := by
  induction right with
  | nil => exact fun hleft ↦ hleft
  | cons name right ih =>
    intro left hleft
    have hnext : (left ++ [freshName left name]).Nodup :=
      List.nodup_append.mpr ⟨hleft, List.nodup_singleton _, by
        intro other hother last hlast hsame
        rw [List.mem_singleton.mp hlast] at hsame
        exact freshName_notMem left name (hsame ▸ hother)⟩
    exact ih hnext

theorem length_joinHeader (right : List String) :
    ∀ left : List String, (joinHeader left right).length = left.length + right.length := by
  induction right with
  | nil => exact fun left ↦ rfl
  | cons name right ih =>
    intro left
    have hrest := ih (left ++ [freshName left name])
    change (joinHeader (left ++ [freshName left name]) right).length = _
    rw [hrest, List.length_append, List.length_singleton, List.length_cons]
    omega

end FlatTables.Sheet
