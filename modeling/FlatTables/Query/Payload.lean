/-!
# Payloads

The values that an insert or an update assigns, one to a column, in ascending order of the
column names. The order is part of the type, so two payloads that assign the same values are
equal whatever order the assignments were made in.
-/

set_option autoImplicit false
set_option relaxedAutoImplicit false

namespace FlatTables

/-- Puts an assignment in its place; a column that is assigned already gets the new value. -/
def assign (column value : String) : List (String × String) → List (String × String)
  | [] => [(column, value)]
  | (name, old) :: rest =>
    if column = name then (column, value) :: rest
    else if column < name then (column, value) :: (name, old) :: rest
    else (name, old) :: assign column value rest

theorem mem_assign {column value : String} {entries : List (String × String)}
    {entry : String × String} (h : entry ∈ assign column value entries) :
    entry = (column, value) ∨ entry ∈ entries := by
  induction entries with
  | nil => exact Or.inl (by simpa [assign] using h)
  | cons head rest ih =>
    obtain ⟨name, old⟩ := head
    unfold assign at h
    split at h
    · rcases List.mem_cons.mp h with h | h
      · exact Or.inl h
      · exact Or.inr (List.mem_cons_of_mem _ h)
    · split at h
      · rcases List.mem_cons.mp h with h | h
        · exact Or.inl h
        · exact Or.inr h
      · rcases List.mem_cons.mp h with h | h
        · exact Or.inr (h ▸ List.mem_cons_self)
        · exact (ih h).imp id (List.mem_cons_of_mem _)

theorem pairwise_assign (column value : String) {entries : List (String × String)}
    (ordered : entries.Pairwise (·.1 < ·.1)) :
    (assign column value entries).Pairwise (·.1 < ·.1) := by
  induction entries with
  | nil => exact List.pairwise_singleton _ _
  | cons head rest ih =>
    obtain ⟨name, old⟩ := head
    obtain ⟨below, tail⟩ := List.pairwise_cons.mp ordered
    unfold assign
    split
    · next same => exact List.pairwise_cons.mpr ⟨fun entry h ↦ same ▸ below entry h, tail⟩
    · next different =>
      split
      · next less =>
        refine List.pairwise_cons.mpr ⟨fun entry h ↦ ?_, ordered⟩
        rcases List.mem_cons.mp h with h | h
        · exact h ▸ less
        · exact String.lt_trans less (below entry h)
      · next notLess =>
        refine List.pairwise_cons.mpr ⟨fun entry h ↦ ?_, ih tail⟩
        rcases mem_assign h with h | h
        · have le : name ≤ column := String.not_lt.mp notLess
          subst h
          exact Decidable.byContradiction fun notGreater ↦
            different (String.le_antisymm (String.not_lt.mp notGreater) le)
        · exact below entry h

/-- The values assigned to columns, ordered by column. -/
structure Payload where
  entries : List (String × String) := []
  ordered : entries.Pairwise (·.1 < ·.1) := by simp
deriving DecidableEq

namespace Payload

/-- The payload that assigns nothing. -/
def empty : Payload := {}

/-- Assigns a value to a column. -/
def insert (payload : Payload) (column value : String) : Payload :=
  ⟨assign column value payload.entries, pairwise_assign column value payload.ordered⟩

/-- Assigns one value after the other; a later one to the same column wins. -/
def ofList (assignments : List (String × String)) : Payload :=
  assignments.foldl (fun payload (column, value) ↦ payload.insert column value) empty

/-- The assigned columns in ascending order. -/
def columns (payload : Payload) : List String :=
  payload.entries.map Prod.fst

/-- The value assigned to a column. -/
def get? (payload : Payload) (column : String) : Option String :=
  payload.entries.lookup column

end Payload

end FlatTables
