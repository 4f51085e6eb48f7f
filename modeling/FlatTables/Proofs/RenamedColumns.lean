import FlatTables.Proofs.JoinedHeaders
import FlatTables.Proofs.NamedColumns
import Mathlib.Logic.Relation
import Mathlib.Order.Bounds.Basic

/-!
# Renamed columns

A join takes over the names of the right columns one by one. A name that is taken gets a suffix, and
is looked at again. Nothing bounds how often this happens, and a name that was made so may be in the
way of a later one that has the suffix already. `Renaming.Turn` is one turn of this loop. Every turn
brings the waiting name past one more taken name, or there is one name less to wait, so the turns
come to an end (`Renaming.wellFounded_turn`), and they lead to the header of the join and to no
other (`Renaming.run_ends_iff`).

Each right column has its own name there with the fewest suffixes that make it differ from all names
before it (`Sheet.joinHeader_leastSuffixes`). The names after it differ from it in turn
(`Sheet.exists_joinHeader_eq`). So it comes once, and denotes its own column.
-/

set_option autoImplicit false
set_option relaxedAutoImplicit false

namespace FlatTables

namespace Sheet

/-! ### The fewest suffixes -/

/-- A name with a number of suffixes behind it. -/
def withSuffixes (name : String) (count : Nat) : String :=
  name ++ String.join (List.replicate count joinSuffix)

theorem withSuffixes_zero (name : String) : withSuffixes name 0 = name :=
  String.append_empty

theorem withSuffixes_succ (name : String) (count : Nat) :
    withSuffixes name (count + 1) = withSuffixes (name ++ joinSuffix) count := by
  rw [withSuffixes, withSuffixes, List.replicate_succ, String.join_cons, String.append_assoc]

theorem exists_suffixed (taken : List String) (tries : Nat) :
    ∀ name, ∃ count, suffixed taken tries name = withSuffixes name count ∧
      ∀ fewer < count, withSuffixes name fewer ∈ taken := by
  induction tries with
  | zero =>
    exact fun name ↦ ⟨0, (withSuffixes_zero name).symm, fun _ h ↦ absurd h (Nat.not_lt_zero _)⟩
  | succ tries ih =>
    intro name
    by_cases hname : name ∈ taken
    · obtain ⟨count, hcount, hfewer⟩ := ih (name ++ joinSuffix)
      refine ⟨count + 1, ?_, fun fewer hless ↦ ?_⟩
      · rw [suffixed, if_pos (List.contains_iff_mem.mpr hname), hcount, withSuffixes_succ]
      · cases fewer with
        | zero => rwa [withSuffixes_zero]
        | succ fewer =>
          rw [withSuffixes_succ]
          exact hfewer fewer (Nat.lt_of_succ_lt_succ hless)
    · refine ⟨0, ?_, fun _ h ↦ absurd h (Nat.not_lt_zero _)⟩
      rw [suffixed, if_neg (mt List.contains_iff_mem.mp hname), withSuffixes_zero]

/-- A fresh name has the fewest suffixes with which it is not taken. -/
theorem exists_isLeast_freshName (taken : List String) (name : String) :
    ∃ count, freshName taken name = withSuffixes name count ∧
      IsLeast {count | withSuffixes name count ∉ taken} count := by
  obtain ⟨count, hcount, hfewer⟩ := exists_suffixed taken taken.length name
  refine ⟨count, hcount, ?_, fun other hother ↦ ?_⟩
  · have hfree := freshName_notMem taken name
    rwa [freshName, hcount] at hfree
  · exact Nat.not_lt.mp fun hless ↦ hother (hfewer other hless)

theorem freshName_of_notMem {taken : List String} {name : String} (hname : name ∉ taken) :
    freshName taken name = name := by
  obtain ⟨count, hcount, -, hleast⟩ := exists_isLeast_freshName taken name
  have hzero : withSuffixes name 0 ∉ taken := by rwa [withSuffixes_zero]
  rw [hcount, Nat.le_zero.mp (hleast hzero), withSuffixes_zero]

/-- A taken name and the one with a suffix more lead to the same fresh name. -/
theorem freshName_append {taken : List String} {name : String} (hname : name ∈ taken) :
    freshName taken (name ++ joinSuffix) = freshName taken name := by
  obtain ⟨count, hcount, hfree, hleast⟩ := exists_isLeast_freshName taken name
  obtain ⟨further, hfurther, hbeyond, hnearest⟩ :=
    exists_isLeast_freshName taken (name ++ joinSuffix)
  have hnext : withSuffixes name (further + 1) ∉ taken := by rwa [withSuffixes_succ]
  cases count with
  | zero =>
    have hfirst : withSuffixes name 0 ∉ taken := hfree
    exact absurd hname (by rwa [withSuffixes_zero] at hfirst)
  | succ count =>
    have hrest : withSuffixes (name ++ joinSuffix) count ∉ taken := by
      rwa [← withSuffixes_succ]
    have hsame : further = count :=
      Nat.le_antisymm (hnearest hrest) (Nat.le_of_succ_le_succ (hleast hnext))
    rw [hfurther, hcount, hsame, withSuffixes_succ]

/-! ### Places in the joined header -/

/-- The names that are added to those placed all differ from them. -/
theorem exists_joinHeader_append (right : List String) :
    ∀ placed : List String, ∃ added, joinHeader placed right = placed ++ added ∧
      ∀ name ∈ added, name ∉ placed := by
  induction right with
  | nil =>
    exact fun placed ↦ ⟨[], (List.append_nil placed).symm, fun _ h ↦ absurd h List.not_mem_nil⟩
  | cons name right ih =>
    intro placed
    obtain ⟨added, hadded, hnew⟩ := ih (placed ++ [freshName placed name])
    refine ⟨freshName placed name :: added, ?_, fun other hother ↦ ?_⟩
    · rw [List.append_cons]
      exact hadded
    · rcases List.mem_cons.mp hother with rfl | hother
      · exact freshName_notMem placed name
      · exact fun hmem ↦ hnew other hother (List.mem_append_left _ hmem)

theorem isPrefix_joinHeader (left right : List String) : left <+: joinHeader left right := by
  obtain ⟨added, hadded, -⟩ := exists_joinHeader_append right left
  exact ⟨added, hadded.symm⟩

/-- A right column has the fresh name for what is placed before it, and no name after it is the
same. -/
theorem exists_joinHeader_eq (left : List String) {right : List String} {place : Nat}
    {name : String} (hname : right[place]? = some name) :
    ∃ placed later, joinHeader left right = placed ++ freshName placed name :: later ∧
      placed.length = left.length + place ∧ freshName placed name ∉ later := by
  obtain ⟨hplace, rfl⟩ := List.getElem?_eq_some_iff.mp hname
  let placed := joinHeader left (right.take place)
  have hlength : placed.length = left.length + place := by
    rw [length_joinHeader, List.length_take, Nat.min_eq_left (Nat.le_of_lt hplace)]
  have hright : joinHeader left right =
      joinHeader (placed ++ [freshName placed right[place]]) (right.drop (place + 1)) := by
    conv_lhs => rw [← List.take_append_drop place right, List.drop_eq_getElem_cons hplace]
    exact List.foldl_append
  obtain ⟨later, hlater, hnew⟩ := exists_joinHeader_append (right.drop (place + 1))
    (placed ++ [freshName placed right[place]])
  refine ⟨placed, later, ?_, hlength, fun hmem ↦ hnew _ hmem (by simp)⟩
  rw [hright, hlater, List.append_assoc, List.singleton_append]

/-- A left column keeps its place. -/
theorem idxOf_joinHeader {left right : List String} {column : String} (hcolumn : column ∈ left) :
    (joinHeader left right).idxOf column = left.idxOf column := by
  obtain ⟨added, hadded, -⟩ := exists_joinHeader_append right left
  rw [hadded, List.idxOf_append_of_mem hcolumn]

/-- A name that comes for the first time behind some others denotes the column behind them. -/
theorem columnIndex_of_header_eq {sheet : Sheet} {placed later : List String} {name : String}
    (hsheet : sheet.header = placed ++ name :: later) (hname : name ∉ placed) :
    sheet.columnIndex name = .ok placed.length := by
  have hcolumn : name ∈ sheet.header := by
    rw [hsheet]
    exact List.mem_append_right _ List.mem_cons_self
  rw [columnIndex_of_mem hcolumn, hsheet, List.idxOf_append_of_notMem hname, List.idxOf_cons_self,
    Nat.add_zero]

theorem nodup_foldl_joinHeader (others : List (List String)) :
    ∀ {header : List String}, header.Nodup → (others.foldl joinHeader header).Nodup := by
  induction others with
  | nil => exact fun hheader ↦ hheader
  | cons other others ih => exact fun hheader ↦ ih (nodup_joinHeader other hheader)

end Sheet

/-! ### The loop -/

/-- A renaming under way: the names that are placed and those that wait, the first of these with
the suffixes that it got so far. -/
structure Renaming where
  placed : List String
  waiting : List String

namespace Renaming

open Sheet

/-- One turn of the loop. The first waiting name gets a suffix if it is taken, and is placed if
not. -/
inductive Turn : Renaming → Renaming → Prop
  | lengthen {placed waiting : List String} {name : String} (htaken : name ∈ placed) :
      Turn ⟨placed, name :: waiting⟩ ⟨placed, (name ++ joinSuffix) :: waiting⟩
  | place {placed waiting : List String} {name : String} (hfree : name ∉ placed) :
      Turn ⟨placed, name :: waiting⟩ ⟨placed ++ [name], waiting⟩

/-- How many names wait, and how many taken ones the first of them may still meet. -/
def rank : Renaming → Nat × Nat
  | ⟨_, []⟩ => (0, 0)
  | ⟨placed, name :: waiting⟩ => (waiting.length + 1, (ahead placed name).length)

theorem rank_lt_of_turn {before after : Renaming} (hturn : Turn before after) :
    Prod.Lex (· < ·) (· < ·) after.rank before.rank := by
  cases hturn with
  | lengthen htaken => exact .right _ (length_ahead_suffixed_lt htaken)
  | @place placed waiting name hfree =>
    refine .left _ _ ?_
    cases waiting with
    | nil => exact Nat.succ_pos 0
    | cons next waiting => exact Nat.lt_succ_self _

/-- There is no endless sequence of turns. -/
theorem wellFounded_turn : WellFounded fun after before ↦ Turn before after :=
  Subrelation.wf rank_lt_of_turn (InvImage.wf rank (Prod.lex Nat.lt_wfRel Nat.lt_wfRel).wf)

/-- A turn leaves the header that the names will make as it is. -/
theorem joinHeader_eq_of_turn {before after : Renaming} (hturn : Turn before after) :
    joinHeader before.placed before.waiting = joinHeader after.placed after.waiting := by
  cases hturn with
  | @lengthen placed waiting name htaken =>
    change joinHeader (placed ++ [freshName placed name]) waiting =
      joinHeader (placed ++ [freshName placed (name ++ joinSuffix)]) waiting
    rw [freshName_append htaken]
  | @place placed waiting name hfree =>
    change joinHeader (placed ++ [freshName placed name]) waiting = _
    rw [freshName_of_notMem hfree]

theorem joinHeader_eq_of_run {before after : Renaming}
    (hrun : Relation.ReflTransGen Turn before after) :
    joinHeader before.placed before.waiting = joinHeader after.placed after.waiting := by
  induction hrun with
  | refl => rfl
  | tail _ hturn ih => exact ih.trans (joinHeader_eq_of_turn hturn)

/-- As long as a name waits there is a next turn, so the turns lead to where none waits. -/
theorem exists_run (start : Renaming) :
    ∃ header, Relation.ReflTransGen Turn start ⟨header, []⟩ := by
  induction start using wellFounded_turn.induction with
  | h start ih =>
    obtain ⟨placed, waiting⟩ := start
    cases waiting with
    | nil => exact ⟨placed, .refl⟩
    | cons name waiting =>
      by_cases hname : name ∈ placed
      · obtain ⟨header, hrun⟩ := ih _ (.lengthen hname)
        exact ⟨header, hrun.head (.lengthen hname)⟩
      · obtain ⟨header, hrun⟩ := ih _ (.place hname)
        exact ⟨header, hrun.head (.place hname)⟩

/-- The loop makes the header of the join and no other. -/
theorem run_ends_iff {left right header : List String} :
    Relation.ReflTransGen Turn ⟨left, right⟩ ⟨header, []⟩ ↔ header = joinHeader left right := by
  have hends : ∀ {other}, Relation.ReflTransGen Turn ⟨left, right⟩ ⟨other, []⟩ →
      other = joinHeader left right := fun hrun ↦ (joinHeader_eq_of_run hrun).symm
  constructor
  · exact hends
  · rintro rfl
    obtain ⟨other, hrun⟩ := exists_run ⟨left, right⟩
    rwa [hends hrun] at hrun

end Renaming

namespace Sheet

/-! ### The names of the right columns -/

/-- The renaming of the right columns comes to an end, whatever the two headers are, and makes one
header. This has all columns, the left ones first and unchanged. A right column has its own name
with the fewest suffixes that make it differ from every name before it. The name comes once in the
header and denotes this column. If no left name comes twice then no name of the header does, and
joining it with further headers does not change that. -/
theorem joinHeader_leastSuffixes (left right : List String) :
    Acc (fun after before ↦ Renaming.Turn before after) ⟨left, right⟩ ∧
    (∀ header, Relation.ReflTransGen Renaming.Turn ⟨left, right⟩ ⟨header, []⟩ ↔
      header = joinHeader left right) ∧
    (joinHeader left right).length = left.length + right.length ∧
    left <+: joinHeader left right ∧
    (∀ (place : Nat) (name : String), right[place]? = some name → ∃ count,
      (joinHeader left right)[left.length + place]? = some (withSuffixes name count) ∧
      IsLeast {count | withSuffixes name count ∉
        (joinHeader left right).take (left.length + place)} count ∧
      (joinHeader left right).count (withSuffixes name count) = 1 ∧
      ∀ sheet : Sheet, sheet.header = joinHeader left right →
        sheet.columnIndex (withSuffixes name count) = .ok (left.length + place)) ∧
    (left.Nodup → ∀ others : List (List String),
      (others.foldl joinHeader (joinHeader left right)).Nodup) := by
  refine ⟨Renaming.wellFounded_turn.apply _, fun _ ↦ Renaming.run_ends_iff,
    length_joinHeader right left, isPrefix_joinHeader left right, fun place name hname ↦ ?_,
    fun hleft others ↦ nodup_foldl_joinHeader others (nodup_joinHeader right hleft)⟩
  obtain ⟨placed, later, hheader, hplaced, hlater⟩ := exists_joinHeader_eq left hname
  obtain ⟨count, hcount, hleast⟩ := exists_isLeast_freshName placed name
  have hbefore : withSuffixes name count ∉ placed := hleast.1
  rw [hcount] at hheader hlater
  refine ⟨count, ?_, ?_, ?_, fun sheet hsheet ↦ ?_⟩
  · simp [hheader, ← hplaced]
  · rwa [hheader, List.take_left' hplaced]
  · rw [hheader, List.count_append, List.count_cons_self, List.count_eq_zero.mpr hbefore,
      List.count_eq_zero.mpr hlater]
  · rw [← hplaced]
    exact columnIndex_of_header_eq (hsheet.trans hheader) hbefore

/-- The first right column takes the name that the second one would get by a single suffix. -/
theorem joinHeader_leastSuffixes_suffixedBefore :
    let left := ["id", "id_right"]
    let right := ["id", "id_right", "id"]
    left.Nodup ∧ right[1]? = some "id_right" ∧
      joinHeader left right = ["id", "id_right", "id_right_right", "id_right_right_right",
        "id_right_right_right_right"] ∧
      (∃ count, withSuffixes "id_right" count = "id_right_right_right" ∧
        IsLeast {count | withSuffixes "id_right" count ∉ ["id", "id_right", "id_right_right"]}
          count) ∧
      (∀ sheet : Sheet, sheet.header = joinHeader left right →
        sheet.columnIndex "id_right_right_right" = .ok 3) ∧
      ([right, left].foldl joinHeader (joinHeader left right)).Nodup := by
  intro left right
  have hleft : left.Nodup := by decide
  have hname : right[1]? = some "id_right" := rfl
  have hheader : joinHeader left right = ["id", "id_right", "id_right_right",
      "id_right_right_right", "id_right_right_right_right"] := by decide
  obtain ⟨-, -, -, -, hplaces, hnodup⟩ := joinHeader_leastSuffixes left right
  obtain ⟨count, hcount, hleast, -, hindex⟩ := hplaces 1 "id_right" hname
  rw [hheader] at hcount hleast
  have hsuffixed : "id_right_right_right" = withSuffixes "id_right" count :=
    Option.some.inj hcount
  rw [← hsuffixed] at hindex
  exact ⟨hleft, hname, hheader, ⟨count, hsuffixed.symm, hleast⟩, hindex, hnodup hleft _⟩

end Sheet

end FlatTables
