import FlatTables.Fault
import FlatTables.Procedure

/-!
# Stages that report

Joining and filtering as parts of a run: the result is that of `Sheet.join` and `Sheet.filter`,
and an event tells how many rows went in and came out.
-/

set_option autoImplicit false
set_option relaxedAutoImplicit false

namespace FlatTables.Sheet

/-- Joins two sheets and reports the size of the result. -/
def joinReported (left right : Sheet) (column otherColumn : String) :
    Procedure (Except Fault Sheet) :=
  match left.join right column otherColumn with
  | .error unknown => return .error (.ofUnknownColumn unknown)
  | .ok joined => do
    Procedure.log (.joined left.name column right.name otherColumn left.rows.length
      right.rows.length joined.rows.length)
    return .ok joined

/-- Filters a sheet and reports how many rows are kept. -/
def filterReported (sheet : Sheet) (condition : Filter) : Procedure (Except Fault Sheet) :=
  match sheet.filter condition with
  | .error unknown => return .error (.ofUnknownColumn unknown)
  | .ok kept => do
    Procedure.log (.filtered condition sheet.name kept.rows.length sheet.rows.length)
    return .ok kept

end FlatTables.Sheet
