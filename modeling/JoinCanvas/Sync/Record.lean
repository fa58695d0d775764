import JoinCanvas.Record.Model
import JoinCanvas.Sync.Basic

/-!
# Records of syncs

How the result of reading a hand-written query is written as a JSON record.
-/

namespace JoinCanvas

open JoinCanvas.Json

/-- The record of the columns of one table. -/
def TableSelection.toValue (s : TableSelection) : Value :=
  .record [("tableId", .string s.table), ("columns", .array (s.columns.map Selection.toValue))]

/-- The record of a sync. -/
def Sync.toValue (y : Sync) : Value :=
  .record [("selections", .array (y.selections.map TableSelection.toValue)),
    ("selectionsComplete", .bool y.selectionsComplete), ("filters", .array (y.conditions.map Condition.toValue)),
    ("filtersComplete", .bool y.filtersComplete), ("groupByAll", .bool y.groupByAll),
    ("unsupported", .array (y.unsupported.map fun u => .string u.text))]

end JoinCanvas
