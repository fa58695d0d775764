import JoinCanvas.Cardinality.Validation
import JoinCanvas.Record.Model

/-!
# Records of measurements

How physical tables, statistics and validations are written as JSON records and read from them.
-/

namespace JoinCanvas

open JoinCanvas.Json JoinCanvas.Json.Document

/-- The physical table that a record names. -/
def Locator.ofDocument? (d : Document) : Option Locator := do
  match ← d.fields? [["name"], ["schema"]] with
  | [name, schema] => return ⟨← required asString? name, ← defaulting (asOption? asString?) none schema⟩
  | _ => none

/-- The statistics that a record holds. -/
def SideStats.ofDocument? (d : Document) : Option SideStats := do
  match ← d.fields? [["totalRows"], ["distinctKeys"]] with
  | [total, distinct] => return ⟨← required asCount? total, ← required asCount? distinct⟩
  | _ => none

/-- The record of the statistics of a side. -/
def SideStats.toValue (s : SideStats) : Value :=
  .record [("totalRows", .integer s.totalRows), ("distinctKeys", .integer s.distinctKeys)]

/-- The record of what was measured of one join. -/
def EdgeValidation.toValue (v : EdgeValidation) : Value :=
  .record [("source", v.source.toValue), ("target", v.target.toValue), ("detectedCardinality", .string v.detected.name)]

/-- The record of what was measured of an edge. -/
def EdgeReport.toValue (r : EdgeReport) : Value :=
  .record [("edgeId", .string r.edge), ("fromTableId", .string r.fromTable), ("toTableId", .string r.toTable),
    ("source", r.source.toValue), ("target", r.target.toValue), ("currentCardinality", .string r.current.name),
    ("detectedCardinality", .string r.detected.name)]

/-- A member for a list, unless the list is empty. -/
def memberOfList (key : String) (items : List Value) : Members :=
  if items.isEmpty then [] else [(key, .array items)]

/-- The record of what was measured of a canvas.  Lists of skipped edges and of warnings stand in it only if they
hold something. -/
def Validation.toValue (v : Validation) : Value :=
  .record ([("issues", .array (v.issues.map EdgeReport.toValue)),
    ("reports", .array (v.reports.map EdgeReport.toValue)),
      ("validated", .bool true)] ++
    memberOfList "skipped" (v.skipped.map Value.string) ++ memberOfList "warnings" (v.warnings.map Warning.toValue))

/-- The edges of a validation for which the canvas says something else than was found. -/
def Validation.mismatched (v : Validation) : List String :=
  (v.reports.filter EdgeReport.isMismatch).map (·.edge)

end JoinCanvas
