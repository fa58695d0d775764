import JoinCanvas.Record.Model
import JoinCanvas.Stored.Basic

/-!
# Records of stored models

How stored edges, filters and models are written as JSON records and read from them.
-/

namespace JoinCanvas

open JoinCanvas.Json JoinCanvas.Json.Document

/-- The stored edge that a record holds. -/
def StoredEdge.ofDocument? (d : Document) : Option StoredEdge := do
  match ← d.fields? [["id"], ["fromTableId"], ["toTableId"], ["fromColumn"], ["toColumn"], ["joinType"],
      ["cardinality"]]
    with
  | [id, a, b, fromColumn, toColumn, joinType, cardinality] =>
    return ⟨← required asString? id, ← required asString? a, ← required asString? b,
      ← defaulting (asOption? asString?) none fromColumn, ← defaulting (asOption? asString?) none toColumn,
      ← defaulting (asChoice? JoinType.ofName?) .left joinType,
      ← defaulting (asChoice? Cardinality.ofName?) .oneToMany cardinality⟩
  | _ => none

/-- The record of a stored edge. -/
def StoredEdge.toValue (e : StoredEdge) : Value :=
  .record [("id", .string e.id), ("fromTableId", .string e.fromTable), ("toTableId", .string e.toTable),
    ("fromColumn", .optional e.fromColumn?), ("toColumn", .optional e.toColumn?),
    ("joinType", .string e.joinType.name), ("cardinality", .string e.cardinality.name)]

/-- Stored filters: a list of conditions, or a record of a hand-written query.  Every part of them must have a value,
also the parts that are passed over. -/
def StoredFilters.ofDocument? (d : Document) : Option StoredFilters :=
  let d := d.resolved
  if (toValue? d).isNone || d.depth ≥ Value.depthLimit then none
  else
    match d with
    | .array items => (items.mapM Condition.ofDocument?).map .conditions
    | .object members => do
      let isManual ← required asBool? (← single? ["isManual"] members)
      let sql ← defaulting asString? "" (← single? ["manualSql"] members)
      return .override isManual sql
    | _ => none

/-- The record of stored filters. -/
def StoredFilters.toValue : StoredFilters → Value
  | .conditions list => .array (list.map Condition.toValue)
  | .override isManual sql => .record [("isManual", .bool isManual), ("manualSql", .string sql)]

/-- The stored model that a record holds. -/
def StoredModel.ofDocument? (d : Document) : Option StoredModel := do
  match ← d.fields? [["id"], ["tables"], ["relationships"], ["filters"], ["isGroupByAll"], ["connectionId"]] with
  | [id, tables, edges, filters, groupByAll, connection] =>
    return ⟨← required asString? id, ← defaulting (asList? Table.ofDocument?) [] tables,
      ← defaulting (asList? StoredEdge.ofDocument?) [] edges,
      ← defaulting (asOption? StoredFilters.ofDocument?) none filters, ← defaulting asBool? false groupByAll,
      ← defaulting (asOption? asString?) none connection⟩
  | _ => none

/-- The record of a stored model. -/
def StoredModel.toValue (s : StoredModel) : Value :=
  .record [("id", .string s.id), ("tables", .array (s.tables.map Table.toValue)),
    ("relationships", .array (s.edges.map StoredEdge.toValue)),
    ("filters", (s.filters?.map StoredFilters.toValue).getD .null), ("isGroupByAll", .bool s.groupByAll),
    ("connectionId", .optional s.connection?)]

/-- The stored model that a JSON text writes. -/
def StoredModel.ofText? (text : String) : Option StoredModel :=
  (Document.read? text).bind StoredModel.ofDocument?

end JoinCanvas
