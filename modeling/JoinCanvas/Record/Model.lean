import JoinCanvas.Compile
import JoinCanvas.Record.Edge
import JoinCanvas.Record.Table

/-!
# Records of models

How filters, warnings, models and compiled queries are written as JSON records and read from them.
-/

namespace JoinCanvas

open JoinCanvas.Json JoinCanvas.Json.Document

/-- The condition that a record holds. -/
def Condition.ofDocument? (d : Document) : Option Condition := do
  match ← d.fields? [["tableId"], ["column"], ["operator"], ["value"]] with
  | [table, column, operator, value] =>
    return ⟨← required asString? table, ← required asString? column,
      FilterOp.ofName (← required asString? operator), ← defaulting toValue? .null value⟩
  | _ => none

/-- The record of a condition. -/
def Condition.toValue (c : Condition) : Value :=
  .record [("tableId", .string c.table), ("column", .string c.column), ("operator", .string c.operator.name),
    ("value", c.value)]

/-- The filters that a record holds: conditions or a hand-written query, under the one member that says which. -/
def Filters.ofDocument? (d : Document) : Option Filters := do
  match d with
  | .object [(some "conditions", d)] => return .conditions (← asList? Condition.ofDocument? d)
  | .object [(some "manual", d)] =>
    match ← d.fields? [["sql"]] with
    | [sql] => return .manual (← required asString? sql)
    | _ => none
  | _ => none

/-- The record of filters. -/
def Filters.toValue : Filters → Value
  | .conditions list => .record [("conditions", .array (list.map Condition.toValue))]
  | .manual sql => .record [("manual", .record [("sql", .string sql)])]

/-- The warning that a record holds; its kind says which members it has. -/
def Warning.ofDocument? (d : Document) : Option Warning := do
  match d with
  | .object members =>
    let member (name : String) : Option String := do required asString? (← single? [name] members)
    match ← member "kind" with
    | "undecodable_composite_key" => return .unreadableKey (← member "edge_id") (← member "error")
    | "dangling_edge" => return .danglingEdge (← member "edge_id") (← member "table_id")
    | "redundant_edge" => return .redundantEdge (← member "edge_id")
    | "cross_joined_table" => return .crossJoinedTable (← member "table_id")
    | _ => none
  | _ => none

/-- The members of a warning, without its text. -/
def Warning.members : Warning → Members
  | .unreadableKey edge error =>
    [("kind", .string "undecodable_composite_key"), ("edge_id", .string edge), ("error", .string error)]
  | .danglingEdge edge table =>
    [("kind", .string "dangling_edge"), ("edge_id", .string edge), ("table_id", .string table)]
  | .redundantEdge edge => [("kind", .string "redundant_edge"), ("edge_id", .string edge)]
  | .crossJoinedTable table => [("kind", .string "cross_joined_table"), ("table_id", .string table)]

/-- The record of a warning, with its text. -/
def Warning.toValue (w : Warning) : Value :=
  .record (("text", .string w.text) :: w.members)

/-- The model that a record holds. -/
def Model.ofDocument? (d : Document) : Option Model := do
  match ← d.fields? [["id"], ["tables"], ["edges"], ["filters"], ["groupByAll"], ["connectionId"], ["warnings"]] with
  | [id, tables, edges, filters, groupByAll, connection, warnings] =>
    return ⟨← required asString? id, ← defaulting (asList? Table.ofDocument?) [] tables,
      ← defaulting (asList? Edge.ofDocument?) [] edges, ← defaulting Filters.ofDocument? (.conditions []) filters,
      ← defaulting asBool? false groupByAll, ← defaulting (asOption? asString?) none connection,
      ← defaulting (asList? Warning.ofDocument?) [] warnings⟩
  | _ => none

/-- The record of a model. -/
def Model.toValue (m : Model) : Value :=
  .record [("id", .string m.id), ("tables", .array (m.tables.map Table.toValue)),
    ("edges", .array (m.edges.map Edge.toValue)), ("filters", m.filters.toValue), ("groupByAll", .bool m.groupByAll),
    ("connectionId", .optional m.connection?), ("warnings", .array (m.warnings.map Warning.toValue))]

/-- The record of a compiled query. -/
def Compiled.toValue (c : Compiled) : Value :=
  .record [("sql", .string c.sql), ("unjoined", .array (c.unjoined.map Value.string)),
    ("warnings", .array (c.warnings.map Warning.toValue))]

end JoinCanvas
