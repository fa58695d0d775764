import JoinCanvas.Json.Fields
import JoinCanvas.Model.Table

/-!
# Records of tables

How columns, selections and tables are written as JSON records and read from them.
-/

namespace JoinCanvas

open JoinCanvas.Json JoinCanvas.Json.Document

/-- The column that a record holds. -/
def Column.ofDocument? (d : Document) : Option Column := do
  match ← d.fields? [["name"], ["dataType"]] with
  | [name, dataType] => return ⟨← required asString? name, ← defaulting asString? "" dataType⟩
  | _ => none

/-- The record of a column. -/
def Column.toValue (c : Column) : Value :=
  .record [("name", .string c.name), ("dataType", .string c.dataType)]

/-- The selection that a record holds. -/
def Selection.ofDocument? (d : Document) : Option Selection := do
  match ← d.fields? [["column"], ["aggregation"], ["alias"], ["hidden"]] with
  | [column, aggregation, name, hidden] =>
    return ⟨← required asString? column, ← defaulting (asChoice? Aggregation.ofName?) .none aggregation,
      ← defaulting (asOption? asString?) none name, ← defaulting asBool? false hidden⟩
  | _ => none

/-- The record of a selection. -/
def Selection.toValue (s : Selection) : Value :=
  .record [("column", .string s.column), ("aggregation", .string s.aggregation.name),
    ("alias", .optional s.alias?), ("hidden", .bool s.hidden)]

/-- The table that a record holds. -/
def Table.ofDocument? (d : Document) : Option Table := do
  match ← d.fields? [["id"], ["name"], ["schema"], ["alias"], ["columns"], ["selectedColumns"]] with
  | [id, name, schema, label, columns, selections] =>
    return ⟨← required asString? id, ← defaulting asString? "" name, ← defaulting (asOption? asString?) none schema,
      ← defaulting (asOption? asString?) none label, ← defaulting (asList? Column.ofDocument?) [] columns,
      ← defaulting (asList? Selection.ofDocument?) [] selections⟩
  | _ => none

/-- The record of a table. -/
def Table.toValue (t : Table) : Value :=
  .record [("id", .string t.id), ("name", .string t.name), ("schema", .optional t.schema?),
    ("alias", .optional t.label?), ("columns", .array (t.columns.map Column.toValue)),
    ("selectedColumns", .array (t.selections.map Selection.toValue))]

end JoinCanvas
