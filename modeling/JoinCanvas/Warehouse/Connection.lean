import JoinCanvas.Json.Fields

/-!
# Connections

Where a warehouse is found and what opens it.
-/

namespace JoinCanvas

open JoinCanvas.Json JoinCanvas.Json.Document

/-- A connection to a warehouse. -/
structure Connection where
  id : String
  host : String
  httpPath : String
  token : String
deriving DecidableEq, Repr, Inhabited

/-- The connection that a record holds. -/
def Connection.ofDocument? (d : Document) : Option Connection := do
  match ← d.fields? [["id"], ["host"], ["httpPath", "path"], ["token"]] with
  | [id, host, path, token] =>
    return ⟨← required asString? id, ← required asString? host, ← required asString? path, ← required asString? token⟩
  | _ => none

/-- The record of a connection. -/
def Connection.toValue (c : Connection) : Value :=
  .record [("id", .string c.id), ("host", .string c.host), ("httpPath", .string c.httpPath), ("token", .string c.token)]

end JoinCanvas
