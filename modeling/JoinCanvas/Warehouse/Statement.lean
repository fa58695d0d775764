import JoinCanvas.Json.Fields
import JoinCanvas.Warehouse.Task

/-!
# Statements on a server

A statement that was submitted is in one of six states; it is running as long as the state is not final.  Its result
comes in chunks of rows; a chunk names the next one.  Each row is a list of cells, in the order of the columns.
-/

namespace JoinCanvas

open JoinCanvas.Json JoinCanvas.Json.Document

/-- The states of a statement. -/
inductive StatementState where
  | pending
  | running
  | succeeded
  | failed
  | canceled
  | closed
deriving DecidableEq, Repr, Inhabited

namespace StatementState

/-- The name of a state in messages. -/
def name : StatementState → String
  | pending => "Pending"
  | running => "Running"
  | succeeded => "Succeeded"
  | failed => "Failed"
  | canceled => "Canceled"
  | closed => "Closed"

/-- The state that a record names. -/
def ofCode? (code : String) : Option StatementState :=
  match code with
  | "PENDING" => some pending
  | "RUNNING" => some running
  | "SUCCEEDED" => some succeeded
  | "FAILED" => some failed
  | "CANCELED" => some canceled
  | "CLOSED" => some closed
  | _ => none

/-- Whether a statement in this state changes no more. -/
def isFinal : StatementState → Bool
  | pending | running => false
  | _ => true

end StatementState

/-- A part of a result: rows of cells, and the link to the next part. -/
structure Chunk where
  rows : List (List Value) := []
  next? : Option String := none
deriving Repr, Inhabited

/-- What the server says about a statement. -/
structure StatementReport where
  id : String
  state : StatementState
  message? : Option String := none
  columns : List String := []
  chunk? : Option Chunk := none
deriving Repr, Inhabited

/-- The chunk that a record holds. -/
def Chunk.ofDocument? (d : Document) : Option Chunk := do
  match ← d.fields? [["data_array"], ["next_chunk_internal_link"]] with
  | [rows, next] =>
    return ⟨← defaulting (asList? (asList? toValue?)) [] rows, ← defaulting (asOption? asString?) none next⟩
  | _ => none

/-- The one field of a record that has only one. -/
def onlyField? {α : Type} (key : String) (read : Option Document → Option α) (d : Document) : Option α := do
  match ← d.fields? [[key]] with
  | [field] => read field
  | _ => none

/-- The columns that a manifest lists. -/
def manifestColumns? (d : Document) : Option (List String) :=
  let names := asList? (onlyField? "name" (required asString?))
  onlyField? "schema" (required (onlyField? "columns" (defaulting names []))) d

/-- The state that a record holds, and the message of its error. -/
def statusOf? (d : Document) : Option (StatementState × Option String) := do
  match ← d.fields? [["state"], ["error"]] with
  | [state, error] =>
    let state ← required (asChoice? StatementState.ofCode?) state
    let message? ← defaulting (asOption? (onlyField? "message" (defaulting (asOption? asString?) none))) none error
    return (state, message?.join)
  | _ => none

/-- The report that a record holds. -/
def StatementReport.ofDocument? (d : Document) : Option StatementReport := do
  match ← d.fields? [["statement_id"], ["status"], ["manifest"], ["result"]] with
  | [id, status, manifest, result] =>
    let (state, message?) ← required statusOf? status
    return ⟨← required asString? id, state, message?,
      (← defaulting (asOption? manifestColumns?) none manifest).getD [],
      ← defaulting (asOption? Chunk.ofDocument?) none result⟩
  | _ => none

namespace StatementReport

/-- The fault of a statement that ended without a result. -/
def fault? (r : StatementReport) : Option Fault :=
  match r.state with
  | .failed | .canceled | .closed => some (.warehouse (r.message?.getD ("statement " ++ r.state.name)))
  | _ => none

end StatementReport

/-- A row: every column with its cell, or null when the row is too short.  Of columns with one name the last counts. -/
def rowOf (columns : List String) (cells : List Value) : Members :=
  ofMembers (columns.zip (cells ++ List.replicate columns.length .null))

/-- The rows of a chunk. -/
def Chunk.rowsFor (c : Chunk) (columns : List String) : List Members :=
  c.rows.map (rowOf columns)

end JoinCanvas
