import JoinCanvas.Warehouse.Task

/-!
# Sessions

A session opens a client and a session on it, runs queries one after another, and is given up in the end: what is
still held is closed, the running statement first, then the session, then the client.  Each of these is given up
before its close is called, so nothing is closed twice, also when a close fails or is cut off.

A query that is cut off leaves its statement running; the session closes it with the rest.
-/

namespace JoinCanvas

open JoinCanvas.Json

/-- The result of a query: the names of its columns, and its rows. -/
structure QueryResult where
  columns : List String
  rows : List Members
deriving Repr, Inhabited

namespace Session

variable {σ ω α : Type}

/-- Opens a client and a session on it.  When the session does not open the client is closed again. -/
def start (w : Warehouse σ ω) (connection : Connection) : Work σ ω Unit := do
  Work.call (.connect connection.id) (w.connect connection)
  match ← Work.attempt (Work.call .openSession w.openSession) with
  | .ok _ => Work.hold fun _ => { session := true, client := true }
  | .error f =>
    let _ ← Work.attempt (Work.call .closeClient w.closeClient)
    Work.fail f

/-- The rows of an accepted statement and then its columns. -/
def result (w : Warehouse σ ω) (r : Running ω) : Work σ ω QueryResult := do
  let rows ← Work.call (.fetch r.number) (w.fetch r.operation)
  let columns ← Work.call (.schema r.number) (w.schema r.operation)
  return ⟨columns, rows⟩

/-- Runs a query.  Its statement is closed whether or not its result could be read; a fault of the close is passed
over. -/
def query (w : Warehouse σ ω) (sql : String) : Work σ ω QueryResult := do
  let operation ← Work.call (.execute sql) (w.execute sql)
  let r : Running ω := ⟨← Work.accept, operation⟩
  Work.hold fun h => { h with operation? := some r }
  let outcome ← Work.attempt (result w r)
  Work.hold fun h => { h with operation? := none }
  let _ ← Work.attempt (Work.call (.closeOperation r.number) (w.closeOperation operation))
  Work.ofExcept outcome

/-- Gives up the running statement. -/
def closeOperation (w : Warehouse σ ω) : Work σ ω Unit := do
  match (← Work.held).operation? with
  | some r =>
    Work.hold fun h => { h with operation? := none }
    Work.call (.closeOperation r.number) (w.closeOperation r.operation)
  | none => return ()

/-- Gives up the session. -/
def closeSession (w : Warehouse σ ω) : Work σ ω Unit := do
  if (← Work.held).session then
    Work.hold fun h => { h with session := false }
    Work.call .closeSession w.closeSession
  else return ()

/-- Gives up the client. -/
def closeClient (w : Warehouse σ ω) : Work σ ω Unit := do
  if (← Work.held).client then
    Work.hold fun h => { h with client := false }
    Work.call .closeClient w.closeClient
  else return ()

/-- Gives up all that is held; the first fault counts, but nothing is left out for it. -/
def closeAll (w : Warehouse σ ω) : Work σ ω (Except Fault Unit) := do
  let first ← Work.attempt (closeOperation w)
  let second ← Work.attempt (closeSession w)
  let third ← Work.attempt (closeClient w)
  return do first; second; third

/-- Gives up the session and hands on the outcome of the work.  A fault of the closing counts only when the work
itself went well. -/
def finish (w : Warehouse σ ω) (outcome : Except Fault α) : Work σ ω α := do
  let closed ← closeAll w
  match outcome, closed with
  | .ok a, .ok _ => return a
  | .ok _, .error f => Work.fail f
  | .error f, _ => Work.fail f

/-- Gives up a session that nobody waits for: all that is held is closed in the background. -/
def abandon (w : Warehouse σ ω) (c : Course σ ω) : Course σ ω :=
  (closeAll w { c with scene := { c.scene with left? := none } }).2

end Session

end JoinCanvas
