import JoinCanvas.Config.Settings
import JoinCanvas.Json.Reader
import JoinCanvas.Json.Text
import JoinCanvas.Text.Blank
import JoinCanvas.Text.Escaped
import JoinCanvas.Warehouse.Http
import JoinCanvas.Warehouse.Statement

/-!
# The warehouse behind a statement interface

Statements are submitted to a server and asked for until their state is final; then the chunks of the result are
fetched.  A statement that is given up before its state is final is cancelled.  The server knows no sessions, so
opening and closing them takes no request.
-/

namespace JoinCanvas

open JoinCanvas.Http JoinCanvas.Json

/-- What requests need to know: where the server is, what opens it, which warehouse runs the statements, and the
settings for waiting.  A request is given up after `requestTimeoutMs`. -/
structure ApiClient where
  baseUrl : String
  token : String
  warehouseId : String
  settings : WarehouseSettings
  requestTimeoutMs : Nat
deriving Repr, Inhabited

/-- The world of the warehouse: the server, the client, and the last report on each statement in the order in which
they were accepted. -/
structure ApiWorld where
  server : Server
  client : ApiClient := default
  reports : List StatementReport := []
deriving Repr, Inhabited

namespace StatementApi

/-- Where statements are found on the server. -/
def statementsPath : String := "/api/2.0/sql/statements"

/-- The address of a server; a host without a scheme is reached by the secure one. -/
def baseUrl (host : String) : String :=
  let host := String.ofList (Text.dropTrailing (· = '/') (Text.trim host.toList))
  if host.startsWith "http://" || host.startsWith "https://" then host else "https://" ++ host

/-- The identifier of a warehouse: the last part of its path. -/
def warehouseId? (path : String) : Option String :=
  let trimmed := Text.dropTrailing (· = '/') path.toList
  let last := String.ofList (trimmed.reverse.takeWhile (· != '/')).reverse
  if Text.allBlank last then none else some last

/-- The client for a connection. -/
def clientFor (config : Config) (c : Connection) : Except Fault ApiClient :=
  match warehouseId? c.httpPath with
  | none => .error (.noWarehouseId (Text.escapedText c.httpPath))
  | some warehouseId =>
    let settings := config.settingsFor c.id
    .ok ⟨baseUrl c.host, c.token, warehouseId, settings.warehouse, settings.query.timeoutMs⟩

/-- The fault of a request that was not answered, or not with what was asked for. -/
def requestFailed : Fault := .warehouse "databricks request failed"

/-- Sends a request. -/
def send (method : Method) (path : String) (body? : Option Value) : Task ApiWorld Response := do
  let world ← Task.world
  let request : Request := ⟨method, world.client.baseUrl ++ path, "Bearer " ++ world.client.token, body?⟩
  let (exchange?, server) := world.server.take request
  Task.change fun w => { w with server }
  match exchange? with
  | none => Task.fail requestFailed
  | some e =>
    if world.client.requestTimeoutMs ≤ e.delay then
      Task.wait world.client.requestTimeoutMs
      Task.fail requestFailed
    else
      Task.wait e.delay
      match e.response? with
      | some r => return r
      | none => Task.fail requestFailed

/-- Sends a request for a record. -/
def sendFor {α : Type} (read? : Document → Option α) (method : Method) (path : String) (body? : Option Value) :
    Task ApiWorld α := do
  let r ← send method path body?
  if r.isSuccess then
    match (Document.read? r.body).bind read? with
    | some a => return a
    | none => Task.fail requestFailed
  else Task.fail (.warehouse ("databricks returned " ++ statusText r.status ++ ": " ++ r.body))

/-- A number in decimal digits. -/
def digits (n : Nat) : String := String.ofList (Nat.toDigits 10 n)

/-- The record that submits a statement.  The server waits for its end between 5 and 50 seconds. -/
def submission (client : ApiClient) (sql : String) : Value :=
  .record [("statement", .string sql), ("warehouse_id", .string client.warehouseId),
    ("wait_timeout", .string (digits (max 5 (min 50 client.settings.waitTimeoutSecs)) ++ "s")),
    ("on_wait_timeout", .string "CONTINUE"), ("disposition", .string "INLINE"), ("format", .string "JSON_ARRAY")]

/-- Submits a statement; its number is the number of statements accepted before. -/
def execute (sql : String) : Task ApiWorld Nat := do
  let world ← Task.world
  let report ← sendFor StatementReport.ofDocument? .post statementsPath (some (submission world.client sql))
  Task.check report.fault?
  Task.change fun w => { w with reports := w.reports ++ [report] }
  return world.reports.length

/-- The last report on a statement, which is known by the identifier of the first one. -/
def latest (n : Nat) : Task ApiWorld StatementReport := do
  return (← Task.world).reports[n]?.getD default

/-- Asks for the state of a statement and keeps the report; the identifier stays the one the statement was accepted
with. -/
def poll (n : Nat) : Task ApiWorld StatementReport := do
  let known ← latest n
  let report ← sendFor StatementReport.ofDocument? .get (statementsPath ++ "/" ++ known.id) none
  let report := { report with id := known.id }
  Task.change fun w => { w with reports := w.reports.set n report }
  return report

/-- Waits until the state of a statement is final, asking for it at most so many times more. -/
def waitFor (n : Nat) : Nat → Nat → Task ApiWorld StatementReport
  | remaining, asked => do
    let report ← latest n
    if report.state.isFinal then
      Task.check report.fault?
      return report
    else
      match remaining with
      | 0 =>
        Task.fail (.warehouse ("statement " ++ report.id ++ " still " ++ report.state.name ++ " after " ++
          digits asked ++ " polls"))
      | remaining + 1 =>
        Task.wait (← Task.world).client.settings.pollIntervalMs
        let _ ← poll n
        waitFor n remaining (asked + 1)

/-- The report on a statement whose state is final. -/
def finalReport (n : Nat) : Task ApiWorld StatementReport := do
  waitFor n (← Task.world).client.settings.maxPollAttempts 0

/-- The rows of the chunks behind a link.  Each link takes a request, so no more of them can be followed than the
server has exchanges. -/
def followLinks (columns : List String) : Nat → Option String → Task ApiWorld (List Members)
  | _, none => return []
  | 0, some _ => Task.fail requestFailed
  | n + 1, some link => do
    let chunk ← sendFor Chunk.ofDocument? .get link none
    return chunk.rowsFor columns ++ (← followLinks columns n chunk.next?)

/-- The rows of the result of a statement. -/
def fetch (n : Nat) : Task ApiWorld (List Members) := do
  let report ← finalReport n
  match report.chunk? with
  | none => return []
  | some chunk =>
    let links := (← Task.world).server.exchanges.length + 1
    return chunk.rowsFor report.columns ++ (← followLinks report.columns links chunk.next?)

/-- Cancels a statement unless its state is final. -/
def close (n : Nat) : Task ApiWorld Unit := do
  let report ← latest n
  if report.state.isFinal then return ()
  else
    let r ← send .post (statementsPath ++ "/" ++ report.id ++ "/cancel") none
    if r.isSuccess then return ()
    else Task.fail (.warehouse ("cancel of statement " ++ report.id ++ " returned " ++ statusText r.status))

end StatementApi

/-- The warehouse behind a statement interface. -/
def statementApi (config : Config) : Warehouse ApiWorld Nat where
  connect c :=
    match StatementApi.clientFor config c with
    | .error f => Task.fail f
    | .ok client => Task.change fun w => { w with client }
  openSession := return ()
  execute := StatementApi.execute
  fetch := StatementApi.fetch
  schema n := do return (← StatementApi.finalReport n).columns
  closeOperation := StatementApi.close
  closeSession := return ()
  closeClient := return ()

end JoinCanvas
