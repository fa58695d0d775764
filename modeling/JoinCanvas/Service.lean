import JoinCanvas.Cardinality.Validation
import JoinCanvas.Compile
import JoinCanvas.Config.Settings
import JoinCanvas.Store.Basic

/-!
# Requests

What can be asked about the models of a store: to compile one, to run one on its warehouse, and to measure the edges
of one.  Running is the one request that shows the query it attempted when it fails.
-/

namespace JoinCanvas

variable {σ ω : Type}

/-- The result of running a model. -/
structure ExecutionResult where
  sql : String
  columns : List String
  rows : List Json.Members
  warnings : List Warning
deriving Repr, Inhabited

/-- Why a model was not run. -/
inductive ExecutionFault where
  | noConnection
  | noTables
  | fault (f : Fault)
deriving DecidableEq, Repr, Inhabited

/-- The fault in words. -/
def ExecutionFault.message : ExecutionFault → String
  | .noConnection => "model has no warehouse connection"
  | .noTables => "model has no tables to query"
  | .fault f => f.message

/-- A model that was not run: why, and the query that was attempted, if it came to that. -/
structure ExecutionFailure where
  cause : ExecutionFault
  sql? : Option String := none
deriving DecidableEq, Repr, Inhabited

namespace Service

/-- Compiles a model of a store. -/
def compile (store : Store) (id : String) (complaint : Complaint := fun _ => none) : Except Fault (Option Compiled) :=
  (store.model id).map fun s => (s.model complaint).compile?

/-- Runs a query on a connection of a store, in a session of its own. -/
def runSql (w : Warehouse σ ω) (store : Store) (connection sql : String) : Work σ ω QueryResult := do
  let record ← Work.ofExcept (store.connection connection)
  Validator.inSession w record (Session.query w sql)

/-- Runs a query within the time limit.  When the time is up the session is abandoned. -/
def runWithin (w : Warehouse σ ω) (store : Store) (connection sql : String) (limit : Nat) (c : Course σ ω) :
    Except Fault QueryResult × Course σ ω :=
  match Work.within (some limit) (runSql w store connection sql) c with
  | (some result, c) => (result, c)
  | (none, c) => (.error (.timedOut limit), Session.abandon w c)

/-- Compiles a model with the limit that holds for its connection, and runs it. -/
def execute (w : Warehouse σ ω) (config : Config) (store : Store) (m : Model) (requested : Option Nat)
    (c : Course σ ω) :
    Except ExecutionFailure ExecutionResult × Course σ ω :=
  match m.connection? with
  | none => (.error ⟨.noConnection, none⟩, c)
  | some connection =>
    let settings := (config.settingsFor connection).query
    match m.compileWithLimit? (settings.effectiveLimit requested) with
    | none => (.error ⟨.noTables, none⟩, c)
    | some compiled =>
      match runWithin w store connection compiled.sql settings.timeoutMs c with
      | (.ok result, c) => (.ok ⟨compiled.sql, result.columns, result.rows, compiled.warnings⟩, c)
      | (.error f, c) => (.error ⟨.fault f, some compiled.sql⟩, c)

/-- Runs a model of a store. -/
def executeStored (w : Warehouse σ ω) (config : Config) (store : Store) (id : String) (requested : Option Nat)
    (c : Course σ ω) (complaint : Complaint := fun _ => none) :
    Except ExecutionFailure ExecutionResult × Course σ ω :=
  match store.model id with
  | .ok s => execute w config store (s.model complaint) requested c
  | .error f => (.error ⟨.fault f, none⟩, c)

/-- Measures one join over a connection of a store. -/
def validateEdge (w : Warehouse σ ω) (store : Store) (connection : String) (source target : Locator)
    (pairs : List KeyPair) : Work σ ω EdgeValidation := do
  if pairs.isEmpty then Work.fail .noKeyPairs
  else
    let record ← Work.ofExcept (store.connection connection)
    Validator.validateEdge w record source target pairs

/-- Measures stored edges over a connection of a store. -/
def validateModel (w : Warehouse σ ω) (config : Config) (store : Store) (connection : String) (tables : List Table)
    (edges : List StoredEdge) (complaint : Complaint := fun _ => none) : Work σ ω Validation := do
  if tables.isEmpty || edges.isEmpty then return {}
  else
    let record ← Work.ofExcept (store.connection connection)
    let wanted := (config.settingsFor connection).validation.warnOnUndecodableKeys
    Validator.validateModel w record wanted tables (edges.map (·.edge))
      (edges.filterMap (·.warning? complaint))

end Service

end JoinCanvas
