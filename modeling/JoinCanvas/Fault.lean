/-!
# Faults

Everything that can go wrong, by cause.  A fault belongs to a kind, and its message starts with what the kind says.
-/

namespace JoinCanvas

/-- The kinds of faults. -/
inductive FaultKind where
  | io
  | yaml
  | json
  | config
  | validation
  | sql
  | warehouse
  | execution
deriving DecidableEq, Repr, Inhabited

/-- The name of a kind. -/
def FaultKind.name : FaultKind → String
  | .io => "Io"
  | .yaml => "Yaml"
  | .json => "Json"
  | .config => "Config"
  | .validation => "Validation"
  | .sql => "Sql"
  | .warehouse => "Warehouse"
  | .execution => "Execution"

/-- What the messages of a kind start with. -/
def FaultKind.lead : FaultKind → String
  | .io => "io error"
  | .yaml => "yaml parse error"
  | .json => "json error"
  | .config => "config error"
  | .validation => "validation error"
  | .sql => "sql generation error"
  | .warehouse => "warehouse error"
  | .execution => "execution error"

/-- The causes of faults. -/
inductive Fault where
  /-- A directory stands where a file is to be read. -/
  | isDirectory
  /-- A file is not text. -/
  | notText
  | notYaml
  | notJson
  | unreadableConfig
  /-- The path of a connection, as a quoted text, does not end in the identifier of a warehouse. -/
  | noWarehouseId (path : String)
  | unknownModel (id : String)
  | unknownConnection (id : String)
  | noKeyPairs
  | noStore (path : String)
  | unreadableSql
  | statementCount (n : Nat)
  | notQuery
  | notSelect
  /-- What the warehouse answered instead of doing its work. -/
  | warehouse (text : String)
  | execution (text : String)
  | timedOut (milliseconds : Nat)
  | noStatistics (side : String)
  | notCount (field : String)
deriving DecidableEq, Repr, Inhabited

namespace Fault

/-- The kind of a fault. -/
def kind : Fault → FaultKind
  | isDirectory | notText => .io
  | notYaml => .yaml
  | notJson => .json
  | unreadableConfig | noWarehouseId _ => .config
  | unknownModel _ | unknownConnection _ | noKeyPairs | noStore _ => .validation
  | unreadableSql | statementCount _ | notQuery | notSelect => .sql
  | warehouse _ => .warehouse
  | execution _ | timedOut _ | noStatistics _ | notCount _ => .execution

/-- What a fault says behind the lead of its kind. -/
def detail : Fault → String
  | isDirectory => "Is a directory (os error 21)"
  | notText => "stream did not contain valid UTF-8"
  | notYaml => "the text is no record"
  | notJson => "the text is no record"
  | unreadableConfig => "failed to parse config"
  | noWarehouseId path => "cannot read warehouse id from path " ++ path
  | unknownModel id => "unknown model " ++ id
  | unknownConnection id => "unknown connection " ++ id
  | noKeyPairs => "at least one join key pair is required"
  | noStore path => "store directory not found: " ++ path
  | unreadableSql => "cannot parse manual sql"
  | statementCount n => "expected one statement, found " ++ String.ofList (Nat.toDigits 10 n)
  | notQuery => "manual sql is not a query"
  | notSelect => "manual sql is not a single SELECT"
  | warehouse text => text
  | execution text => text
  | timedOut ms => "query timed out after " ++ String.ofList (Nat.toDigits 10 ms) ++ " ms"
  | noStatistics side => "statistics row for " ++ side ++ " missing"
  | notCount field => "statistics field " ++ field ++ " is not a count"

/-- The whole message of a fault. -/
def message (f : Fault) : String :=
  f.kind.lead ++ ": " ++ f.detail

end Fault

end JoinCanvas
