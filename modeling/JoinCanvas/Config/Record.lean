import JoinCanvas.Config.Settings
import JoinCanvas.Json.Fields

/-!
# Records of settings

How configurations are written as records and read from them.  Every setting may be left out; its default then holds.
A record that is written as an array may have more items than settings; these are passed over.
-/

namespace JoinCanvas

open JoinCanvas.Json JoinCanvas.Json.Document

/-- What a document gives for each setting of a section. -/
def settingFields? (names : List String) : Document → Option (List (Option Document))
  | .array items => fields? (names.map ([·])) (.array (items.take names.length))
  | d => fields? (names.map ([·])) d

/-- An integer from zero up to the largest of 32 bits. -/
def attemptCount? (d : Document) : Option Nat := do
  let n ← asCount? d
  if n < 2 ^ 32 then some n else none

/-- The settings of queries that a record holds. -/
def QuerySettings.ofDocument? (d : Document) : Option QuerySettings := do
  match ← settingFields? ["timeout_ms", "default_row_limit", "max_row_limit"] d with
  | [timeout, defaultLimit, maxLimit] =>
    return ⟨← defaulting asCount? 30000 timeout, ← defaulting asCount? 0 defaultLimit, ← defaulting asCount? 0 maxLimit⟩
  | _ => none

/-- The record of settings of queries. -/
def QuerySettings.toValue (q : QuerySettings) : Value :=
  .record [("timeout_ms", .integer q.timeoutMs), ("default_row_limit", .integer q.defaultRowLimit),
    ("max_row_limit", .integer q.maxRowLimit)]

/-- The settings of validation that a record holds. -/
def ValidationSettings.ofDocument? (d : Document) : Option ValidationSettings := do
  match ← settingFields? ["warn_on_undecodable_keys"] d with
  | [warns] => return ⟨← defaulting asBool? true warns⟩
  | _ => none

/-- The record of settings of validation. -/
def ValidationSettings.toValue (v : ValidationSettings) : Value :=
  .record [("warn_on_undecodable_keys", .bool v.warnOnUndecodableKeys)]

/-- The settings of statements that a record holds. -/
def WarehouseSettings.ofDocument? (d : Document) : Option WarehouseSettings := do
  match ← settingFields? ["wait_timeout_secs", "poll_interval_ms", "max_poll_attempts"] d with
  | [wait, interval, attempts] =>
    return ⟨← defaulting asCount? 30 wait, ← defaulting asCount? 500 interval, ← defaulting attemptCount? 600 attempts⟩
  | _ => none

/-- The record of settings of statements. -/
def WarehouseSettings.toValue (w : WarehouseSettings) : Value :=
  .record [("wait_timeout_secs", .integer w.waitTimeoutSecs), ("poll_interval_ms", .integer w.pollIntervalMs),
    ("max_poll_attempts", .integer w.maxPollAttempts)]

/-- The general settings that a record holds. -/
def Settings.ofDocument? (d : Document) : Option Settings := do
  match ← settingFields? ["query", "validation", "warehouse"] d with
  | [query, validation, warehouse] =>
    return ⟨← defaulting QuerySettings.ofDocument? {} query, ← defaulting ValidationSettings.ofDocument? {} validation,
      ← defaulting WarehouseSettings.ofDocument? {} warehouse⟩
  | _ => none

/-- The record of general settings. -/
def Settings.toValue (s : Settings) : Value :=
  .record [("query", s.query.toValue), ("validation", s.validation.toValue), ("warehouse", s.warehouse.toValue)]

/-- The settings of one connection that a record holds. -/
def Overrides.ofDocument? (d : Document) : Option Overrides := do
  match ← settingFields? ["query", "warehouse"] d with
  | [query, warehouse] =>
    return ⟨← defaulting (asOption? QuerySettings.ofDocument?) none query,
      ← defaulting (asOption? WarehouseSettings.ofDocument?) none warehouse⟩
  | _ => none

/-- The record of the settings of one connection. -/
def Overrides.toValue (o : Overrides) : Value :=
  .record [("query", (o.query?.map QuerySettings.toValue).getD .null),
    ("warehouse", (o.warehouse?.map WarehouseSettings.toValue).getD .null)]

/-- The settings by connection that a record holds. -/
def connectionOverrides? : Document → Option (List (String × Overrides))
  | .object members => members.mapM fun (key, d) => do return (← key, ← Overrides.ofDocument? d)
  | _ => none

/-- The configuration that a record holds. -/
def Config.ofDocument? (d : Document) : Option Config := do
  match ← settingFields? ["defaults", "connections"] d with
  | [defaults, connections] =>
    return ⟨← defaulting Settings.ofDocument? {} defaults, ← defaulting connectionOverrides? [] connections⟩
  | _ => none

/-- The record of a configuration. -/
def Config.toValue (c : Config) : Value :=
  .record [("defaults", c.defaults.toValue),
    ("connections", .record (c.connections.map fun (id, o) => (id, o.toValue)))]

end JoinCanvas
