/-!
# Settings

Settings for queries, for validation and for the polling of statements.  Settings of one connection come in the place of
the general ones, a whole section at a time.

* `effectiveLimit_le_max`: a configured cap holds.
-/

namespace JoinCanvas

/-- Settings of queries.  A limit of zero means none. -/
structure QuerySettings where
  timeoutMs : Nat := 30000
  defaultRowLimit : Nat := 0
  maxRowLimit : Nat := 0
deriving DecidableEq, Repr, Inhabited

/-- Settings of validation. -/
structure ValidationSettings where
  warnOnUndecodableKeys : Bool := true
deriving DecidableEq, Repr, Inhabited

/-- Settings of statements that run on the server. -/
structure WarehouseSettings where
  waitTimeoutSecs : Nat := 30
  pollIntervalMs : Nat := 500
  maxPollAttempts : Nat := 600
deriving DecidableEq, Repr, Inhabited

/-- All settings that hold for a connection. -/
structure Settings where
  query : QuerySettings := {}
  validation : ValidationSettings := {}
  warehouse : WarehouseSettings := {}
deriving DecidableEq, Repr, Inhabited

/-- The settings of one connection that differ from the general ones. -/
structure Overrides where
  query? : Option QuerySettings := none
  warehouse? : Option WarehouseSettings := none
deriving DecidableEq, Repr, Inhabited

/-- A configuration: the general settings, and overrides by connection. -/
structure Config where
  defaults : Settings := {}
  connections : List (String × Overrides) := []
deriving DecidableEq, Repr, Inhabited

/-- The overrides of a connection. -/
def Config.overrides? (c : Config) (connection : String) : Option Overrides :=
  (c.connections.find? (·.1 = connection)).map (·.2)

/-- The settings that hold for a connection. -/
def Config.settingsFor (c : Config) (connection : String) : Settings :=
  let o := c.overrides? connection
  { query := (o.bind (·.query?)).getD c.defaults.query
    validation := c.defaults.validation
    warehouse := (o.bind (·.warehouse?)).getD c.defaults.warehouse }

/-- The limit that holds for a request: the requested one or the default, but no more than the cap; none if it is
zero. -/
def QuerySettings.effectiveLimit (q : QuerySettings) (requested : Option Nat) : Option Nat :=
  let limit := requested.getD q.defaultRowLimit
  let capped := if 0 < q.maxRowLimit then min limit q.maxRowLimit else limit
  if 0 < capped then some capped else none

/-- A configured cap holds. -/
theorem QuerySettings.effectiveLimit_le_max (q : QuerySettings) (h : 0 < q.maxRowLimit) (requested : Option Nat)
    (n : Nat)
    (hn : q.effectiveLimit requested = some n) : n ≤ q.maxRowLimit := by
  simp only [effectiveLimit, h, if_true] at hn
  split at hn
  · have := Option.some.inj hn
    omega
  · simp at hn

end JoinCanvas
