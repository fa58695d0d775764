import JoinCanvas.Cardinality.Stats
import JoinCanvas.Model.Basic
import JoinCanvas.Warehouse.Session

/-!
# Measuring the edges of a canvas

The edges whose two tables are known are measured one after another over one session.  The first fault ends the
measuring; the session is closed in any case.  Nothing is opened when there is nothing to measure.
-/

namespace JoinCanvas

variable {σ ω : Type}

/-- What was measured of one join. -/
structure EdgeValidation where
  source : SideStats
  target : SideStats
deriving DecidableEq, Repr, Inhabited

/-- The cardinality that was found. -/
def EdgeValidation.detected (v : EdgeValidation) : Cardinality :=
  classify v.source v.target

/-- What was measured of an edge of the canvas. -/
structure EdgeReport where
  edge : String
  fromTable : String
  toTable : String
  source : SideStats
  target : SideStats
  current : Cardinality
  detected : Cardinality
deriving DecidableEq, Repr, Inhabited

/-- Whether the canvas says something else than was found. -/
def EdgeReport.isMismatch (r : EdgeReport) : Bool :=
  r.current != r.detected

/-- What was measured of a canvas: the reports, the edges left out because a table is unknown, and warnings. -/
structure Validation where
  reports : List EdgeReport := []
  skipped : List String := []
  warnings : List Warning := []
deriving DecidableEq, Repr, Inhabited

/-- The reports of edges along which many rows meet many. -/
def Validation.issues (v : Validation) : List EdgeReport :=
  v.reports.filter fun r => r.detected = .manyToMany

/-- An edge with the tables at its ends. -/
structure Measurable where
  edge : Edge
  source : Table
  target : Table
deriving DecidableEq, Repr, Inhabited

/-- An edge with its tables, when both are known. -/
def Measurable.of? (tables : List Table) (e : Edge) : Option Measurable := do
  let source ← tables.find? (·.id = e.fromTable)
  let target ← tables.find? (·.id = e.toTable)
  return ⟨e, source, target⟩

/-- The statistics query of an edge. -/
def Measurable.query (m : Measurable) : String :=
  Stats.query (Locator.ofTable m.source) (Locator.ofTable m.target) m.edge.key.pairs

/-- The report of an edge. -/
def Measurable.report (m : Measurable) (stats : SideStats × SideStats) : EdgeReport :=
  ⟨m.edge.id, m.edge.fromTable, m.edge.toTable, stats.1, stats.2, m.edge.cardinality, classify stats.1 stats.2⟩

namespace Validator

/-- Runs a statistics query in an open session. -/
def measure (w : Warehouse σ ω) (sql : String) : Work σ ω (SideStats × SideStats) := do
  let result ← Session.query w sql
  Work.ofExcept (Stats.ofRows result.rows)

/-- Measures edges one after another. -/
def measureAll (w : Warehouse σ ω) : List Measurable → Work σ ω (List EdgeReport)
  | [] => return []
  | m :: rest => do
    let stats ← measure w m.query
    return m.report stats :: (← measureAll w rest)

/-- Does work in a session of its own. -/
def inSession {α : Type} (w : Warehouse σ ω) (connection : Connection) (work : Work σ ω α) : Work σ ω α := do
  Session.start w connection
  let outcome ← Work.attempt work
  Session.finish w outcome

/-- Measures one join.  Without pairs of columns nothing is opened. -/
def validateEdge (w : Warehouse σ ω) (connection : Connection) (source target : Locator) (pairs : List KeyPair) :
    Work σ ω EdgeValidation := do
  if pairs.isEmpty then Work.fail .noKeyPairs
  else
    let (a, b) ← inSession w connection (measure w (Stats.query source target pairs))
    return ⟨a, b⟩

/-- Measures the edges of a canvas.  The given warnings are part of the result if they are wanted and something was
measured. -/
def validateModel (w : Warehouse σ ω) (connection : Connection) (wantsWarnings : Bool) (tables : List Table)
    (edges : List Edge) (warnings : List Warning) : Work σ ω Validation := do
  if tables.isEmpty || edges.isEmpty then return {}
  else
    let work := edges.filterMap (Measurable.of? tables)
    let skipped := (edges.filter fun e => (Measurable.of? tables e).isNone).map (·.id)
    if work.isEmpty then return { skipped }
    else
      let reports ← inSession w connection (measureAll w work)
      return { reports, skipped, warnings := if wantsWarnings then warnings else [] }

end Validator

/-- The edges with one of them given a cardinality: the first of that identifier, and whether it changed. -/
def setCardinality (id : String) (c : Cardinality) : List Edge → List Edge × Bool
  | [] => ([], false)
  | e :: rest =>
    if e.id = id then ({ e with cardinality := c } :: rest, e.cardinality != c)
    else
      let (rest, changed) := setCardinality id c rest
      (e :: rest, changed)

/-- The model with the cardinalities that were found, and how many edges changed. -/
def Model.applyCardinalities (m : Model) (found : List (String × Cardinality)) : Model × Nat :=
  found.foldl
    (fun (m, n) (id, c) =>
      let (edges, changed) := setCardinality id c m.edges
      ({ m with edges }, if changed then n + 1 else n))
    (m, 0)

end JoinCanvas
