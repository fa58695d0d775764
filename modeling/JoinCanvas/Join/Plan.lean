import JoinCanvas.Model.Basic
import JoinCanvas.Sql.Query

/-!
# Join plans

A plan orders the joins of a canvas: it starts from the first table and takes edges that lead from a joined table to
a new one, in passes over the edges that are left, until a pass takes none.  Tables that no edge reaches are cross
joined at the end, in canvas order.

Planning never fails.  An edge with a missing end is dangling; an edge between two tables that are joined already is
redundant.  Both are left out with a warning.

* `length_pass_le`: a pass leaves no more edges than there were.
* `remaining_settle`: when the passes are done, one more would leave the same number of edges.
-/

namespace JoinCanvas

open JoinCanvas.Sql

/-- A table with the full name it has in the query and the short one, its alias. -/
structure PlannedTable where
  id : String
  qualified : String
  shortName : String
deriving DecidableEq, Repr, Inhabited

/-- The table as a source of a query. -/
def PlannedTable.source (t : PlannedTable) : Source :=
  ⟨t.qualified, some t.shortName⟩

/-- How the first table with an identifier appears in the query. -/
def planned? (tables : List Table) (id : String) : Option PlannedTable :=
  (findTable? tables id).map fun (place, t) => ⟨t.id, qualifiedTable t, tableAlias place⟩

/-- A join of a plan; a cross join has no edge. -/
structure PlannedJoin where
  edge? : Option String
  kind : JoinKind
  table : PlannedTable
  conditions : List Expr
deriving Repr, Inhabited

/-- The join as part of a query. -/
def PlannedJoin.join (j : PlannedJoin) : Join :=
  ⟨j.kind, j.table.source, j.conditions⟩

/-- A plan: the base table, the joins in order, the cross joined tables, and what is wrong with the canvas. -/
structure Plan where
  base? : Option PlannedTable := none
  joins : List PlannedJoin := []
  unjoined : List String := []
  warnings : List Warning := []
deriving Repr, Inhabited

/-- The base table and the tables joined along an edge. -/
def Plan.joinedIds (p : Plan) : List String :=
  p.base?.toList.map (·.id) ++ (p.joins.filter (·.edge?.isSome)).map (·.table.id)

/-- How far the passes over the edges have come. -/
structure Progress where
  joined : List String
  remaining : List Edge := []
  taken : List (Edge × String) := []
  redundant : List Edge := []
deriving Repr

namespace Progress

/-- Looks at one edge: it leads to a new table, or it is redundant, or it has to wait. -/
def step (p : Progress) (e : Edge) : Progress :=
  match decide (e.fromTable ∈ p.joined), decide (e.toTable ∈ p.joined) with
  | true, true => { p with redundant := p.redundant ++ [e] }
  | true, false => { p with joined := e.toTable :: p.joined, taken := p.taken ++ [(e, e.toTable)] }
  | false, true => { p with joined := e.fromTable :: p.joined, taken := p.taken ++ [(e, e.fromTable)] }
  | false, false => { p with remaining := p.remaining ++ [e] }

/-- Looks at every waiting edge once. -/
def pass (p : Progress) : Progress :=
  p.remaining.foldl step { p with remaining := [] }

/-- Passes over the waiting edges until one takes none of them. -/
def settle (p : Progress) : Progress :=
  if p.pass.remaining.length < p.remaining.length then settle p.pass else p.pass
termination_by p.remaining.length

theorem length_step_le (p : Progress) (e : Edge) :
    (p.step e).remaining.length ≤ p.remaining.length + 1 := by
  unfold step
  split <;> simp

theorem length_foldl_step_le (es : List Edge) (p : Progress) :
    (es.foldl step p).remaining.length ≤ p.remaining.length + es.length := by
  induction es generalizing p with
  | nil => simp
  | cons e rest ih =>
    have h1 := ih (p.step e)
    have h2 := length_step_le p e
    simp only [List.foldl_cons, List.length_cons]
    omega

theorem length_pass_le (p : Progress) : p.pass.remaining.length ≤ p.remaining.length := by
  have h := length_foldl_step_le p.remaining { p with remaining := [] }
  simpa [pass] using h

/-- When the passes are done there was a last one that took no edge. -/
theorem remaining_settle (p : Progress) :
    ∃ q : Progress, p.settle = q.pass ∧ q.pass.remaining.length = q.remaining.length := by
  induction hn : p.remaining.length using Nat.strongRecOn generalizing p with
  | _ n ih =>
    unfold settle
    split
    · next h => exact ih _ (hn ▸ h) p.pass rfl
    · next h => exact ⟨p, rfl, Nat.le_antisymm (length_pass_le p) (Nat.le_of_not_lt h)⟩

end Progress

/-- The equalities that an edge joins on, under the aliases of its two tables. -/
def onConditions (e : Edge) (fromAlias toAlias : String) : List Expr :=
  e.key.pairs.map fun p =>
    .binary .eq (.column (some fromAlias) p.fromColumn) (.column (some toAlias) p.toColumn)

/-- The first end of an edge, `from` before `to`, that is not on the canvas. -/
def missingEnd? (tables : List Table) (e : Edge) : Option String :=
  [e.fromTable, e.toTable].find? fun id => !tables.any (·.id = id)

/-- The join along an edge to one of its ends. -/
def joinAlong? (tables : List Table) (e : Edge) (target : String) : Option PlannedJoin := do
  let table ← planned? tables target
  let source ← planned? tables e.fromTable
  let other ← planned? tables e.toTable
  return ⟨some e.id, .along e.joinType, table, onConditions e source.shortName other.shortName⟩

/-- The tables that are not among the joined ones, each identifier once, in canvas order. -/
def unreached (tables : List Table) (joined : List String) : List String :=
  match tables with
  | [] => []
  | t :: rest => if t.id ∈ joined then unreached rest joined else t.id :: unreached rest (t.id :: joined)

/-- The joins of a canvas, from its first table. -/
def Plan.ofCanvas (tables : List Table) (edges : List Edge) : Plan :=
  match tables with
  | [] => {}
  | base :: _ =>
    let dangling := edges.filterMap fun e => (missingEnd? tables e).map (Warning.danglingEdge e.id ·)
    let usable := edges.filter fun e => (missingEnd? tables e).isNone
    let progress := Progress.settle ⟨[base.id], usable, [], []⟩
    let unjoined := unreached tables progress.joined
    let crosses := unjoined.filterMap fun id =>
      (planned? tables id).map fun t => ⟨none, .cross, t, []⟩
    { base? := planned? tables base.id
      joins := (progress.taken.filterMap fun (e, target) => joinAlong? tables e target) ++ crosses
      unjoined
      warnings := dangling ++ (progress.redundant.map fun e => Warning.redundantEdge e.id) ++
        unjoined.map Warning.crossJoinedTable }

end JoinCanvas
