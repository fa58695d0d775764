import JoinCanvas.Join.Plan
import JoinCanvas.Sql.RowLimit

/-!
# Compiling a model

The query of a model: the visible selections of every table, the plan of its joins, and the conditions that can be
written.  A condition on a table that is not on the canvas, with an unknown operator, or on an empty list is left out.
A hand-written query stands as it is.
-/

namespace JoinCanvas

open JoinCanvas.Sql

/-- A compiled model: the query, the cross joined tables, and what is wrong with the canvas. -/
structure Compiled where
  sql : String
  unjoined : List String
  warnings : List Warning
deriving DecidableEq, Repr, Inhabited

/-- A selection of a table that goes by an alias. -/
def Selection.item (s : Selection) (tableAlias : String) : Item :=
  let column := Expr.column (some tableAlias) s.column
  { expr := if s.aggregation = .none then column else .aggregate s.aggregation column
    alias? := s.outputAlias? }

/-- What a canvas selects, in the order of its tables. -/
def selectItems (tables : List Table) : List Item :=
  tables.flatMap fun t =>
    match aliasOf? tables t.id with
    | some name => t.visible.map (·.item name)
    | none => []

/-- A member of an `IN` list: strings are finished text already. -/
def listMember : Json.Value → Expr
  | .string s => .raw s
  | .null => .raw "NULL"
  | v => .raw v.text

/-- The members of an `IN` list; a value that is no array is the only member. -/
def listMembers : Json.Value → List Expr
  | .array items => items.map listMember
  | v => [listMember v]

/-- The comparison that an operator stands for. -/
def FilterOp.comparison? : FilterOp → Option Operator
  | .eq => some .eq
  | .neq => some .neq
  | .gt => some .gt
  | .gte => some .gte
  | .lt => some .lt
  | .lte => some .lte
  | .like => some .like
  | _ => none

/-- The condition on a column, when it can be written. -/
def Condition.expr? (c : Condition) (column : Expr) : Option Expr :=
  match c.operator with
  | .isNull => some (.isNull column false)
  | .isNotNull => some (.isNull column true)
  | .isIn => if (listMembers c.value).isEmpty then none else some (.isIn column (listMembers c.value))
  | op => op.comparison?.map fun o => .binary o column (.literal c.value)

/-- The conditions of a canvas that can be written. -/
def filterExprs (tables : List Table) (conditions : List Condition) : List Expr :=
  conditions.filterMap fun c =>
    (aliasOf? tables c.table).bind fun name => c.expr? (.column (some name) c.column)

namespace Model

/-- The query that the canvas of a model stands for; none without tables. -/
def query? (m : Model) : Option Query :=
  let plan := Plan.ofCanvas m.tables m.edges
  plan.base?.map fun base =>
    { items := selectItems m.tables
      source := base.source
      joins := plan.joins.map PlannedJoin.join
      filters := filterExprs m.tables m.filters.list
      groupByAll := m.groupByAll }

/-- Compiles a model: the hand-written query, or that of the canvas; none for an empty canvas. -/
def compile? (m : Model) : Option Compiled :=
  match m.filters.manual? with
  | some sql => some ⟨sql, [], m.warnings⟩
  | none =>
    let plan := Plan.ofCanvas m.tables m.edges
    m.query?.map fun q => ⟨q.text, plan.unjoined, m.warnings ++ plan.warnings⟩

/-- Compiles a model and gives the query a row limit, when there is one. -/
def compileWithLimit? (m : Model) (limit? : Option Nat) : Option Compiled :=
  m.compile?.map fun c =>
    match limit? with
    | some n => { c with sql := withRowLimit c.sql n }
    | none => c

end Model

end JoinCanvas
