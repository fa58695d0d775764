import JoinCanvas.Decimal.Reading
import JoinCanvas.Fault
import JoinCanvas.Statement.Grammar
import JoinCanvas.Sync.Scope

/-!
# From a hand-written query back to the canvas

`Sync.ofText` has a query read and collects what a canvas can say of it: selected columns, conditions that all must
hold, and grouping by all plain columns.  The rest is listed as unsupported.  The reader of SQL is a parameter, for
nothing here depends on which texts it accepts; `Sync.ofSql` is the case of `Statement.read`.  `Sync.apply` puts the
result on a canvas; a part of the canvas of which not all was understood stays as it was.
-/

namespace JoinCanvas

open JoinCanvas.Text JoinCanvas.Statement JoinCanvas.Decimal

/-- The columns that a query selects of one table. -/
structure TableSelection where
  table : String
  columns : List Selection
deriving DecidableEq, Repr, Inhabited

/-- What a canvas can say of a query.  A part is complete when nothing of it was left out. -/
structure Sync where
  selections : List TableSelection := []
  selectionsComplete : Bool := true
  conditions : List Condition := []
  filtersComplete : Bool := true
  groupByAll : Bool := false
  unsupported : List Unsupported := []
deriving Repr, Inhabited

/-- The selections with one more column, in the group of its table. -/
def pushSelection (table : String) (column : Selection) : List TableSelection → List TableSelection
  | [] => [⟨table, [column]⟩]
  | s :: rest =>
    if s.table = table then ⟨s.table, s.columns ++ [column]⟩ :: rest else s :: pushSelection table column rest

/-- The value of a number: an integer of 64 bits where it is one, else the nearest floating point number. -/
def numberValue? (text : String) : Option Json.Value :=
  let float := (binary? text.toList).map fun x => Json.Value.number (.float x)
  match int? text.toList with
  | some n => if -(2 ^ 63) ≤ n ∧ n < 2 ^ 63 then some (.integer n) else float
  | none => float

/-- The value of an expression that is a literal. -/
def literalValue? : Statement.Expr → Option Json.Value
  | .literal (.number text _) => numberValue? text
  | .literal (.single s) => some (.string s)
  | .literal (.double s) => some (.string s)
  | .literal (.bool b) => some (.bool b)
  | .literal .null => some .null
  | .unary "-" (.literal (.number text _)) => numberValue? ("-" ++ text)
  | .nested e => literalValue? e
  | _ => none

/-- The value of a member of an `IN` list: a string keeps its quotes. -/
def memberValue? (e : Statement.Expr) : Option Json.Value :=
  (literalValue? e).map fun v =>
    match v with
    | .string s => .string (Sql.quotedString s)
    | v => v

/-- The comparison that an operator of a query stands for. -/
def comparisonOf? : String → Option FilterOp
  | "=" => some .eq
  | "<>" => some .neq
  | ">" => some .gt
  | "<" => some .lt
  | ">=" => some .gte
  | "<=" => some .lte
  | _ => none

namespace Scope

/-- A selection under a chosen name; the name that the selection has anyway is not kept. -/
def withAlias (s : Selection) (alias? : Option String) : Selection :=
  match alias? with
  | some name => if s.outputAlias? = some name then s else { s with alias? := some name }
  | none => s

/-- The column or aggregate that a selected expression is. -/
def selected (s : Scope) : Statement.Expr → Except Unsupported (String × Selection)
  | .call name argument _ _ window =>
    if window then .error (.windowFunction name)
    else
      match Aggregation.ofFunctionName? name with
      | none => .error (.function name)
      | some a => (s.column argument).map fun (id, column) => (id, { column, aggregation := a })
  | .callOther name _ _ window =>
    if window then .error (.windowFunction name)
    else
      match Aggregation.ofFunctionName? name with
      | none => .error (.function name)
      | some _ => .error (.arguments name)
  | .subquery _ => .error .subqueryInSelect
  | e => (s.column e).map fun (id, column) => (id, { column })

/-- The selection that an item stands for. -/
def selection (s : Scope) (e : Statement.Expr) (alias? : Option String) : Except Unsupported (String × Selection) :=
  (s.selected e).map fun (id, column) => (id, withAlias column alias?)

/-- A condition on the column that an expression is. -/
def conditionOn (s : Scope) (e : Statement.Expr) (op : FilterOp) (value : Json.Value) : Except Unsupported Condition :=
  (s.column e).map fun (id, column) => ⟨id, column, op, value⟩

/-- The condition that a conjunct stands for. -/
def condition (s : Scope) (e : Statement.Expr) : Except Unsupported Condition :=
  match e with
  | .binary operator left right =>
    if operator = "OR" then .error .disjunction
    else
      match comparisonOf? operator with
      | none => .error (.operator operator)
      | some op =>
        match literalValue? right with
        | none => .error (.noLiteral e.text)
        | some v => s.conditionOn left op v
  | .like column false _ pattern _ =>
    match literalValue? pattern with
    | none => .error (.noLiteralPattern e.text)
    | some v => s.conditionOn column .like v
  | .isIn column false list =>
    match list.mapM memberValue? with
    | none => .error (.noLiteralList e.text)
    | some vs => s.conditionOn column .isIn (.array vs)
  | .isNull column false => s.conditionOn column .isNull .null
  | .isNull column true => s.conditionOn column .isNotNull .null
  | .subquery _ => .error .subqueryInWhere
  | .queryTest _ => .error .subqueryInWhere
  | e => .error (.predicate e.text)

end Scope

namespace Sync

/-- The record with something unsupported added. -/
def reject (y : Sync) (u : Unsupported) : Sync :=
  { y with unsupported := y.unsupported ++ [u] }

/-- The record with a selected item added. -/
def addItem (s : Scope) (y : Sync) : SelectItem → Sync
  | .wildcard _ => { y with selectionsComplete := false }
  | .expr e alias? =>
    match s.selection e (alias?.map (·.value)) with
    | .ok (id, column) => { y with selections := pushSelection id column y.selections }
    | .error u => { y.reject u with selectionsComplete := false }

/-- The record with a conjunct added. -/
def addConjunct (s : Scope) (y : Sync) (e : Statement.Expr) : Sync :=
  match s.condition e with
  | .ok c => { y with conditions := y.conditions ++ [c] }
  | .error u => { y.reject u with filtersComplete := false }

/-- The record with a grouping added. -/
def addGrouping (y : Sync) : Grouping → Sync
  | .none => y
  | .all => { y with groupByAll := true }
  | .expressions _ => y.reject .groupExpressions

/-- What a canvas can say of a query whose body is a `SELECT`. -/
def ofSelect (tables : List Table) (q : Query) (s : Select) : Sync :=
  let y : Sync := {}
  let y := if q.with?.isSome then y.reject .definitions else y
  let y := if q.order?.isSome then y.reject .order else y
  let (scope, missing) := Scope.ofTables tables s.tables
  let y := missing.foldl reject y
  let y := s.items.foldl (addItem scope) y
  let y := ((s.condition?.map Expr.conjuncts).getD []).foldl (addConjunct scope) y
  let y := y.addGrouping s.grouping
  if s.having?.isSome then y.reject .having else y

/-- What the canvas of a model can say of a query; a fault where the text is not a single `SELECT`. -/
def ofText (read : Reader) (sql : String) (m : Model) : Except Fault Sync :=
  match read sql with
  | none => .error .unreadableSql
  | some [.query q] =>
    match q.body with
    | .select s => .ok (ofSelect m.tables q s)
    | .other _ => .error .notSelect
  | some [.other] => .error .notQuery
  | some statements => .error (.statementCount statements.length)

/-- What the canvas can say of a query in the SQL that `Statement.read` accepts. -/
def ofSql (sql : String) (m : Model) : Except Fault Sync :=
  ofText Statement.read sql m

/-- The columns recorded for a table. -/
def columnsOf (y : Sync) (id : String) : List Selection :=
  ((y.selections.find? (·.table = id)).map (·.columns)).getD []

/-- The table with the recorded columns in place of its visible selections. -/
def table (y : Sync) (t : Table) : Table :=
  { t with selections := t.hiddenSelections ++ y.columnsOf t.id }

/-- The model with the understood parts in place of its own; the canvas then rules again. -/
def apply (y : Sync) (m : Model) : Model :=
  { m with
    tables := if y.selectionsComplete then m.tables.map y.table else m.tables
    filters := .conditions (if y.filtersComplete then y.conditions else m.filters.list)
    groupByAll := y.groupByAll }

end Sync

end JoinCanvas
