import JoinCanvas.Model.Column
import JoinCanvas.Model.Edge
import JoinCanvas.Sql.Quote

/-!
# Queries

A query as a tree: what it selects, the table it starts from, the joins, the conditions that all must hold, and
whether it groups by all plain columns.  `Query.text` writes it on one line.
-/

namespace JoinCanvas.Sql

open JoinCanvas.Text

/-- An operator between two expressions. -/
inductive Operator where
  | eq
  | neq
  | gt
  | gte
  | lt
  | lte
  | like
deriving DecidableEq, Repr, Inhabited

/-- The operator in SQL. -/
def Operator.text : Operator → String
  | .eq => "="
  | .neq => "!="
  | .gt => ">"
  | .gte => ">="
  | .lt => "<"
  | .lte => "<="
  | .like => "LIKE"

/-- An expression.  The alias before a column is written as it is, its name is quoted; `raw` is finished text. -/
inductive Expr where
  | column (table? : Option String) (name : String)
  | literal (value : Json.Value)
  | raw (sql : String)
  | wildcard
  | aggregate (function : Aggregation) (of : Expr)
  | countDistinct (of : List Expr)
  | binary (operator : Operator) (left right : Expr)
  | isIn (of : Expr) (list : List Expr)
  | isNull (of : Expr) (negated : Bool)
deriving Repr, Inhabited

/-- An aggregate of an expression; no aggregation leaves it as it is. -/
def aggregateText (function : Aggregation) (sql : String) : String :=
  match function.functionName? with
  | some f => f ++ "(" ++ sql ++ ")"
  | none => sql

/-- The number of different tuples of expressions. -/
def countDistinctText (sqls : List String) : String :=
  "COUNT(DISTINCT " ++ joined ", " sqls ++ ")"

mutual

/-- An expression in SQL. -/
def Expr.text : Expr → String
  | .column (some table) name => table ++ "." ++ quotedName name
  | .column none name => quotedName name
  | .literal value => Sql.literal value
  | .raw sql => sql
  | .wildcard => "*"
  | .aggregate function e => aggregateText function e.text
  | .countDistinct es => countDistinctText (exprTexts es)
  | .binary operator left right => left.text ++ " " ++ operator.text ++ " " ++ right.text
  | .isIn e list => e.text ++ " IN (" ++ joined ", " (exprTexts list) ++ ")"
  | .isNull e negated => e.text ++ (if negated then " IS NOT NULL" else " IS NULL")

/-- Each of the expressions in SQL. -/
def exprTexts : List Expr → List String
  | [] => []
  | e :: rest => e.text :: exprTexts rest

end

theorem exprTexts_eq_map (es : List Expr) : exprTexts es = es.map Expr.text := by
  induction es with
  | nil => rfl
  | cons e rest ih => simp [exprTexts, ih]

/-- A selected expression, perhaps under a name. -/
structure Item where
  expr : Expr
  alias? : Option String := none
deriving Repr, Inhabited

/-- A selected expression in SQL. -/
def Item.text (i : Item) : String :=
  match i.alias? with
  | some name => i.expr.text ++ " AS " ++ quotedName name
  | none => i.expr.text

/-- A table of a query: its full name, and the alias it goes by. -/
structure Source where
  qualified : String
  alias? : Option String := none
deriving DecidableEq, Repr, Inhabited

/-- A table in SQL. -/
def Source.text (s : Source) : String :=
  match s.alias? with
  | some name => s.qualified ++ " AS " ++ name
  | none => s.qualified

/-- The kind of a join: along an edge, or of all rows with all rows. -/
inductive JoinKind where
  | along (type : JoinType)
  | cross
deriving DecidableEq, Repr, Inhabited

/-- The kind of a join in SQL, without `JOIN`. -/
def JoinKind.name : JoinKind → String
  | .along type => type.name
  | .cross => "CROSS"

/-- A join: its kind, the table it brings in, and the conditions it joins on. -/
structure Join where
  kind : JoinKind
  source : Source
  conditions : List Expr := []
deriving Repr, Inhabited

/-- The conditions of a join in SQL; a cross join has none. -/
def Join.onText (j : Join) : String :=
  if j.kind = .cross ∨ j.conditions.isEmpty then ""
  else " ON " ++ joined " AND " (j.conditions.map Expr.text)

/-- A join in SQL, with the blank before it. -/
def Join.text (j : Join) : String :=
  " " ++ j.kind.name ++ " JOIN " ++ j.source.text ++ j.onText

/-- A query.  Without items it selects everything. -/
structure Query where
  items : List Item := []
  source : Source
  joins : List Join := []
  filters : List Expr := []
  groupByAll : Bool := false
deriving Repr, Inhabited

namespace Query

/-- What the query selects, in SQL. -/
def itemsText (q : Query) : String :=
  if q.items.isEmpty then "*" else joined ", " (q.items.map Item.text)

/-- The joins in SQL, one after another. -/
def joinsText (q : Query) : String :=
  (q.joins.map Join.text).foldr (· ++ ·) ""

/-- The conditions of the query in SQL. -/
def filtersText (q : Query) : String :=
  if q.filters.isEmpty then "" else " WHERE " ++ joined " AND " (q.filters.map Expr.text)

/-- The grouping of the query in SQL. -/
def groupText (q : Query) : String :=
  if q.groupByAll then " GROUP BY ALL" else ""

/-- The query in SQL. -/
def text (q : Query) : String :=
  "SELECT " ++ q.itemsText ++ " FROM " ++ q.source.text ++ q.joinsText ++ q.filtersText ++ q.groupText

end Query

/-- All rows of several queries, in SQL. -/
def unionText (queries : List Query) : String :=
  joined " UNION ALL " (queries.map Query.text)

end JoinCanvas.Sql
