import JoinCanvas.Statement.Expr

/-!
# Hand-written queries

The parts of a query that a canvas is compared with: what is selected, the tables, the condition and the grouping.
The other clauses are kept by their text.
-/

namespace JoinCanvas.Statement

open JoinCanvas.Text

/-- A selected expression, perhaps under a name, or a wildcard. -/
inductive SelectItem where
  | expr (e : Expr) (alias? : Option Ident)
  | wildcard (text : String)
deriving Repr, Inhabited

/-- A selected item in SQL. -/
def SelectItem.text : SelectItem → String
  | .expr e (some name) => e.text ++ " AS " ++ name.text
  | .expr e none => e.text
  | .wildcard text => text

/-- What stands in a `FROM` clause: a named table with the text of its arguments and of all that follows its alias, a
query, a join in parentheses, or something else. -/
inductive Relation where
  | table (path : List Ident) (arguments : String) (alias? : Option Ident) (after : String)
  | derived (text : String)
  | nested (text : String)
  | other (text : String)
deriving Repr, Inhabited

/-- A relation in SQL. -/
def Relation.text : Relation → String
  | .table path arguments alias? after =>
    pathText path ++ arguments ++
      (match alias? with
        | some name => " AS " ++ name.text
        | none => "") ++ after
  | .derived text => text
  | .nested text => text
  | .other text => text

/-- A relation that is joined to those before it: the text of the kind of join, and of what it joins on. -/
structure JoinedRelation where
  kind : String
  relation : Relation
  constraint : String := ""
deriving Repr, Inhabited

/-- A relation with the relations joined to it. -/
structure FromItem where
  relation : Relation
  joins : List JoinedRelation := []
deriving Repr, Inhabited

namespace FromItem

/-- The relations, in order. -/
def relations (f : FromItem) : List Relation :=
  f.relation :: f.joins.map (·.relation)

/-- The relations and joins in SQL. -/
def text (f : FromItem) : String :=
  f.relation.text ++ joined "" (f.joins.map fun j => " " ++ j.kind ++ " " ++ j.relation.text ++ j.constraint)

end FromItem

/-- A `GROUP BY` clause: none, all plain columns, or expressions by their text. -/
inductive Grouping where
  | none
  | all
  | expressions (text : String)
deriving DecidableEq, Repr, Inhabited

/-- A grouping in SQL, with the blank before it. -/
def Grouping.text : Grouping → String
  | .none => ""
  | .all => " GROUP BY ALL"
  | .expressions text => " GROUP BY " ++ text

/-- A `SELECT`.  `quantifier` is what stands before the items, `lateral` what stands between tables and condition,
`sorting` what follows the grouping, and `windows` what follows the condition on groups; each with its blanks. -/
structure Select where
  quantifier : String := ""
  items : List SelectItem
  into : String := ""
  tables : List FromItem := []
  lateral : String := ""
  condition? : Option Expr := none
  grouping : Grouping := .none
  sorting : String := ""
  having? : Option Expr := none
  windows : String := ""
deriving Repr, Inhabited

/-- A text with another before it, when it is there. -/
def clause (head : String) (text? : Option String) : String :=
  match text? with
  | some text => head ++ text
  | none => ""

/-- The `SELECT` in SQL. -/
def Select.text (s : Select) : String :=
  "SELECT" ++ s.quantifier ++ " " ++ joined ", " (s.items.map SelectItem.text) ++ s.into ++
    (if s.tables.isEmpty then "" else " FROM " ++ joined ", " (s.tables.map FromItem.text)) ++ s.lateral ++
    clause " WHERE " (s.condition?.map Expr.text) ++ s.grouping.text ++ s.sorting ++
    clause " HAVING " (s.having?.map Expr.text) ++ s.windows

/-- The body of a query: a `SELECT`, or something else by its text. -/
inductive Body where
  | select (s : Select)
  | other (text : String)
deriving Repr, Inhabited

/-- The body in SQL. -/
def Body.text : Body → String
  | .select s => s.text
  | .other text => text

/-- A query: what it defines first, its body, its order, and all that follows that, such as a limit or a lock. -/
structure Query where
  with? : Option String := none
  body : Body
  order? : Option String := none
  limits : String := ""
deriving Repr, Inhabited

/-- The query in SQL. -/
def Query.text (q : Query) : String :=
  (match q.with? with
    | some text => text ++ " "
    | none => "") ++ q.body.text ++ clause " ORDER BY " q.order? ++ q.limits

/-- A statement: a query, or one that changes something. -/
inductive Sentence where
  | query (q : Query)
  | other
deriving Repr, Inhabited

/-- A reader of SQL: the statements of a text that it accepts.  A clause that has no place of its own in a query is kept
by its text. -/
abbrev Reader : Type :=
  String → Option (List Sentence)

end JoinCanvas.Statement
