import JoinCanvas.Model.Basic
import JoinCanvas.Statement.Query
import JoinCanvas.Sync.Unsupported

/-!
# Names in a hand-written query

The relations of a `FROM` clause stand for tables of the canvas, and the names in the query refer to them.  An alias
that is a compiled one stands for the table at its place; otherwise the name decides, with the schema when it is
given.

* `matched_mem`: a relation only ever stands for a table of the canvas.
-/

namespace JoinCanvas

open JoinCanvas.Text JoinCanvas.Statement

/-- The table whose compiled alias is the given one, up to case. -/
def tableOfAlias? (tables : List Table) (name : String) : Option Table :=
  go 0 tables
where
  /-- Looks from a place on. -/
  go (place : Nat) : List Table → Option Table
    | [] => none
    | t :: rest => if sameLetters (tableAlias place) name then some t else go (place + 1) rest

/-- Whether a name, and a schema unless it is empty, are those of a table, up to case. -/
def Table.isNamed (t : Table) (schema name : String) : Bool :=
  sameLetters t.name name && (schema == "" || t.schema?.any (sameLetters · schema))

/-- The table that a qualified name stands for, under an alias if there is one. -/
def matchTable? (tables : List Table) (path : List String) (alias? : Option String) : Option Table :=
  match alias?.bind (tableOfAlias? tables) with
  | some t => some t
  | none =>
    match path.getLast? with
    | some name => tables.find? (·.isNamed (joined "." path.dropLast) name)
    | none => none

/-- The names that a query can use: the qualifiers with their tables, the latest first, and the tables in the order of
the `FROM` clause. -/
structure Scope where
  tables : List Table
  qualifiers : List (String × String) := []
  inFrom : List String := []
deriving Repr

namespace Scope

/-- The scope with one more relation; an alias counts before the name of the table. -/
def add (s : Scope) (name : String) (alias? : Option String) (id : String) : Scope :=
  { s with
    qualifiers := (alias?.toList.map fun a => (lowered a, id)) ++ (lowered name, id) :: s.qualifiers
    inFrom := s.inFrom ++ [id] }

/-- The scope with one more relation, or the reason why a canvas cannot hold it. -/
def relation (s : Scope) : Relation → Except Unsupported Scope
  | .table path _ alias? _ =>
    let parts := path.map (·.value)
    let name? := alias?.map (·.value)
    match matchTable? s.tables parts name? with
    | some t => .ok (s.add (parts.getLast?.getD "") name? t.id)
    | none => .error (.missingTable (joined "." parts))
  | .derived _ => .error .subqueryInFrom
  | .nested _ => .error .tableExpression
  | .other _ => .error .tableExpression

/-- The scope of several relations, and what a canvas cannot hold of them. -/
def relations (s : Scope) : List Relation → Scope × List Unsupported
  | [] => (s, [])
  | r :: rest =>
    match s.relation r with
    | .ok s => s.relations rest
    | .error u => ((s.relations rest).1, u :: (s.relations rest).2)

/-- The scope of a `FROM` clause. -/
def ofTables (tables : List Table) (items : List FromItem) : Scope × List Unsupported :=
  relations { tables } (items.flatMap FromItem.relations)

/-- The table of a qualifier. -/
def qualifier? (s : Scope) (name : String) : Option String :=
  (s.qualifiers.find? (·.1 = name)).map (·.2)

/-- Whether the first table with an identifier has a column. -/
def hasColumn (s : Scope) (id column : String) : Bool :=
  (s.tables.find? (·.id = id)).any (·.hasColumn column)

/-- The table of a column without qualifier: the only relation, or the only one that has the column. -/
def bare (s : Scope) (column : String) : Except Unsupported (String × String) :=
  match s.inFrom with
  | [only] => .ok (only, column)
  | ids =>
    match ids.filter (s.hasColumn · column) with
    | [owner] => .ok (owner, column)
    | [] => .error (.noOwner column)
    | _ => .error (.ambiguous column)

/-- The table and the name of the column that an expression is. -/
def column (s : Scope) : Statement.Expr → Except Unsupported (String × String)
  | .name [i] => s.bare i.value
  | .name path =>
    let column := (path.getLast?.map (·.value)).getD ""
    let qualifier := lowered ((path.dropLast.getLast?.map (·.value)).getD "")
    match s.qualifier? qualifier with
    | some id => .ok (id, column)
    | none => .error (.unknownQualifier qualifier column)
  | .nested e => s.column e
  | e => .error (.notColumn e.text)

end Scope

theorem tableOfAlias_go_mem {tables : List Table} {name : String} {place : Nat} {t : Table}
    (h : tableOfAlias?.go name place tables = some t) : t ∈ tables := by
  induction tables generalizing place with
  | nil => simp [tableOfAlias?.go] at h
  | cons u rest ih =>
    simp only [tableOfAlias?.go] at h
    split at h
    · simp_all
    · exact List.mem_cons_of_mem _ (ih h)

/-- A relation only ever stands for a table of the canvas. -/
theorem matched_mem {tables : List Table} {path : List String} {alias? : Option String} {t : Table}
    (h : matchTable? tables path alias? = some t) : t ∈ tables := by
  unfold matchTable? at h
  split at h
  · next u hu =>
    obtain ⟨name, _, hn⟩ := Option.bind_eq_some_iff.1 hu
    simp only [Option.some.injEq] at h
    exact h ▸ tableOfAlias_go_mem hn
  · split at h
    · exact List.mem_of_find?_eq_some h
    · simp at h

end JoinCanvas
