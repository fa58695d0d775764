import JoinCanvas.Model.Edge
import JoinCanvas.Model.Filter
import JoinCanvas.Model.Table
import JoinCanvas.Model.Warning

/-!
# Models

A model is a canvas with its filters and settings.  The first table is the base of the compiled query.  Identifiers of
tables and edges may repeat; an identifier then means the first table or edge that has it.

* `table_removeTable_of_ne`: removing a table leaves the tables with other identifiers.
* `edges_removeTable`: no edge that touches a removed table stays.
-/

namespace JoinCanvas

/-- A canvas.  `warnings` are the problems found when it was loaded. -/
structure Model where
  id : String
  tables : List Table := []
  edges : List Edge := []
  filters : Filters := .conditions []
  groupByAll : Bool := false
  connection? : Option String := none
  warnings : List Warning := []
deriving Repr, Inhabited

namespace Model

/-- The first table with an identifier. -/
def table? (m : Model) (id : String) : Option Table :=
  m.tables.find? (·.id = id)

/-- The first edge with an identifier. -/
def edge? (m : Model) (id : String) : Option Edge :=
  m.edges.find? (·.id = id)

/-- The model with one more table. -/
def addTable (m : Model) (t : Table) : Model :=
  { m with tables := m.tables ++ [t] }

/-- The model with one more edge. -/
def addEdge (m : Model) (e : Edge) : Model :=
  { m with edges := m.edges ++ [e] }

/-- The model with one more condition; a hand-written query gives way to it. -/
def addCondition (m : Model) (c : Condition) : Model :=
  { m with filters := .conditions (m.filters.list ++ [c]) }

/-- The model with a hand-written query in place of its filters. -/
def withManual (m : Model) (sql : String) : Model :=
  { m with filters := .manual sql }

/-- Whether the query of the model is hand-written. -/
def isManual (m : Model) : Bool :=
  m.filters.manual?.isSome

/-- The model with its first table of an identifier changed. -/
def updateTable (m : Model) (id : String) (change : Table → Table) : Model :=
  { m with tables := go m.tables }
where
  /-- Changes the first table that has the identifier. -/
  go : List Table → List Table
    | [] => []
    | t :: rest => if t.id = id then change t :: rest else t :: go rest

/-- The model without its first table of an identifier, and without the edges and conditions that name it; nothing
changes when there is no such table. -/
def removeTable (m : Model) (id : String) : Model :=
  if m.tables.any (·.id = id) then
    { m with
      tables := m.tables.eraseP (·.id = id)
      edges := m.edges.filter fun e => !e.touches id
      filters := match m.filters with
        | .conditions list => .conditions (list.filter fun c => c.table != id)
        | .manual sql => .manual sql }
  else m

/-- Every table that the edges and conditions name is on the canvas, and no identifier of a table repeats. -/
def Closed (m : Model) : Prop :=
  (m.tables.map (·.id)).Nodup ∧
    (∀ e ∈ m.edges, e.fromTable ∈ m.tables.map (·.id) ∧ e.toTable ∈ m.tables.map (·.id)) ∧
      ∀ c ∈ m.filters.list, c.table ∈ m.tables.map (·.id)

theorem table_removeTable_of_ne (m : Model) {id other : String} (h : other ≠ id) :
    (m.removeTable id).table? other = m.table? other := by
  unfold removeTable
  split
  · unfold table?
    induction m.tables with
    | nil => rfl
    | cons t rest ih =>
      by_cases ht : t.id = id
      · have hne : ¬ t.id = other := fun e => h (e.symm.trans ht)
        rw [List.eraseP_cons_of_pos (by simpa using ht), List.find?_cons_of_neg (by simpa using hne)]
      · rw [List.eraseP_cons_of_neg (by simpa using ht), List.find?_cons, List.find?_cons]
        simp only [ih]
  · rfl

theorem edges_removeTable (m : Model) (id : String) (h : id ∈ m.tables.map (·.id)) :
    ∀ e ∈ (m.removeTable id).edges, e.touches id = false := by
  intro e he
  have hany : m.tables.any (·.id = id) = true := by
    simpa using h
  simp only [removeTable, hany, if_true, List.mem_filter] at he
  simpa using he.2

end Model

end JoinCanvas
