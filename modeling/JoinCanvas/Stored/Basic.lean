import JoinCanvas.Model.Basic
import JoinCanvas.Stored.Key

/-!
# Stored models

The form in which models are kept.  An edge whose key cannot be read joins on the default columns and is reported.
-/

namespace JoinCanvas

/-- An edge as it is kept. -/
structure StoredEdge where
  id : String
  fromTable : String
  toTable : String
  fromColumn? : Option String := none
  toColumn? : Option String := none
  joinType : JoinType := .left
  cardinality : Cardinality := .oneToMany
deriving DecidableEq, Repr, Inhabited

namespace StoredEdge

/-- The key of the edge, or the default one. -/
def key (e : StoredEdge) : JoinKey :=
  match JoinKey.ofStored e.fromColumn? e.toColumn? with
  | .ok key => key
  | .error _ => JoinKey.default

/-- The edge on a canvas. -/
def edge (e : StoredEdge) : Edge :=
  ⟨e.id, e.fromTable, e.toTable, e.joinType, e.cardinality, e.key⟩

/-- The report of a key that cannot be read. -/
def warning? (e : StoredEdge) (complaint : Complaint := fun _ => none) : Option Warning :=
  match JoinKey.ofStored e.fromColumn? e.toColumn? with
  | .ok _ => none
  | .error fault => some (.unreadableKey e.id (fault.message ((JoinKey.compositeText? e.fromColumn?).bind complaint)))

/-- An edge in the form in which it is kept. -/
def ofEdge (e : Edge) : StoredEdge :=
  ⟨e.id, e.fromTable, e.toTable, some e.key.stored.1, some e.key.stored.2, e.joinType, e.cardinality⟩

end StoredEdge

/-- Filters as they are kept: conditions, or a text that counts only when it is marked as hand-written. -/
inductive StoredFilters where
  | conditions (list : List Condition)
  | override (isManual : Bool) (sql : String)
deriving Repr, Inhabited

/-- The filters of a canvas. -/
def StoredFilters.filters : StoredFilters → Filters
  | .conditions list => .conditions list
  | .override true sql => .manual sql
  | .override false _ => .conditions []

/-- Filters in the form in which they are kept. -/
def StoredFilters.ofFilters : Filters → StoredFilters
  | .conditions list => .conditions list
  | .manual sql => .override true sql

/-- A model as it is kept. -/
structure StoredModel where
  id : String
  tables : List Table := []
  edges : List StoredEdge := []
  filters? : Option StoredFilters := none
  groupByAll : Bool := false
  connection? : Option String := none
deriving Repr, Inhabited

namespace StoredModel

/-- The model, with a report for every key that cannot be read. -/
def model (s : StoredModel) (complaint : Complaint := fun _ => none) : Model :=
  { id := s.id
    tables := s.tables
    edges := s.edges.map StoredEdge.edge
    filters := match s.filters? with
      | some f => f.filters
      | none => .conditions []
    groupByAll := s.groupByAll
    connection? := s.connection?
    warnings := s.edges.filterMap (·.warning? complaint) }

/-- A model in the form in which it is kept; its warnings are not. -/
def ofModel (m : Model) : StoredModel :=
  { id := m.id
    tables := m.tables
    edges := m.edges.map StoredEdge.ofEdge
    filters? := some (StoredFilters.ofFilters m.filters)
    groupByAll := m.groupByAll
    connection? := m.connection? }

end StoredModel

theorem StoredFilters.filters_ofFilters (f : Filters) : (StoredFilters.ofFilters f).filters = f := by
  cases f <;> rfl

end JoinCanvas
