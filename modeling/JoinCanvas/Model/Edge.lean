import JoinCanvas.Text.Blank

/-!
# Join edges

An edge joins two tables of the canvas on one or more pairs of columns.  A column that is missing or blank is `id`.
-/

namespace JoinCanvas

open JoinCanvas.Text

/-- How an edge joins. -/
inductive JoinType where
  | left
  | right
  | inner
  | full
deriving DecidableEq, Repr

instance : Inhabited JoinType := ⟨.left⟩

namespace JoinType

/-- The name in records and, with `JOIN`, in SQL. -/
def name : JoinType → String
  | .left => "LEFT"
  | .right => "RIGHT"
  | .inner => "INNER"
  | .full => "FULL"

/-- The join type that a record names. -/
def ofName? : String → Option JoinType
  | "LEFT" => some .left
  | "RIGHT" => some .right
  | "INNER" => some .inner
  | "FULL" => some .full
  | _ => none

theorem ofName_name (t : JoinType) : ofName? t.name = some t := by
  cases t <;> rfl

end JoinType

/-- How many rows meet along an edge, read from its first table to its second. -/
inductive Cardinality where
  | oneToOne
  | oneToMany
  | manyToOne
  | manyToMany
deriving DecidableEq, Repr

instance : Inhabited Cardinality := ⟨.oneToMany⟩

namespace Cardinality

/-- The name in records. -/
def name : Cardinality → String
  | .oneToOne => "ONE_TO_ONE"
  | .oneToMany => "ONE_TO_MANY"
  | .manyToOne => "MANY_TO_ONE"
  | .manyToMany => "MANY_TO_MANY"

/-- The cardinality that a record names. -/
def ofName? : String → Option Cardinality
  | "ONE_TO_ONE" => some .oneToOne
  | "ONE_TO_MANY" => some .oneToMany
  | "MANY_TO_ONE" => some .manyToOne
  | "MANY_TO_MANY" => some .manyToMany
  | _ => none

theorem ofName_name (c : Cardinality) : ofName? c.name = some c := by
  cases c <;> rfl

end Cardinality

/-- The column that stands in for a missing or blank one. -/
def defaultColumn : String := "id"

/-- A column, or the default one in place of a blank. -/
def columnOrDefault (s : String) : String :=
  if allBlank s then defaultColumn else s

/-- Two columns that a join equates. -/
structure KeyPair where
  fromColumn : String := defaultColumn
  toColumn : String := defaultColumn
deriving DecidableEq, Repr, Inhabited

/-- The pair of two columns, blank ones replaced. -/
def KeyPair.of (fromColumn toColumn : String) : KeyPair :=
  ⟨columnOrDefault fromColumn, columnOrDefault toColumn⟩

/-- What an edge joins on: two columns, or a list of pairs. -/
inductive JoinKey where
  | simple (fromColumn toColumn : String)
  | composite (pairs : List KeyPair)
deriving DecidableEq, Repr

namespace JoinKey

/-- The key of two columns, blank ones replaced. -/
def ofColumns (fromColumn toColumn : String) : JoinKey :=
  .simple (columnOrDefault fromColumn) (columnOrDefault toColumn)

/-- The key of an edge that names none. -/
def default : JoinKey :=
  ofColumns defaultColumn defaultColumn

instance : Inhabited JoinKey := ⟨default⟩

/-- The pairs that the key equates, at least one. -/
def pairs : JoinKey → List KeyPair
  | .simple a b => [KeyPair.of a b]
  | .composite [] => [KeyPair.of defaultColumn defaultColumn]
  | .composite ps => ps

theorem pairs_ne_nil (k : JoinKey) : k.pairs ≠ [] := by
  unfold pairs
  split <;> simp_all

end JoinKey

theorem columnOrDefault_of_not_blank {s : String} (h : allBlank s = false) : columnOrDefault s = s := by
  simp [columnOrDefault, h]

theorem allBlank_columnOrDefault (s : String) : allBlank (columnOrDefault s) = false := by
  unfold columnOrDefault
  split
  · decide
  · simp_all

theorem columnOrDefault_idem (s : String) : columnOrDefault (columnOrDefault s) = columnOrDefault s :=
  columnOrDefault_of_not_blank (allBlank_columnOrDefault s)

/-- An edge of the canvas. -/
structure Edge where
  id : String
  fromTable : String
  toTable : String
  joinType : JoinType := .left
  cardinality : Cardinality := .oneToMany
  key : JoinKey := JoinKey.default
deriving DecidableEq, Repr, Inhabited

/-- Whether a table is an end of the edge. -/
def Edge.touches (e : Edge) (table : String) : Bool :=
  e.fromTable = table || e.toTable = table

end JoinCanvas
