import JoinCanvas.Json.Value
import JoinCanvas.Text.Letters

/-!
# Filters

The conditions of a canvas, or the SQL text that a user wrote in place of everything the canvas would generate.
-/

namespace JoinCanvas

open JoinCanvas.Text

/-- The operator of a condition.  `unknown` stands for a name that is none of them; such conditions are left out. -/
inductive FilterOp where
  | eq
  | neq
  | gt
  | lt
  | gte
  | lte
  | like
  | isIn
  | isNull
  | isNotNull
  | unknown
deriving DecidableEq, Repr

instance : Inhabited FilterOp := ⟨.unknown⟩

namespace FilterOp

/-- The name in records. -/
def name : FilterOp → String
  | .eq => "EQ"
  | .neq => "NEQ"
  | .gt => "GT"
  | .lt => "LT"
  | .gte => "GTE"
  | .lte => "LTE"
  | .like => "LIKE"
  | .isIn => "IN"
  | .isNull => "IS_NULL"
  | .isNotNull => "IS_NOT_NULL"
  | .unknown => "UNKNOWN"

/-- The operator that a name in any case stands for. -/
def ofName (s : String) : FilterOp :=
  match uppered s with
  | "EQ" => .eq
  | "NEQ" => .neq
  | "GT" => .gt
  | "LT" => .lt
  | "GTE" => .gte
  | "LTE" => .lte
  | "LIKE" => .like
  | "IN" => .isIn
  | "IS_NULL" => .isNull
  | "IS_NOT_NULL" => .isNotNull
  | _ => .unknown

/-- Whether the operator compares with a value. -/
def takesValue (op : FilterOp) : Bool :=
  op != .isNull && op != .isNotNull

theorem ofName_name (op : FilterOp) : ofName op.name = op := by
  cases op <;> decide

end FilterOp

/-- A condition on a column of a table. -/
structure Condition where
  table : String
  column : String
  operator : FilterOp
  value : Json.Value := .null
deriving Repr, Inhabited

/-- The filters of a model: conditions that must all hold, or a hand-written query. -/
inductive Filters where
  | conditions (list : List Condition)
  | manual (sql : String)
deriving Repr

instance : Inhabited Filters := ⟨.conditions []⟩

namespace Filters

/-- The conditions; a hand-written query has none. -/
def list : Filters → List Condition
  | .conditions list => list
  | .manual _ => []

/-- The hand-written query, if there is one. -/
def manual? : Filters → Option String
  | .conditions _ => none
  | .manual sql => some sql

end Filters

end JoinCanvas
