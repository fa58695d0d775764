import JoinCanvas.Text.Letters

/-!
# Columns and selections

A table has columns; the canvas selects some of them, plainly or under an aggregate function.
-/

namespace JoinCanvas

open JoinCanvas.Text

/-- A column of a physical table. -/
structure Column where
  name : String
  dataType : String
deriving DecidableEq, Repr, Inhabited

/-- What is computed of a selected column; `none` is the column itself. -/
inductive Aggregation where
  | none
  | sum
  | avg
  | min
  | max
  | count
deriving DecidableEq, Repr, Inhabited

namespace Aggregation

/-- The SQL function of an aggregation. -/
def functionName? : Aggregation → Option String
  | .none => Option.none
  | .sum => some "SUM"
  | .avg => some "AVG"
  | .min => some "MIN"
  | .max => some "MAX"
  | .count => some "COUNT"

/-- The aggregation of an SQL function, in any case. -/
def ofFunctionName? (name : String) : Option Aggregation :=
  match uppered name with
  | "SUM" => some .sum
  | "AVG" => some .avg
  | "MIN" => some .min
  | "MAX" => some .max
  | "COUNT" => some .count
  | _ => Option.none

/-- The name of an aggregation in records. -/
def name (a : Aggregation) : String :=
  a.functionName?.getD "NONE"

/-- The aggregation that a record names. -/
def ofName? : String → Option Aggregation
  | "NONE" => some .none
  | "SUM" => some .sum
  | "AVG" => some .avg
  | "MIN" => some .min
  | "MAX" => some .max
  | "COUNT" => some .count
  | _ => Option.none

theorem ofName_name (a : Aggregation) : ofName? a.name = some a := by
  cases a <;> rfl

end Aggregation

/-- A column chosen for the result.  A hidden one stays on the canvas but is left out of the query. -/
structure Selection where
  column : String
  aggregation : Aggregation := .none
  alias? : Option String := none
  hidden : Bool := false
deriving DecidableEq, Repr, Inhabited

namespace Selection

/-- The name that an aggregate gets when none is chosen. -/
def defaultAlias? (s : Selection) : Option String :=
  s.aggregation.functionName?.map fun f => lowered f ++ "_" ++ s.column

/-- The name of the selection in the result: the chosen one unless it is empty, else that of the aggregate. -/
def outputAlias? (s : Selection) : Option String :=
  match s.alias? with
  | some a => if a = "" then s.defaultAlias? else some a
  | none => s.defaultAlias?

end Selection

end JoinCanvas
