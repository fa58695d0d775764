import JoinCanvas.Decimal.Reading
import JoinCanvas.Fault
import JoinCanvas.Sql.Query
import JoinCanvas.Text.Blank

/-!
# Statistics of a join

A side of a join is many when it has more rows than different keys.  One query counts both for both sides; its result
has a row per side, and the counts are numbers or their decimal texts.

* `classify_swap`: read from the other end, one to many is many to one.
-/

namespace JoinCanvas

open JoinCanvas.Sql JoinCanvas.Text

/-- A physical table. -/
structure Locator where
  name : String
  schema? : Option String := none
deriving DecidableEq, Repr, Inhabited

/-- The full name of a table. -/
def Locator.qualified (l : Locator) : String :=
  Sql.qualified l.schema? l.name

/-- The physical table behind a table of the canvas. -/
def Locator.ofTable (t : Table) : Locator :=
  ⟨t.name, t.schema?⟩

/-- How many rows and how many different keys one side has. -/
structure SideStats where
  totalRows : Nat
  distinctKeys : Nat
deriving DecidableEq, Repr, Inhabited

/-- Whether some rows of a side share a key. -/
def SideStats.isMany (s : SideStats) : Bool :=
  s.distinctKeys < s.totalRows

/-- The cardinality that the statistics of both sides show. -/
def classify (source target : SideStats) : Cardinality :=
  match source.isMany, target.isMany with
  | true, true => .manyToMany
  | true, false => .manyToOne
  | false, true => .oneToMany
  | false, false => .oneToOne

/-- The cardinality read from the other end. -/
def Cardinality.swap : Cardinality → Cardinality
  | .oneToOne => .oneToOne
  | .oneToMany => .manyToOne
  | .manyToOne => .oneToMany
  | .manyToMany => .manyToMany

theorem classify_swap (source target : SideStats) : classify target source = (classify source target).swap := by
  unfold classify
  cases source.isMany <;> cases target.isMany <;> rfl

namespace Stats

/-- The names of the two sides. -/
def sourceSide : String := "source"

/-- The name of the second side. -/
def targetSide : String := "target"

/-- The query that counts one side. -/
def sideQuery (side : String) (table : Locator) (columns : List String) : Query :=
  { items :=
      [⟨.literal (.string side), some "side"⟩,
        ⟨.aggregate .count .wildcard, some "total_rows"⟩,
        ⟨.countDistinct (columns.map (.column none)), some "distinct_keys"⟩]
    source := ⟨table.qualified, none⟩ }

/-- The queries that count the two sides of a join on pairs of columns. -/
def sides (source target : Locator) (pairs : List KeyPair) : List Query :=
  [sideQuery sourceSide source (pairs.map (·.fromColumn)), sideQuery targetSide target (pairs.map (·.toColumn))]

/-- The query that counts both sides. -/
def query (source target : Locator) (pairs : List KeyPair) : String :=
  unionText (sides source target pairs)

/-- The count that a decimal text writes, with a sign or without; at most 64 bits. -/
def countOfText? (s : String) : Option Nat :=
  let digits := match trim s.toList with
    | '+' :: rest => rest
    | cs => cs
  match Decimal.natIn? 10 digits with
  | some n => if n < 2 ^ 64 then some n else none
  | none => none

/-- The count that a value is. -/
def count? : Json.Value → Option Nat
  | .number (.integer n) => if 0 ≤ n ∧ n < 2 ^ 64 then some n.toNat else none
  | .string s => countOfText? s
  | _ => none

/-- The count in a field of a row. -/
def countIn (row : Json.Members) (field : String) : Except Fault Nat :=
  match (row.get? field).bind count? with
  | some n => .ok n
  | none => .error (.notCount field)

/-- The counts in the first row of a side. -/
def ofSide (rows : List Json.Members) (side : String) : Except Fault SideStats :=
  match rows.find? fun row => ((row.get? "side").bind Json.Value.text?) == some side with
  | none => .error (.noStatistics side)
  | some row => do return ⟨← countIn row "total_rows", ← countIn row "distinct_keys"⟩

/-- The counts of both sides. -/
def ofRows (rows : List Json.Members) : Except Fault (SideStats × SideStats) := do
  let source ← ofSide rows sourceSide
  let target ← ofSide rows targetSide
  return (source, target)

end Stats

end JoinCanvas
