import JoinCanvas.Model.Column

/-!
# Tables on the canvas

A table has an identifier on the canvas and a physical name, which is empty while the table is being set up.  In
compiled SQL the table at place `n` of the model, counted from one, goes by the alias `tn`.
-/

namespace JoinCanvas

open JoinCanvas.Text

/-- A table on the canvas.  `label?` is only shown there. -/
structure Table where
  id : String
  name : String := ""
  schema? : Option String := none
  label? : Option String := none
  columns : List Column := []
  selections : List Selection := []
deriving DecidableEq, Repr, Inhabited

namespace Table

/-- Whether the table has a column of that name, up to the case of letters. -/
def hasColumn (t : Table) (name : String) : Bool :=
  t.columns.any fun c => sameLetters c.name name

/-- The selections that take part in the query. -/
def visible (t : Table) : List Selection :=
  t.selections.filter fun s => !s.hidden

/-- The selections that do not. -/
def hiddenSelections (t : Table) : List Selection :=
  t.selections.filter fun s => s.hidden

end Table

/-- The compiled alias of the table at a place, counted from zero. -/
def tableAlias (place : Nat) : String :=
  "t" ++ String.ofList (Nat.toDigits 10 (place + 1))

/-- The place of the first table with an identifier, and the table. -/
def findTable? (tables : List Table) (id : String) : Option (Nat × Table) :=
  go 0 tables
where
  /-- Searches the tables from a place on. -/
  go (place : Nat) : List Table → Option (Nat × Table)
    | [] => none
    | t :: rest => if t.id = id then some (place, t) else go (place + 1) rest

/-- The compiled alias of the first table with an identifier. -/
def aliasOf? (tables : List Table) (id : String) : Option String :=
  (findTable? tables id).map fun (place, _) => tableAlias place

end JoinCanvas
