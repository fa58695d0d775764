import JoinCanvas.Warehouse.Task

/-!
# A warehouse that follows a script

The script says for every call whether it fails, and for every statement what it gives and how long its rows take.
-/

namespace JoinCanvas

open JoinCanvas.Json

/-- What the warehouse does with one statement.  A text is what a call fails with. -/
structure ScriptedReply where
  rows : List Members := []
  columns? : Option (List String) := none
  executeError? : Option String := none
  fetchError? : Option String := none
  schemaError? : Option String := none
  closeError? : Option String := none
  delay : Nat := 0
deriving Repr, Inhabited

/-- What the warehouse does: its replies to the statements to come, and the calls that fail. -/
structure Script where
  replies : List ScriptedReply := []
  connectError? : Option String := none
  openError? : Option String := none
  closeSessionError? : Option String := none
  closeClientError? : Option String := none
deriving Repr, Inhabited

namespace Script

/-- Fails with a text if there is one. -/
def failing (text? : Option String) : Task Script Unit :=
  Task.check (text?.map Fault.warehouse)

/-- Takes the reply to the next statement. -/
def nextReply : Task Script ScriptedReply := do
  match (← Task.world).replies with
  | [] => Task.fail (.warehouse "no scripted response")
  | r :: rest =>
    Task.change fun s => { s with replies := rest }
    return r

/-- The columns of a reply: those it names, or the keys of its first row. -/
def columnsOf (r : ScriptedReply) : List String :=
  match r.columns? with
  | some columns => columns
  | none => (r.rows.head?.map Members.keys).getD []

end Script

/-- The warehouse that follows its script. -/
def scripted : Warehouse Script ScriptedReply where
  connect _ := do Script.failing (← Task.world).connectError?
  openSession := do Script.failing (← Task.world).openError?
  execute _ := do
    let r ← Script.nextReply
    Script.failing r.executeError?
    return r
  fetch r := do
    Task.wait r.delay
    Script.failing r.fetchError?
    return r.rows
  schema r := do
    Script.failing r.schemaError?
    return Script.columnsOf r
  closeOperation r := Script.failing r.closeError?
  closeSession := do Script.failing (← Task.world).closeSessionError?
  closeClient := do Script.failing (← Task.world).closeClientError?

end JoinCanvas
