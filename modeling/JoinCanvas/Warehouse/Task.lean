import JoinCanvas.Fault
import JoinCanvas.Json.Value
import JoinCanvas.Warehouse.Connection

/-!
# Work on a warehouse

A task changes the world of a warehouse and takes time.  It returns something, fails, or is cut off when its time is
up; then it stops where it was waiting.

A warehouse is given by its eight calls.  Work runs such calls one after another; it keeps a log of them and knows what
has been opened and not been given up.
-/

namespace JoinCanvas

open JoinCanvas.Json

/-- How a task ends. -/
inductive Outcome (α : Type) where
  | returned (a : α)
  | failed (f : Fault)
  | cutOff
deriving Repr

/-- The world of a warehouse, and how much time is left; `none` when time does not matter. -/
structure Scene (σ : Type) where
  world : σ
  left? : Option Nat := none
deriving Repr

/-- Something that is done in a world. -/
def Task (σ α : Type) : Type := Scene σ → Outcome α × Scene σ

namespace Task

variable {σ α β : Type}

/-- Returns something at once. -/
def give (a : α) : Task σ α := fun s => (.returned a, s)

/-- Fails at once. -/
def fail (f : Fault) : Task σ α := fun s => (.failed f, s)

/-- One task after another. -/
def andThen (t : Task σ α) (next : α → Task σ β) : Task σ β := fun s =>
  match t s with
  | (.returned a, s) => next a s
  | (.failed f, s) => (.failed f, s)
  | (.cutOff, s) => (.cutOff, s)

instance : Monad (Task σ) where
  pure := give
  bind := andThen

/-- The world. -/
def world : Task σ σ := fun s => (.returned s.world, s)

/-- Changes the world. -/
def change (f : σ → σ) : Task σ Unit := fun s => (.returned (), { s with world := f s.world })

/-- Waits so many milliseconds. -/
def wait (ms : Nat) : Task σ Unit := fun s =>
  match s.left? with
  | none => (.returned (), s)
  | some left =>
    if left < ms then (.cutOff, { s with left? := some 0 })
    else (.returned (), { s with left? := some (left - ms) })

/-- Fails if there is a fault. -/
def check (fault? : Option Fault) : Task σ Unit :=
  match fault? with
  | some f => fail f
  | none => give ()

end Task

/-- A warehouse whose world is `σ` and whose running statements are known by an `ω`. -/
structure Warehouse (σ ω : Type) where
  connect : Connection → Task σ Unit
  openSession : Task σ Unit
  execute : String → Task σ ω
  fetch : ω → Task σ (List Members)
  schema : ω → Task σ (List String)
  closeOperation : ω → Task σ Unit
  closeSession : Task σ Unit
  closeClient : Task σ Unit

/-- A call of a warehouse.  Statements are numbered in the order in which they were accepted. -/
inductive Event where
  | connect (connection : String)
  | openSession
  | execute (sql : String)
  | fetch (statement : Nat)
  | schema (statement : Nat)
  | closeOperation (statement : Nat)
  | closeSession
  | closeClient
deriving DecidableEq, Repr

namespace Event

instance : Inhabited Event := ⟨.openSession⟩

/-- The call in words. -/
def text : Event → String
  | connect id => "connect " ++ id
  | openSession => "open_session"
  | execute _ => "execute"
  | fetch _ => "fetch"
  | schema _ => "schema"
  | closeOperation _ => "close_operation"
  | closeSession => "close_session"
  | closeClient => "close_client"

/-- The query text of a call. -/
def sql? : Event → Option String
  | execute sql => some sql
  | _ => none

end Event

/-- A call in the log, and whether it returned. -/
structure Entry where
  event : Event
  returned : Bool
deriving DecidableEq, Repr

/-- A running statement that work holds: its number, and what the warehouse knows it by. -/
structure Running (ω : Type) where
  number : Nat
  operation : ω
deriving Repr

/-- What work has opened and not given up. -/
structure Held (ω : Type) where
  operation? : Option (Running ω) := none
  session : Bool := false
  client : Bool := false
deriving Repr

/-- The course of work: the scene, the log, the number of statements accepted so far, and what is held. -/
structure Course (σ ω : Type) where
  scene : Scene σ
  log : List Entry := []
  accepted : Nat := 0
  held : Held ω := {}
deriving Repr

/-- Work on a warehouse. -/
def Work (σ ω α : Type) : Type := Course σ ω → Outcome α × Course σ ω

namespace Work

variable {σ ω α β : Type}

/-- Returns something at once. -/
def give (a : α) : Work σ ω α := fun c => (.returned a, c)

/-- Fails at once. -/
def fail (f : Fault) : Work σ ω α := fun c => (.failed f, c)

/-- One piece of work after another. -/
def andThen (w : Work σ ω α) (next : α → Work σ ω β) : Work σ ω β := fun c =>
  match w c with
  | (.returned a, c) => next a c
  | (.failed f, c) => (.failed f, c)
  | (.cutOff, c) => (.cutOff, c)

instance : Monad (Work σ ω) where
  pure := give
  bind := andThen

/-- The fault of work that fails, as a result; work that is cut off stays so. -/
def attempt (w : Work σ ω α) : Work σ ω (Except Fault α) := fun c =>
  match w c with
  | (.returned a, c) => (.returned (.ok a), c)
  | (.failed f, c) => (.returned (.error f), c)
  | (.cutOff, c) => (.cutOff, c)

/-- Returns what a result holds, or fails with its fault. -/
def ofExcept : Except Fault α → Work σ ω α
  | .ok a => give a
  | .error f => fail f

/-- Calls the warehouse and writes the call into the log. -/
def call (event : Event) (task : Task σ α) : Work σ ω α := fun c =>
  let (outcome, scene) := task c.scene
  let returned := match outcome with
    | .returned _ => true
    | _ => false
  (outcome, { c with scene, log := c.log ++ [⟨event, returned⟩] })

/-- What is held. -/
def held : Work σ ω (Held ω) := fun c => (.returned c.held, c)

/-- Changes what is held. -/
def hold (f : Held ω → Held ω) : Work σ ω Unit := fun c => (.returned (), { c with held := f c.held })

/-- The number of the statement that has just been accepted. -/
def accept : Work σ ω Nat := fun c => (.returned c.accepted, { c with accepted := c.accepted + 1 })

/-- Runs work that must be done within so many milliseconds, if a limit is given.  Nothing is returned when the work
was cut off. -/
def within (limit? : Option Nat) (w : Work σ ω α) (c : Course σ ω) : Option (Except Fault α) × Course σ ω :=
  let (outcome, c) := w { c with scene := { c.scene with left? := limit? } }
  let result := match outcome with
    | .returned a => some (.ok a)
    | .failed f => some (.error f)
    | .cutOff => none
  (result, { c with scene := { c.scene with left? := none } })

end Work

end JoinCanvas
