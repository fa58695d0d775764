import JoinCanvas.Fault
import JoinCanvas.Stored.Basic
import JoinCanvas.Warehouse.Connection

/-!
# Stores

A store keeps models and connections by their identifiers; a later one replaces an earlier one.

* `model_save_self`, `model_save_of_ne`: what a store holds after a model was saved.
-/

namespace JoinCanvas

/-- Models and connections. -/
structure Store where
  models : List StoredModel := []
  connections : List Connection := []
deriving Repr, Inhabited

namespace Store

/-- A list of records with one put in, in place of those with the same identifier. -/
def put {α : Type} (id : α → String) (a : α) (as : List α) : List α :=
  a :: as.filter fun b => id b != id a

/-- The record with an identifier. -/
def get? {α : Type} (id : α → String) (key : String) (as : List α) : Option α :=
  as.find? fun a => id a = key

/-- The store of models and connections, later ones before earlier ones. -/
def ofLists (models : List StoredModel) (connections : List Connection) : Store :=
  ⟨models.foldl (fun as a => put (·.id) a as) [], connections.foldl (fun as a => put (·.id) a as) []⟩

/-- The model with an identifier. -/
def model (s : Store) (id : String) : Except Fault StoredModel :=
  match get? (·.id) id s.models with
  | some m => .ok m
  | none => .error (.unknownModel id)

/-- The connection with an identifier. -/
def connection (s : Store) (id : String) : Except Fault Connection :=
  match get? (·.id) id s.connections with
  | some c => .ok c
  | none => .error (.unknownConnection id)

/-- The store with a model put in. -/
def save (s : Store) (m : StoredModel) : Store :=
  { s with models := put (·.id) m s.models }

theorem get_put_self {α : Type} (id : α → String) (a : α) (as : List α) : get? id (id a) (put id a as) = some a := by
  simp [get?, put]

theorem get_put_of_ne {α : Type} (id : α → String) {a : α} {key : String} (as : List α) (h : key ≠ id a) :
    get? id key (put id a as) = get? id key as := by
  have h' : ¬ id a = key := fun e => h e.symm
  simp only [get?, put, List.find?_cons, h', decide_false]
  induction as with
  | nil => rfl
  | cons b rest ih =>
    by_cases hb : id b = id a
    · have hk : ¬ id b = key := fun e => h (e.symm.trans hb)
      simp [hb, h', ih]
    · by_cases hk : id b = key
      · simp [hk, h]
      · simp [hb, hk, ih]

theorem model_save_self (s : Store) (m : StoredModel) : (s.save m).model m.id = .ok m := by
  simp [model, save, get_put_self]

theorem model_save_of_ne (s : Store) (m : StoredModel) {id : String} (h : id ≠ m.id) :
    (s.save m).model id = s.model id := by
  simp [model, save, get_put_of_ne (fun (a : StoredModel) => a.id) s.models h]

end Store

end JoinCanvas
