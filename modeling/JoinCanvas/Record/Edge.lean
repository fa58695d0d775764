import JoinCanvas.Json.Fields
import JoinCanvas.Model.Edge

/-!
# Records of edges

How join keys and edges are written as JSON records and read from them.
-/

namespace JoinCanvas

open JoinCanvas.Json JoinCanvas.Json.Document

/-- The pair that a record holds; blank columns stay as they are. -/
def KeyPair.ofDocument? (d : Document) : Option KeyPair := do
  match ← d.fields? [["fromColumn"], ["toColumn"]] with
  | [a, b] => return ⟨← defaulting asString? defaultColumn a, ← defaulting asString? defaultColumn b⟩
  | _ => none

/-- The record of a pair. -/
def KeyPair.toValue (p : KeyPair) : Value :=
  .record [("fromColumn", .string p.fromColumn), ("toColumn", .string p.toColumn)]

/-- The key that a record holds; its kind says which members it has. -/
def JoinKey.ofDocument? (d : Document) : Option JoinKey := do
  match d with
  | .object members =>
    match ← (← single? ["kind"] members) with
    | .string (some "simple") =>
      return .simple (← required asString? (← single? ["from"] members))
        (← required asString? (← single? ["to"] members))
    | .string (some "composite") =>
      return .composite (← required (asList? KeyPair.ofDocument?) (← single? ["pairs"] members))
    | _ => none
  | _ => none

/-- The record of a key. -/
def JoinKey.toValue : JoinKey → Value
  | .simple a b => .record [("kind", .string "simple"), ("from", .string a), ("to", .string b)]
  | .composite pairs => .record [("kind", .string "composite"), ("pairs", .array (pairs.map KeyPair.toValue))]

/-- The edge that a record holds. -/
def Edge.ofDocument? (d : Document) : Option Edge := do
  match ← d.fields? [["id"], ["fromTableId"], ["toTableId"], ["joinType"], ["cardinality"], ["key"]] with
  | [id, a, b, joinType, cardinality, key] =>
    return ⟨← required asString? id, ← required asString? a, ← required asString? b,
      ← defaulting (asChoice? JoinType.ofName?) .left joinType,
      ← defaulting (asChoice? Cardinality.ofName?) .oneToMany cardinality,
      ← defaulting JoinKey.ofDocument? JoinKey.default key⟩
  | _ => none

/-- The record of an edge. -/
def Edge.toValue (e : Edge) : Value :=
  .record [("id", .string e.id), ("fromTableId", .string e.fromTable), ("toTableId", .string e.toTable),
    ("joinType", .string e.joinType.name), ("cardinality", .string e.cardinality.name), ("key", e.key.toValue)]

end JoinCanvas
