import JoinCanvas.Json.Reader

/-!
# Records in JSON documents

A record is written as an object with named members, or as an array that gives its fields in order.  Members of other
names are passed over; a field given twice is an error.  A field that may be missing has a default.  An empty scalar
without quotes is an empty list, or a record of which no field is given.
-/

namespace JoinCanvas.Json

/-- The names under which a field may be written. -/
abbrev FieldNames := List String

namespace Document

/-- All documents given for a field. -/
def givenFor (names : FieldNames) (members : List (Option String × Document)) : List Document :=
  members.filterMap fun (key, d) =>
    match key with
    | some k => if names.contains k then some d else none
    | none => none

/-- The document given for a field among members, if there is one; nothing at all when there are two. -/
def single? (names : FieldNames) (members : List (Option String × Document)) : Option (Option Document) :=
  match givenFor names members with
  | [] => some none
  | [d] => some (some d)
  | _ => none

/-- What a document gives for each field of a record. -/
def fields? (schema : List FieldNames) : Document → Option (List (Option Document))
  | .object members =>
    if members.all (·.1.isSome) then schema.mapM (single? · members) else none
  | .array items =>
    if items.length ≤ schema.length then
      some (items.map some ++ List.replicate (schema.length - items.length) none)
    else none
  | .plain "" => some (schema.map fun _ => none)
  | _ => none

/-- A text. -/
def asString? : Document → Option String
  | .string s => s
  | .plain s => some s
  | _ => none

/-- A truth value. -/
def asBool? : Document → Option Bool
  | .bool b => some b
  | .plain s => Scalar.bool? s
  | _ => none

/-- An integer from zero up to the largest of 64 bits. -/
def asCount? : Document → Option Nat
  | .number (some (.integer n)) => if 0 ≤ n ∧ n < 2 ^ 64 then some n.toNat else none
  | _ => none

/-- A list of what each item is read as. -/
def asList? {α : Type} (read : Document → Option α) : Document → Option (List α)
  | .array items => items.mapM read
  | .plain "" => some []
  | _ => none

/-- Null for none, or something. -/
def asOption? {α : Type} (read : Document → Option α) : Document → Option (Option α)
  | .null => some none
  | .plain s => if Scalar.isNull s then some none else (read (.plain s)).map some
  | d => (read d).map some

/-- A choice between names: written as the name, or as an object that holds null under it. -/
def asChoice? {α : Type} (choice : String → Option α) : Document → Option α
  | .string (some s) => choice s
  | .plain s => choice s
  | .object [(some s, .null)] => choice s
  | _ => none

end Document

/-- A field that must be given. -/
def required {α : Type} (read : Document → Option α) (given : Option Document) : Option α :=
  given.bind read

/-- A field with a default for when it is not given. -/
def defaulting {α : Type} (read : Document → Option α) (default : α) : Option Document → Option α
  | none => some default
  | some d => read d

end JoinCanvas.Json
