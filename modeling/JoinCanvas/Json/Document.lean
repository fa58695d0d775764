import JoinCanvas.Json.Scalar

/-!
# JSON documents

What a JSON text says, before it is read as anything: members in the order and as often as they are written, numbers
too large for the 64 bit format and strings with half of a surrogate pair kept as such.  A part of a text that is
passed over need not mean anything; a part that is read must.  Texts of other formats are documents too; there a
scalar may stand without quotes.
-/

namespace JoinCanvas.Json

/-- The content of a text.  A number or string that stands for no value is written `none`; `plain` is a scalar
without quotes. -/
inductive Document where
  | null
  | bool (b : Bool)
  | number (n : Option Number)
  | string (s : Option String)
  | plain (s : String)
  | array (items : List Document)
  | object (members : List (Option String × Document))
deriving Repr, Inhabited

namespace Document

mutual

/-- The value a document stands for; of equal keys the last one counts. -/
def toValue? : Document → Option Value
  | .null => some .null
  | .bool b => some (.bool b)
  | .number n => n.map .number
  | .string s => s.map .string
  | .plain s => Scalar.value? s
  | .array items => (itemValues? items).map .array
  | .object members => (memberValues? members).map .record

/-- The values of the items of an array. -/
def itemValues? : List Document → Option (List Value)
  | [] => some []
  | d :: rest =>
    match toValue? d, itemValues? rest with
    | some v, some vs => some (v :: vs)
    | _, _ => none

/-- The values of the members of an object. -/
def memberValues? : List (Option String × Document) → Option Members
  | [] => some []
  | (key, d) :: rest =>
    match key, toValue? d, memberValues? rest with
    | some k, some v, some ms => some ((k, v) :: ms)
    | _, _, _ => none

end

mutual

/-- How deep arrays and objects are nested. -/
def depth : Document → Nat
  | .array items => itemsDepth items + 1
  | .object members => membersDepth members + 1
  | _ => 0

/-- The greatest depth among items. -/
def itemsDepth : List Document → Nat
  | [] => 0
  | d :: rest => max (depth d) (itemsDepth rest)

/-- The greatest depth among members. -/
def membersDepth : List (Option String × Document) → Nat
  | [] => 0
  | (_, d) :: rest => max (depth d) (membersDepth rest)

end

mutual

/-- The document with every unquoted scalar replaced by the value that its text shows. -/
def resolved : Document → Document
  | .plain s =>
    match Scalar.value? s with
    | some .null => .null
    | some (.bool b) => .bool b
    | some (.number n) => .number (some n)
    | some (.string s) => .string (some s)
    | _ => .number none
  | .array items => .array (itemsResolved items)
  | .object members => .object (membersResolved members)
  | d => d

/-- The items, each resolved. -/
def itemsResolved : List Document → List Document
  | [] => []
  | d :: rest => resolved d :: itemsResolved rest

/-- The members, each resolved. -/
def membersResolved : List (Option String × Document) → List (Option String × Document)
  | [] => []
  | (key, d) :: rest => (key, resolved d) :: membersResolved rest

end

end Document

namespace Value

mutual

/-- A value as a document. -/
def toDocument : Value → Document
  | .null => .null
  | .bool b => .bool b
  | .number n => .number (some n)
  | .string s => .string (some s)
  | .array items => .array (itemDocuments items)
  | .object members => .object (memberDocuments members)

/-- Items as documents. -/
def itemDocuments : List Value → List Document
  | [] => []
  | v :: rest => toDocument v :: itemDocuments rest

/-- Members as documents. -/
def memberDocuments : Members → List (Option String × Document)
  | [] => []
  | (k, v) :: rest => (some k, toDocument v) :: memberDocuments rest

end

end Value

end JoinCanvas.Json
