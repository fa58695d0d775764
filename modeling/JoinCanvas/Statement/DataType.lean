import JoinCanvas.Decimal.Reading
import JoinCanvas.Statement.Parser

/-!
# Data types in SQL text

The types that a cast or a typed literal names, by their text.  A name that is none of the known types stands for a
type of its own.
-/

namespace JoinCanvas.Statement

open JoinCanvas.Text

namespace DataType

/-- Types that take no size. -/
def plainNames : List String :=
  ["BOOLEAN", "BOOL", "REAL", "FLOAT4", "FLOAT32", "FLOAT64", "FLOAT8", "INT16", "INT32", "INT64", "INT128", "INT256",
    "UINT8", "UINT16", "UINT32", "UINT64", "UINT128", "UINT256", "UUID", "DATE", "DATE32", "REGCLASS", "TINYBLOB",
    "MEDIUMBLOB", "LONGBLOB", "TEXT", "TINYTEXT", "MEDIUMTEXT", "LONGTEXT", "BYTEA", "JSON", "JSONB", "INTERVAL",
    "TRIGGER"]

/-- Types that may have a size. -/
def sizedNames : List String :=
  ["FLOAT", "TINYINT", "INT2", "SMALLINT", "MEDIUMINT", "INT", "INT4", "INT8", "INTEGER", "BIGINT", "CLOB", "BINARY",
    "VARBINARY", "BLOB", "BYTES", "BIT", "STRING", "DATETIME", "TIMESTAMP", "TIME", "TIMESTAMPTZ", "TIMETZ"]

/-- Types of texts, which may have a length in characters. -/
def textNames : List String := ["VARCHAR", "NVARCHAR", "CHAR", "CHARACTER"]

/-- Types that may have a precision and a scale. -/
def exactNames : List String :=
  ["NUMERIC", "DECIMAL", "DEC", "BIGNUMERIC", "BIGDECIMAL"]

/-- Types that list their values. -/
def listedNames : List String := ["ENUM", "SET"]

/-- Types of whole numbers, which may be unsigned. -/
def wholeNames : List String :=
  ["TINYINT", "INT2", "SMALLINT", "MEDIUMINT", "INT", "INT4", "INT8", "INTEGER", "BIGINT"]

/-- The words that may follow a type, each list with what it follows. -/
def endings (name : String) : List (List String) :=
  if name = "DOUBLE" then [["PRECISION"]]
  else if name = "TIMESTAMP" ∨ name = "TIME" then [["WITH", "TIME", "ZONE"], ["WITHOUT", "TIME", "ZONE"]]
  else if wholeNames.contains name then [["UNSIGNED"]]
  else []

/-- A whole number without sign, of at most 64 bits. -/
def size : Parser String := do
  match ← Parser.next with
  | .number text _ =>
    match Decimal.natIn? 10 text.toList with
    | some n => if n < 2 ^ 64 then return toString n else Parser.fail
    | none => Parser.fail
  | _ => Parser.fail

/-- Numbers in parentheses, if an opening parenthesis comes next; at most `n`. -/
def numbers (n : Nat) : Parser (List String) := do
  if ← Parser.sign "(" then
    let ns ← Parser.list size
    Parser.expect ")"
    if ns.length ≤ n then return ns else Parser.fail
  else return []

/-- Numbers in parentheses by their text; at most `n`. -/
def sizes (n : Nat) : Parser String := do
  let ns ← numbers n
  return if ns.isEmpty then "" else "(" ++ joined "," ns ++ ")"

/-- A length in parentheses, if an opening parenthesis comes next: a number, perhaps with its unit, or no limit. -/
def length : Parser String := do
  if ← Parser.sign "(" then
    let text ← if ← Parser.keyword "MAX" then pure "MAX" else do
      let n ← size
      match ← Parser.oneOf ["CHARACTERS", "OCTETS"] with
      | some unit => pure (n ++ " " ++ unit)
      | none => pure n
    Parser.expect ")"
    return "(" ++ text ++ ")"
  else return ""

/-- A text of `CHAR`, behind its word. -/
def characters : Parser String := do
  if ← Parser.keyword "VARYING" then return " VARYING" ++ (← length)
  else if ← Parser.keywords ["LARGE", "OBJECT"] then return " LARGE OBJECT" ++ (← sizes 1)
  else length

/-- One of the endings, with the blank before it. -/
def ending : List (List String) → Parser String
  | [] => return ""
  | ks :: rest => do
    if ← Parser.keywords ks then return " " ++ joined " " ks else ending rest

/-- The values of a type that lists them, in parentheses. -/
def values : Parser String := Parser.parenthesized do
  let value : Parser String := do
    match ← Parser.next with
    | .string .single text => return requotedText '\x27' text
    | _ => Parser.fail
  return "(" ++ joined ", " (← Parser.list value) ++ ")"

/-- A closing angle bracket.  Of two that are written together the second stays owed. -/
def closing (owed : Bool) : Parser Bool := do
  if owed then return false
  else if ← Parser.sign ">" then return false
  else if ← Parser.sign ">>" then return true
  else Parser.fail

/-- What a type modifier can be. -/
def modifier : Parser String := do
  match ← Parser.next with
  | .word text _ => return text
  | .number text _ => return text
  | .string .single text => return text
  | _ => Parser.fail

/-- Pairs of square brackets, each for a type of lists; at most `n`. -/
def brackets : Nat → Parser String
  | 0 => return ""
  | n + 1 => do
    if ← Parser.sign "[" then
      Parser.expect "]"
      return "[]" ++ (← brackets n)
    else return ""

/-- A type without square brackets behind it, with the reader of the types inside: its text, whether it is one of its
own, and whether a bracket is owed. -/
def single (inner : Parser (String × Bool × Bool)) : Parser (String × Bool × Bool) := do
  let k ← Parser.peekKeyword
  if plainNames.contains k then
    let _ ← Parser.next
    return (k, false, false)
  else if k = "DOUBLE" then
    let _ ← Parser.next
    return (k ++ (← ending (endings k)), false, false)
  else if sizedNames.contains k then
    let _ ← Parser.next
    let varying ← if k = "BIT" then ending [["VARYING"]] else pure ""
    let size ← sizes 1
    return (k ++ varying ++ size ++ (← ending (endings k)), false, false)
  else if textNames.contains k then
    let _ ← Parser.next
    return (k ++ (← if k = "CHAR" ∨ k = "CHARACTER" then characters else length), false, false)
  else if exactNames.contains k then
    let _ ← Parser.next
    return (k ++ (← sizes 2), false, false)
  else if listedNames.contains k then
    let _ ← Parser.next
    return (k ++ (← values), false, false)
  else if k = "ARRAY" then
    let _ ← Parser.next
    Parser.expect "<"
    let (type, _, owed) ← inner
    return ("ARRAY<" ++ type ++ ">", false, ← closing owed)
  else
    let name ← Parser.path
    if ← Parser.sign "(" then
      let ms ← Parser.list modifier
      Parser.expect ")"
      return (pathText name ++ "(" ++ joined ", " ms ++ ")", true, false)
    else return (pathText name, true, false)

/-- A type, nested at most `n` deep: its text, whether it is one of its own, and whether a bracket is owed. -/
def read : Nat → Parser (String × Bool × Bool)
  | 0 => Parser.fail
  | n + 1 => do
    let (type, own, owed) ← single (read n)
    return (type ++ (← brackets (← Parser.size)), own, owed)

/-- The types of the fields of a record behind the opening bracket, each perhaps with a name, and whether a bracket is
owed behind them; at most `n`. -/
def fieldTypes : Nat → Parser (List String × Bool)
  | 0 => Parser.fail
  | n + 1 => do
    let name ← match ← Parser.peek?, ← Parser.peekSecond? with
      | some (.word _ _), some (.word _ _) => pure ((← Parser.ident).text ++ " ")
      | _, _ => pure ""
    let (type, _, owed) ← read (← Parser.size)
    if ← Parser.sign "," then
      if owed then Parser.fail
      else
        let (types, owed) ← fieldTypes n
        return ((name ++ type) :: types, owed)
    else return ([name ++ type], owed)

/-- The types of the fields of a record, up to the closing bracket. -/
def fields : Parser String := do
  let (types, owed) ← fieldTypes (← Parser.size)
  if ← closing owed then Parser.fail else return joined ", " types

end DataType

/-- A data type: its text, and whether it is one of its own. -/
def dataType : Parser (String × Bool) := do
  let (text, own, owed) ← DataType.read (← Parser.size)
  if owed then Parser.fail
  else return (text, own)

end JoinCanvas.Statement
