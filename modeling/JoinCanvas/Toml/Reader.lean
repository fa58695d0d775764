import JoinCanvas.Toml.Scalar
import JoinCanvas.Toml.Table

/-!
# Reading settings

A text of settings is a sequence of lines: headers, which open tables, and keys with their values, which belong to the
table opened last.  `Toml.read?` gives the document that the lines write, or nothing when one of them cannot be read or
says something twice.
-/

namespace JoinCanvas.Toml

open JoinCanvas.Json

/-- A line that says something. -/
inductive Line where
  | table (path : List String) (key : String)
  | element (path : List String) (key : String)
  | value (path : List String) (key : String) (d : Document)
deriving Repr, Inhabited

/-- How deep arrays and tables may be nested in one value, and how many parts a key may have. -/
def nestingLimit : Nat := 79

/-- What follows a comment, if there is one, up to the end of the line. -/
def skipComment : List Char → List Char
  | '#' :: rest => rest.dropWhile isVisible
  | cs => cs

/-- A text without the blanks at its start. -/
def skipBlank (cs : List Char) : List Char :=
  cs.dropWhile isBlank

/-- What follows the rest of a line in which nothing more is said. -/
def afterLine? (cs : List Char) : Option (List Char) :=
  match skipComment (skipBlank cs) with
  | [] => some []
  | cs => afterNewline? cs

/-- A text without the blanks, comments and ends of lines at its start.  The number bounds the lines; the length of
the text is enough. -/
def skipLines? : Nat → List Char → Option (List Char)
  | 0, _ => none
  | n + 1, cs =>
    match skipBlank cs with
    | '#' :: rest => (afterNewline? (rest.dropWhile isVisible)).bind (skipLines? n)
    | cs =>
      match afterNewline? cs with
      | some rest => skipLines? n rest
      | none => some cs

/-- The characters of keys without quotes. -/
def isBare (c : Char) : Bool :=
  Decimal.isDigit c || ('a' ≤ c && c ≤ 'z') || ('A' ≤ c && c ≤ 'Z') || c = '_' || c = '-'

/-- One part of a key. -/
def readKeyPart? : List Char → Option (String × List Char)
  | '"' :: rest => (readBasic? rest).map fun (s, rest) => (String.ofList s, rest)
  | '\x27' :: rest => (readLiteral? rest).map fun (s, rest) => (String.ofList s, rest)
  | cs =>
    let name := cs.takeWhile isBare
    if name.isEmpty then none else some (String.ofList name, cs.dropWhile isBare)

/-- The parts of a key: those that lead to it, and the last one. -/
def readKey? : Nat → List Char → Option (List String × String × List Char)
  | 0, _ => none
  | n + 1, cs => do
    let (name, rest) ← readKeyPart? (skipBlank cs)
    match skipBlank rest with
    | '.' :: rest =>
      let (path, last, rest) ← readKey? n rest
      return (name :: path, last, rest)
    | rest => return ([], name, rest)

mutual

/-- The value at the start of a text.  The first number bounds the nesting that is still allowed, the second one what
is read; the length of the text is enough. -/
def readValue? : Nat → Nat → List Char → Option (Document × List Char)
  | _, 0, _ => none
  | room, n + 1, cs =>
    match cs with
    | '"' :: _ => (readString? cs).map fun (s, rest) => (.string (some s), rest)
    | '\x27' :: _ => (readString? cs).map fun (s, rest) => (.string (some s), rest)
    | '[' :: ']' :: rest => some (.array [], rest)
    | '[' :: rest =>
      if room = 0 then none
      else (readItems? (room - 1) n rest).map fun (items, rest) => (.array items, rest)
    | '\x7b' :: rest =>
      if room = 0 then none
      else
        match skipBlank rest with
        | '\x7d' :: rest => some (.object [], rest)
        | rest =>
          (readAssignments? (room - 1) n rest []).map fun (entries, rest) => (.object (entryDocuments entries), rest)
    | cs => readWord? cs

/-- Items up to the closing bracket; a comma may follow the last one. -/
def readItems? : Nat → Nat → List Char → Option (List Document × List Char)
  | _, 0, _ => none
  | room, n + 1, cs => do
    match ← skipLines? (cs.length + 1) cs with
    | ']' :: rest => return ([], rest)
    | cs =>
      let (d, rest) ← readValue? room n cs
      match ← skipLines? (rest.length + 1) rest with
      | ']' :: rest => return ([d], rest)
      | ',' :: rest =>
        let (ds, rest) ← readItems? room n rest
        return (d :: ds, rest)
      | _ => none

/-- Keys with their values up to the closing brace; at least one. -/
def readAssignments? : Nat → Nat → List Char → Entries → Option (Entries × List Char)
  | _, 0, _, _ => none
  | room, n + 1, cs, entries => do
    let (path, key, rest) ← readKey? nestingLimit cs
    match rest with
    | '=' :: rest =>
      let (d, rest) ← readValue? room n (skipBlank rest)
      let entries ← entries.assign path key d
      match skipBlank rest with
      | '\x7d' :: rest => return (entries, rest)
      | ',' :: rest => readAssignments? room n rest entries
      | _ => none
    | _ => none

end

/-- The line at the start of a text that starts with a bracket, without its end. -/
def readHeader? : List Char → Option (Line × List Char)
  | '[' :: '[' :: rest => do
    let (path, key, rest) ← readKey? nestingLimit rest
    match rest with
    | ']' :: ']' :: rest => return (.element path key, rest)
    | _ => none
  | '[' :: rest => do
    let (path, key, rest) ← readKey? nestingLimit rest
    match rest with
    | ']' :: rest => return (.table path key, rest)
    | _ => none
  | _ => none

/-- A key with its value at the start of a text. -/
def readAssignment? (cs : List Char) : Option (Line × List Char) := do
  let (path, key, rest) ← readKey? nestingLimit cs
  match rest with
  | '=' :: rest =>
    let (d, rest) ← readValue? nestingLimit (rest.length + 1) (skipBlank rest)
    return (.value path key d, rest)
  | _ => none

/-- The lines of a text that say something. -/
def readLines? : Nat → List Char → Option (List Line)
  | 0, _ => none
  | n + 1, cs =>
    match afterLine? cs with
    | some [] => some []
    | some rest => readLines? n rest
    | none => do
      let cs := skipBlank cs
      let (line, rest) ← if cs.head? = some '[' then readHeader? cs else readAssignment? cs
      return line :: (← readLines? n (← afterLine? rest))

/-- The tables after lines; the path leads to the table opened last. -/
def tablesAfter? : List String → Entries → List Line → Option Entries
  | _, entries, [] => some entries
  | _, entries, .table path key :: rest => do tablesAfter? (path ++ [key]) (← entries.openTable path key) rest
  | _, entries, .element path key :: rest => do tablesAfter? (path ++ [key]) (← entries.openElement path key) rest
  | current, entries, .value path key d :: rest => do
    tablesAfter? current (← entries.assignIn current path key d) rest

/-- The document that a text of settings writes.  A mark of the byte order at its start is passed over. -/
def read? (text : String) : Option Document := do
  let cs := match text.toList with
    | '\ufeff' :: rest => rest
    | cs => cs
  let lines ← readLines? (cs.length + 1) cs
  return .object (entryDocuments (← tablesAfter? [] [] lines))

end JoinCanvas.Toml
