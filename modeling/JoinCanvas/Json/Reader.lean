import JoinCanvas.Json.Document
import JoinCanvas.Json.Numeral

/-!
# Reading JSON text

Strict JSON: no comments, no trailing commas, no text after the value, no raw control characters in strings.  Every
function returns what follows the part it read, or nothing where the text is not JSON.
-/

namespace JoinCanvas.Json

/-- The white space of JSON. -/
def isSpace (c : Char) : Bool :=
  c = ' ' || c = '\n' || c = '\t' || c = '\r'

/-- A text without the white space at its start. -/
def skipSpace (cs : List Char) : List Char :=
  cs.dropWhile isSpace

/-- The value of a hexadecimal digit. -/
def hexValue? (c : Char) : Option Nat :=
  if '0' ≤ c ∧ c ≤ '9' then some (c.toNat - 48)
  else if 'a' ≤ c ∧ c ≤ 'f' then some (c.toNat - 87)
  else if 'A' ≤ c ∧ c ≤ 'F' then some (c.toNat - 55)
  else none

/-- The number that four hexadecimal digits write. -/
def hexUnit? (a b c d : Char) : Option Nat := do
  return ((← hexValue? a) * 16 + (← hexValue? b)) * 256 + ((← hexValue? c) * 16 + (← hexValue? d))

/-- A part of a string: a character, or half of a surrogate pair. -/
inductive Piece where
  | char (c : Char)
  | half (n : Nat)
deriving DecidableEq, Repr

/-- The piece that a 16 bit unit stands for. -/
def pieceOfUnit (n : Nat) : Piece :=
  if 0xD800 ≤ n ∧ n < 0xE000 then .half n else .char (Char.ofNat n)

/-- The character behind a backslash, for the escapes of one letter. -/
def plainEscape? (c : Char) : Option Char :=
  match c with
  | '"' => some '"'
  | '\\' => some '\\'
  | '/' => some '/'
  | 'b' => some (Char.ofNat 8)
  | 'f' => some (Char.ofNat 12)
  | 'n' => some '\n'
  | 'r' => some '\r'
  | 't' => some '\t'
  | _ => none

/-- The pieces up to the closing quote. -/
def readPieces? : List Char → Option (List Piece × List Char)
  | [] => none
  | '"' :: rest => some ([], rest)
  | '\\' :: 'u' :: a :: b :: c :: d :: rest =>
    match hexUnit? a b c d, readPieces? rest with
    | some n, some (ps, rest) => some (pieceOfUnit n :: ps, rest)
    | _, _ => none
  | '\\' :: e :: rest =>
    match plainEscape? e, readPieces? rest with
    | some c, some (ps, rest) => some (.char c :: ps, rest)
    | _, _ => none
  | c :: rest =>
    if c.toNat < 32 ∨ c = '\\' then none
    else
      match readPieces? rest with
      | some (ps, rest) => some (.char c :: ps, rest)
      | none => none

/-- The characters of a string; nothing when half of a pair stands alone. -/
def charsOfPieces? : List Piece → Option (List Char)
  | [] => some []
  | .char c :: rest => (charsOfPieces? rest).map (c :: ·)
  | .half n :: .half m :: rest =>
    if n < 0xDC00 ∧ 0xDC00 ≤ m then
      (charsOfPieces? rest).map (Char.ofNat (0x10000 + (n - 0xD800) * 1024 + (m - 0xDC00)) :: ·)
    else none
  | .half _ :: _ => none

/-- The string whose opening quote has been read. -/
def readString? (cs : List Char) : Option (Option String × List Char) :=
  (readPieces? cs).map fun (ps, rest) => ((charsOfPieces? ps).map String.ofList, rest)

/-- What follows a word that the text starts with. -/
def afterWord? (word : String) (cs : List Char) : Option (List Char) :=
  word.toList.isPrefixOf? cs

mutual

/-- The value at the start of a text.  The number bounds the nesting and the items that are read; the length of the
text is enough. -/
def readValue? : Nat → List Char → Option (Document × List Char)
  | 0, _ => none
  | n + 1, cs =>
    match skipSpace cs with
    | '\x7b' :: rest =>
      match skipSpace rest with
      | '\x7d' :: rest => some (.object [], rest)
      | rest => (readMembers? n rest).map fun (ms, rest) => (.object ms, rest)
    | '[' :: rest =>
      match skipSpace rest with
      | ']' :: rest => some (.array [], rest)
      | rest => (readItems? n rest).map fun (ds, rest) => (.array ds, rest)
    | '"' :: rest => (readString? rest).map fun (s, rest) => (.string s, rest)
    | 'n' :: rest => (afterWord? "ull" rest).map (.null, ·)
    | 't' :: rest => (afterWord? "rue" rest).map (.bool true, ·)
    | 'f' :: rest => (afterWord? "alse" rest).map (.bool false, ·)
    | rest => (Numeral.read? rest).map fun (n, rest) => (.number n.number?, rest)

/-- Items up to the closing bracket; at least one. -/
def readItems? : Nat → List Char → Option (List Document × List Char)
  | 0, _ => none
  | n + 1, cs =>
    match readValue? n cs with
    | none => none
    | some (d, rest) =>
      match skipSpace rest with
      | ']' :: rest => some ([d], rest)
      | ',' :: rest => (readItems? n rest).map fun (ds, rest) => (d :: ds, rest)
      | _ => none

/-- Members up to the closing brace; at least one. -/
def readMembers? : Nat → List Char → Option (List (Option String × Document) × List Char)
  | 0, _ => none
  | n + 1, cs =>
    match skipSpace cs with
    | '"' :: rest =>
      match readString? rest with
      | none => none
      | some (key, rest) =>
        match skipSpace rest with
        | ':' :: rest =>
          match readValue? n rest with
          | none => none
          | some (d, rest) =>
            match skipSpace rest with
            | '\x7d' :: rest => some ([(key, d)], rest)
            | ',' :: rest => (readMembers? n rest).map fun (ms, rest) => ((key, d) :: ms, rest)
            | _ => none
        | _ => none
    | _ => none

end

namespace Document

/-- The document that a whole text writes. -/
def read? (text : String) : Option Document :=
  match readValue? (text.toList.length + 1) text.toList with
  | some (d, rest) => if (skipSpace rest).isEmpty then some d else none
  | none => none

end Document

namespace Value

/-- How deep the arrays and objects of a text may be nested where they are read. -/
def depthLimit : Nat := 127

/-- The value that a whole text writes. -/
def read? (text : String) : Option Value := do
  let d ← Document.read? text
  if d.depth ≤ depthLimit then d.toValue? else none

end Value

end JoinCanvas.Json
