import JoinCanvas.Statement.Expr
import JoinCanvas.Statement.Token
import JoinCanvas.Text.Letters

/-!
# Readers of token lists

A parser takes what it reads off the front of a list of tokens, or fails.  Keywords are words without quotes, in any
case; they are not reserved, so a parser that does not expect a keyword takes it as a name.
-/

namespace JoinCanvas.Statement

open JoinCanvas.Text

/-- A function that reads the front of a list of tokens and leaves the rest. -/
abbrev Parser (α : Type) := StateT (List Token) Option α

namespace Parser

/-- Fails. -/
def fail {α : Type} : Parser α := fun _ => none

/-- The next token, which stays. -/
def peek? : Parser (Option Token) := fun ts => some (ts.head?, ts)

/-- The token behind the next one, which both stay. -/
def peekSecond? : Parser (Option Token) := fun ts => some ((ts.drop 1).head?, ts)

/-- How many tokens are left. -/
def size : Parser Nat := fun ts => some (ts.length, ts)

/-- Takes the next token. -/
def next : Parser Token
  | [] => none
  | t :: rest => some (t, rest)

/-- Takes the next token if it is the given one. -/
def accept (t : Token) : Parser Bool
  | [] => some (false, [])
  | u :: rest => if u = t then some (true, rest) else some (false, u :: rest)

/-- Takes a sign if it comes next. -/
def sign (s : String) : Parser Bool := accept (.sign s)

/-- Takes a sign. -/
def expect (s : String) : Parser Unit := do
  if ← sign s then return () else fail

/-- Whether a token is a keyword. -/
def isKeyword (k : String) : Token → Bool
  | .word text none => uppered text == k
  | _ => false

/-- The keyword that a token is in upper case; empty for other tokens. -/
def keywordOf : Option Token → String
  | some (.word text none) => uppered text
  | _ => ""

/-- The keyword that comes next, in upper case; empty when no word without quotes does. -/
def peekKeyword : Parser String := do
  return keywordOf (← peek?)

/-- The keyword behind the next token. -/
def peekSecondKeyword : Parser String := do
  return keywordOf (← peekSecond?)

/-- Takes a keyword if it comes next. -/
def keyword (k : String) : Parser Bool
  | [] => some (false, [])
  | u :: rest => if isKeyword k u then some (true, rest) else some (false, u :: rest)

/-- What follows the keywords, when a list starts with them. -/
def afterKeywords? : List String → List Token → Option (List Token)
  | [], ts => some ts
  | _ :: _, [] => none
  | k :: ks, t :: ts => if isKeyword k t then afterKeywords? ks ts else none

/-- Takes keywords if all of them come next. -/
def keywords (ks : List String) : Parser Bool := fun ts =>
  match afterKeywords? ks ts with
  | some rest => some (true, rest)
  | none => some (false, ts)

/-- Takes a keyword. -/
def expectKeyword (k : String) : Parser Unit := do
  if ← keyword k then return () else fail

/-- Takes one of the keywords if one comes next. -/
def oneOf (ks : List String) : Parser (Option String) := do
  let k ← peekKeyword
  if k ≠ "" ∧ ks.contains k then
    let _ ← next
    return some k
  else return none

/-- Reads something or, where that fails, nothing. -/
def attempt {α : Type} (p : Parser α) : Parser (Option α) := fun ts =>
  match p ts with
  | some (a, rest) => some (some a, rest)
  | none => some (none, ts)

/-- Reads more members of a list while a comma comes next; at most `n`. -/
def more {α : Type} (p : Parser α) : Nat → Parser (List α)
  | 0 => return []
  | n + 1 => do
    if ← sign "," then
      let a ← p
      return a :: (← more p n)
    else return []

/-- Reads a list with commas between its members; at least one. -/
def list {α : Type} (p : Parser α) : Parser (List α) := do
  let a ← p
  return a :: (← more p (← size))

/-- Reads something between parentheses. -/
def parenthesized {α : Type} (p : Parser α) : Parser α := do
  expect "("
  let a ← p
  expect ")"
  return a

/-- A name: a word, or a string in its place. -/
def ident : Parser Ident := do
  match ← next with
  | .word text quote => return ⟨text, quote⟩
  | .string .single text => return ⟨text, some '\x27'⟩
  | .string .double text => return ⟨text, some '"'⟩
  | _ => fail

/-- Reads the further parts of a qualified name; at most `n`. -/
def morePath : Nat → Parser (List Ident)
  | 0 => return []
  | n + 1 => do
    if ← sign "." then
      let i ← ident
      return i :: (← morePath n)
    else return []

/-- A qualified name. -/
def path : Parser (List Ident) := do
  let i ← ident
  return i :: (← morePath (← size))

/-- A string that stands alone, or a word that is no keyword in its place. -/
def literalString (keywords : List String) : Parser String := do
  match ← next with
  | .word text none => if keywords.contains (uppered text) then fail else return text
  | .word text (some _) => return text
  | .string .single text => return text
  | .string .double text => return text
  | _ => fail

/-- A name behind `AS`, or one that is none of the reserved words. -/
def alias? (reserved : List String) : Parser (Option Ident) := do
  if ← keyword "AS" then
    return some (← ident)
  else
    match ← peek? with
    | some (.word text none) =>
      if reserved.contains (uppered text) then return none
      else
        let _ ← next
        return some ⟨text, none⟩
    | some (.word text quote) =>
      let _ ← next
      return some ⟨text, quote⟩
    | some (.string .single text) =>
      let _ ← next
      return some ⟨text, some '\x27'⟩
    | some (.string .double text) =>
      let _ ← next
      return some ⟨text, some '"'⟩
    | _ => return none

end Parser

end JoinCanvas.Statement
