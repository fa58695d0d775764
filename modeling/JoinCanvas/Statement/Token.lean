import JoinCanvas.Sql.Quote

/-!
# Tokens of SQL text

A text is a sequence of words, numbers, strings and signs; white space and comments stand between them and mean
nothing.  A quote inside a quoted token is written twice; a backslash is a character like any other.
-/

namespace JoinCanvas.Statement

open JoinCanvas.Text

/-- How a string is written.  The text of a `dollar` string holds its marks. -/
inductive StringKind where
  | single
  | double
  | national
  | hexadecimal
  | dollar
deriving DecidableEq, Repr

instance : Inhabited StringKind := ⟨.single⟩

/-- A token.  A word keeps the quote it was written in, a number its text and whether it is marked as long. -/
inductive Token where
  | word (text : String) (quote : Option Char)
  | number (text : String) (long : Bool)
  | string (kind : StringKind) (text : String)
  | placeholder (text : String)
  | sign (text : String)
deriving DecidableEq, Repr

instance : Inhabited Token := ⟨.sign ""⟩

/-- Whether a word without quotes can start with a character. -/
def startsWord (c : Char) : Bool :=
  c.isAlpha || c = '_'

/-- Whether a word without quotes can go on with a character. -/
def continuesWord (c : Char) : Bool :=
  c.isAlphanum || c = '_'

/-- The signs, longer ones before those they start with. -/
def signs : List String :=
  ["<=>", "->>", "#>>", "!~~*", "!~~", "!~*", "||/", "<>", "!=", "<=", ">=", "<<", ">>", "<@", "@>", "@?", "@@", "==",
    "=>", "||", "|/", "::", ":=", "->", "&&", "!~", "!!", "~~*", "~~", "~*", "#>", "#-", "^@", "(", ")", ",", ";", "+",
    "-", "*", "/", "%", "=", "<", ">", "|", "&", "^", "~", "!", "#", "@", "\\", "[", "]", "\x7b", "\x7d", ":"]

/-- The sign at the start of a text, and what follows it. -/
def sign? (cs : List Char) : Option (Token × List Char) :=
  signs.findSome? fun s => (s.toList.isPrefixOf? cs).map fun rest => (.sign s, rest)

/-- What follows a line comment. -/
def afterLine (cs : List Char) : List Char :=
  cs.dropWhile (· ≠ '\n')

/-- What follows a block comment inside `depth` others; comments nest. -/
def afterBlock? : Nat → List Char → Option (List Char)
  | _, [] => none
  | depth, '/' :: '*' :: rest => afterBlock? (depth + 1) rest
  | depth, '*' :: '/' :: rest => if depth = 0 then some rest else afterBlock? (depth - 1) rest
  | depth, _ :: rest => afterBlock? depth rest

/-- The exponent at the start of a text, when digits follow its mark, and the rest. -/
def spanExponent (cs : List Char) : List Char × List Char :=
  let digits (head rest : List Char) : List Char × List Char :=
    if (rest.takeWhile Char.isDigit).isEmpty then ([], cs)
    else (head ++ rest.takeWhile Char.isDigit, rest.dropWhile Char.isDigit)
  match cs with
  | e :: s :: rest =>
    if e = 'e' || e = 'E' then
      if s = '+' || s = '-' then digits [e, s] rest else digits [e] (s :: rest)
    else ([], cs)
  | _ => ([], cs)

/-- The number at the start of a text that begins with a digit or a point, and the rest. -/
def number (cs : List Char) : Token × List Char :=
  let whole := cs.takeWhile Char.isDigit
  let rest := cs.dropWhile Char.isDigit
  match whole, rest with
  | ['0'], 'x' :: rest =>
    let isHex (c : Char) : Bool := c.isDigit || ('a' ≤ c && c ≤ 'f') || ('A' ≤ c && c ≤ 'F')
    (.string .hexadecimal (String.ofList (rest.takeWhile isHex)), rest.dropWhile isHex)
  | _, _ =>
    let (point, rest) := match rest with
      | '.' :: rest => ('.' :: rest.takeWhile Char.isDigit, rest.dropWhile Char.isDigit)
      | rest => ([], rest)
    if whole ++ point = ['.'] then (.sign ".", rest)
    else
      let (exponent, rest) := spanExponent rest
      let text := String.ofList (whole ++ point ++ exponent)
      match rest with
      | 'L' :: rest => (.number text true, rest)
      | rest => (.number text false, rest)

/-- A token behind a dollar sign: a string between two equal marks, or a placeholder. -/
def dollar? (cs : List Char) : Option (Token × List Char) :=
  let mark := cs.takeWhile fun c => c.isAlphanum || c = '_'
  match cs.drop mark.length with
  | '$' :: rest => body mark [] rest
  | rest => some (.placeholder (String.ofList ('$' :: mark)), rest)
where
  /-- Reads up to the closing mark. -/
  body (mark : List Char) (read : List Char) : List Char → Option (Token × List Char)
    | [] => none
    | c :: rest =>
      match ('$' :: (mark ++ ['$'])).isPrefixOf? (c :: rest) with
      | some rest =>
        let whole := '$' :: (mark ++ ['$']) ++ read.reverse ++ '$' :: (mark ++ ['$'])
        some (.string .dollar (String.ofList whole), rest)
      | none => body mark (c :: read) rest

/-- A quoted token of which the opening quote has been read. -/
def quoted? (quote : Char) (token : String → Token) (cs : List Char) : Option (Token × List Char) :=
  (Sql.unquoted? quote cs).map fun (text, rest) => (token (String.ofList text), rest)

/-- The word at the start of a text. -/
def word (cs : List Char) : Token × List Char :=
  (.word (String.ofList (cs.takeWhile continuesWord)) none, cs.dropWhile continuesWord)

/-- The token at the start of a text without white space and comments before it. -/
def token? : List Char → Option (Token × List Char)
  | [] => none
  | '\x27' :: rest => quoted? '\x27' (.string .single) rest
  | '"' :: rest => quoted? '"' (.string .double) rest
  | '\x60' :: rest => quoted? '\x60' (fun s => .word s (some '\x60')) rest
  | 'N' :: '\x27' :: rest => quoted? '\x27' (.string .national) rest
  | 'n' :: '\x27' :: rest => quoted? '\x27' (.string .national) rest
  | 'X' :: '\x27' :: rest => quoted? '\x27' (.string .hexadecimal) rest
  | 'x' :: '\x27' :: rest => quoted? '\x27' (.string .hexadecimal) rest
  | '?' :: rest => some (.placeholder (String.ofList ('?' :: rest.takeWhile isNumeral)), rest.dropWhile isNumeral)
  | '$' :: rest => dollar? rest
  | c :: rest =>
    if c.isDigit || c = '.' then some (number (c :: rest))
    else if startsWord c then some (word (c :: rest))
    else sign? (c :: rest)
where
  /-- The digits of a numbered placeholder. -/
  isNumeral (c : Char) : Bool := c.isDigit

/-- The tokens of a text.  The number bounds the steps; the length of the text is enough. -/
def read? : Nat → List Char → Option (List Token)
  | _, [] => some []
  | 0, _ => none
  | n + 1, c :: cs =>
    if isBlank c then read? n cs
    else
      match c, cs with
      | '-', '-' :: rest => read? n (afterLine rest)
      | '/', '*' :: rest => (afterBlock? 0 rest).bind (read? n)
      | _, _ =>
        match token? (c :: cs) with
        | some (t, rest) => (read? n rest).map (t :: ·)
        | none => none

/-- The tokens of a text; nothing where it is not made of tokens. -/
def tokens? (sql : String) : Option (List Token) :=
  read? sql.toList.length sql.toList

end JoinCanvas.Statement
