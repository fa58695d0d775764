import JoinCanvas.Decimal.Reading
import JoinCanvas.Json.Document

/-!
# Scalars of settings

Strings in four kinds of quotes, and words: truth values, integers in four bases, floating point numbers, dates and
times.  Digits may be grouped by single underscores.  An integer has 64 bits with a sign.
-/

namespace JoinCanvas.Toml

open JoinCanvas.Decimal JoinCanvas.Json

/-- Whether a character may stand in a string or a comment: all but the control characters, of which only the tab
may. -/
def isVisible (c : Char) : Bool :=
  c = '\t' || (32 ≤ c.toNat && c.toNat ≠ 127)

/-- The white space within a line. -/
def isBlank (c : Char) : Bool :=
  c = ' ' || c = '\t'

/-- What follows the end of a line. -/
def afterNewline? : List Char → Option (List Char)
  | '\n' :: rest => some rest
  | '\r' :: '\n' :: rest => some rest
  | _ => none

/-- The character with a number in hexadecimal digits. -/
def numbered? (digits : List Char) : Option Char := do
  let n ← natIn? 16 digits
  if n.isValidChar then some (Char.ofNat n) else none

/-- The character behind a backslash, for the escapes of one letter. -/
def shortEscape? (c : Char) : Option Char :=
  match c with
  | 'b' => some (Char.ofNat 8)
  | 't' => some '\t'
  | 'n' => some '\n'
  | 'f' => some (Char.ofNat 12)
  | 'r' => some '\r'
  | '"' => some '"'
  | '\\' => some '\\'
  | _ => none

/-- Puts a character in front of a string that has been read. -/
def prepend? (c? : Option Char) (read? : Option (List Char × List Char)) : Option (List Char × List Char) :=
  match c?, read? with
  | some c, some (cs, rest) => some (c :: cs, rest)
  | _, _ => none

/-- The string up to its closing quote, and what follows. -/
def readBasic? : List Char → Option (List Char × List Char)
  | [] => none
  | '"' :: rest => some ([], rest)
  | '\\' :: 'u' :: a :: b :: c :: d :: rest => prepend? (numbered? [a, b, c, d]) (readBasic? rest)
  | '\\' :: 'U' :: a :: b :: c :: d :: e :: f :: g :: h :: rest =>
    prepend? (numbered? [a, b, c, d, e, f, g, h]) (readBasic? rest)
  | '\\' :: c :: rest => prepend? (shortEscape? c) (readBasic? rest)
  | c :: rest => if isVisible c && c != '\\' then prepend? (some c) (readBasic? rest) else none

/-- The string up to its three closing quotes; one or two more quotes before them belong to it.  A backslash at the
end of a line hides the white space that follows, which `hiding` says is being passed over. -/
def readLongBasic? : Bool → List Char → Option (List Char × List Char)
  | _, [] => none
  | true, ' ' :: rest => readLongBasic? true rest
  | true, '\t' :: rest => readLongBasic? true rest
  | true, '\n' :: rest => readLongBasic? true rest
  | true, '\r' :: '\n' :: rest => readLongBasic? true rest
  | _, '"' :: '"' :: '"' :: '"' :: '"' :: rest => some (['"', '"'], rest)
  | _, '"' :: '"' :: '"' :: '"' :: rest => some (['"'], rest)
  | _, '"' :: '"' :: '"' :: rest => some ([], rest)
  | _, '\\' :: 'u' :: a :: b :: c :: d :: rest => prepend? (numbered? [a, b, c, d]) (readLongBasic? false rest)
  | _, '\\' :: 'U' :: a :: b :: c :: d :: e :: f :: g :: h :: rest =>
    prepend? (numbered? [a, b, c, d, e, f, g, h]) (readLongBasic? false rest)
  | _, '\\' :: c :: rest =>
    if (afterNewline? ((c :: rest).dropWhile isBlank)).isSome then readLongBasic? true (c :: rest)
    else prepend? (shortEscape? c) (readLongBasic? false rest)
  | _, '\r' :: '\n' :: rest => prepend? (some '\n') (readLongBasic? false rest)
  | _, c :: rest =>
    if (isVisible c || c = '\n') && c != '\\' then prepend? (some c) (readLongBasic? false rest) else none

/-- The string up to its closing apostrophe, as it stands. -/
def readLiteral? : List Char → Option (List Char × List Char)
  | [] => none
  | '\x27' :: rest => some ([], rest)
  | c :: rest => if isVisible c then prepend? (some c) (readLiteral? rest) else none

/-- The string up to its three closing apostrophes, as it stands; one or two more before them belong to it. -/
def readLongLiteral? : List Char → Option (List Char × List Char)
  | [] => none
  | '\x27' :: '\x27' :: '\x27' :: '\x27' :: '\x27' :: rest => some (['\x27', '\x27'], rest)
  | '\x27' :: '\x27' :: '\x27' :: '\x27' :: rest => some (['\x27'], rest)
  | '\x27' :: '\x27' :: '\x27' :: rest => some ([], rest)
  | '\r' :: '\n' :: rest => prepend? (some '\n') (readLongLiteral? rest)
  | c :: rest => if isVisible c || c = '\n' then prepend? (some c) (readLongLiteral? rest) else none

/-- A text without the end of a line at its start. -/
def withoutNewline (cs : List Char) : List Char :=
  (afterNewline? cs).getD cs

/-- The string at the start of a text that starts with a quote. -/
def readString? : List Char → Option (String × List Char)
  | '"' :: '"' :: '"' :: rest =>
    (readLongBasic? false (withoutNewline rest)).map fun (s, rest) => (String.ofList s, rest)
  | '"' :: rest => (readBasic? rest).map fun (s, rest) => (String.ofList s, rest)
  | '\x27' :: '\x27' :: '\x27' :: rest =>
    (readLongLiteral? (withoutNewline rest)).map fun (s, rest) => (String.ofList s, rest)
  | '\x27' :: rest => (readLiteral? rest).map fun (s, rest) => (String.ofList s, rest)
  | _ => none

/-- Digits without the underscores between them; nothing when an underscore does not stand between digits. -/
def ungrouped? (isDigit : Char → Bool) : List Char → Option (List Char)
  | [] => none
  | [c] => if isDigit c then some [c] else none
  | c :: '_' :: rest => if isDigit c then (ungrouped? isDigit rest).map (c :: ·) else none
  | c :: rest => if isDigit c then (ungrouped? isDigit rest).map (c :: ·) else none

/-- A magnitude in base ten: no zero at its start unless it is the only digit. -/
def decimal? (cs : List Char) : Option Nat := do
  let digits ← ungrouped? isDigit cs
  if digits.head? = some '0' ∧ digits.length ≠ 1 then none else natIn? 10 digits

/-- A magnitude in another base. -/
def based? (base : Nat) (cs : List Char) : Option Nat := do
  natIn? base (← ungrouped? (fun c => (digitIn? base c).isSome) cs)

/-- The integer that a word writes. -/
def integer? : List Char → Option Int
  | '0' :: 'x' :: rest => (based? 16 rest).map Int.ofNat
  | '0' :: 'o' :: rest => (based? 8 rest).map Int.ofNat
  | '0' :: 'b' :: rest => (based? 2 rest).map Int.ofNat
  | '+' :: rest => (decimal? rest).map Int.ofNat
  | '-' :: rest => (decimal? rest).map fun n => -Int.ofNat n
  | cs => (decimal? cs).map Int.ofNat

/-- A word without one sign at its start. -/
def unsigned : List Char → List Char
  | '+' :: rest => rest
  | '-' :: rest => rest
  | cs => cs

/-- Whether a text is an exponent behind its letter: a sign, perhaps, and digits. -/
def isExponent (cs : List Char) : Bool :=
  (ungrouped? isDigit (unsigned cs)).isSome

/-- Whether a text is empty, or an exponent with its letter. -/
def isOptionalExponent : List Char → Bool
  | [] => true
  | c :: rest => (c = 'e' || c = 'E') && isExponent rest

/-- Whether a character continues a group of digits. -/
def isDigitOrMark (c : Char) : Bool :=
  isDigit c || c = '_'

/-- Whether a word is a floating point number: digits with a point between them, an exponent, or both. -/
def isFloat (cs : List Char) : Bool :=
  let cs := unsigned cs
  if cs = "inf".toList || cs = "nan".toList then true
  else
    (decimal? (cs.takeWhile isDigitOrMark)).isSome &&
      match cs.dropWhile isDigitOrMark with
      | '.' :: rest =>
        (ungrouped? isDigit (rest.takeWhile isDigitOrMark)).isSome && isOptionalExponent (rest.dropWhile isDigitOrMark)
      | [] => false
      | rest => isOptionalExponent rest

/-- The number that a floating point word writes.  What is no number of the 64 bit format is kept as such, but a
positive number that is too large is no word at all. -/
def float? (cs : List Char) : Option Document :=
  if isFloat cs then
    match binary? (cs.filter (· != '_')) with
    | some x => some (.number (some (.float x)))
    | none => if cs.head? = some '-' ∨ !(unsigned cs).head?.any isDigit then some (.number none) else none
  else none

/-- The number that two digits write, when it lies in a range. -/
def twoDigits? (low high : Nat) (a b : Char) : Option Nat := do
  let n ← natIn? 10 [a, b]
  if low ≤ n ∧ n ≤ high then some n else none

/-- How many days a month has. -/
def daysIn (year month : Nat) : Nat :=
  if month = 2 then (if year % 4 = 0 ∧ (year % 100 ≠ 0 ∨ year % 400 = 0) then 29 else 28)
  else if [4, 6, 9, 11].contains month then 30
  else 31

/-- What follows a date. -/
def afterDate? : List Char → Option (List Char)
  | a :: b :: c :: d :: '-' :: m :: n :: '-' :: e :: f :: rest => do
    let year ← natIn? 10 [a, b, c, d]
    let month ← twoDigits? 1 12 m n
    let _ ← twoDigits? 1 (daysIn year month) e f
    return rest
  | _ => none

/-- What follows a time of day. -/
def afterTime? : List Char → Option (List Char)
  | a :: b :: ':' :: c :: d :: ':' :: e :: f :: rest => do
    let _ ← twoDigits? 0 23 a b
    let _ ← twoDigits? 0 59 c d
    let _ ← twoDigits? 0 60 e f
    match rest with
    | '.' :: places => if (places.takeWhile isDigit).isEmpty then none else some (places.dropWhile isDigit)
    | rest => some rest
  | _ => none

/-- Whether a text is a distance from universal time, or empty. -/
def isOffset : List Char → Bool
  | [] => true
  | [c] => c = 'Z' || c = 'z'
  | [sign, a, b, ':', c, d] =>
    (sign = '+' || sign = '-') && (twoDigits? 0 23 a b).isSome && (twoDigits? 0 59 c d).isSome
  | _ => false

/-- Whether a text is a time of day, with the distance from universal time or without. -/
def isTimeWithOffset (cs : List Char) : Bool :=
  (afterTime? cs).any isOffset

/-- Whether a word is a date, a time of day, or a date with a time. -/
def isDateOrTime (cs : List Char) : Bool :=
  match afterDate? cs with
  | some [] => true
  | some (c :: rest) => (c = 'T' || c = 't') && isTimeWithOffset rest
  | none => (afterTime? cs).any List.isEmpty

/-- A date or time as a document: a record with one member, which no setting has. -/
def dateDocument (cs : List Char) : Document :=
  .object [(some "datetime", .string (some (String.ofList cs)))]

/-- What a word writes. -/
def word? (cs : List Char) : Option Document :=
  if cs = "true".toList then some (.bool true)
  else if cs = "false".toList then some (.bool false)
  else
    match integer? cs with
    | some n => if -(2 ^ 63) ≤ n ∧ n < 2 ^ 63 then some (.number (some (.integer n))) else none
    | none => if isDateOrTime cs then some (dateDocument cs) else float? cs

/-- The characters of words. -/
def isWordPart (c : Char) : Bool :=
  isDigit c || ('a' ≤ c && c ≤ 'z') || ('A' ≤ c && c ≤ 'Z') || ['+', '-', '_', '.', ':'].contains c

/-- The word at the start of a text.  A time of day may follow a date behind a blank. -/
def readWord? (cs : List Char) : Option (Document × List Char) :=
  let word := cs.takeWhile isWordPart
  let rest := cs.dropWhile isWordPart
  match afterDate? word, rest with
  | some [], ' ' :: d :: more =>
    if isDigit d then
      let time := (d :: more).takeWhile isWordPart
      if isTimeWithOffset time then some (dateDocument (word ++ ' ' :: time), (d :: more).dropWhile isWordPart)
      else none
    else some (dateDocument word, rest)
  | _, _ => (word? word).map (·, rest)

end JoinCanvas.Toml
