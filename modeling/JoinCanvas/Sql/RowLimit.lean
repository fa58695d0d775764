import JoinCanvas.Text.Blank
import JoinCanvas.Text.Letters
import JoinCanvas.Text.Word

/-!
# Row limits

A query text gets a row limit at its end unless it ends in one.  A line comment on the last line is not part of the
query: it is passed over in the test, and the limit goes on a line of its own behind it.
-/

namespace JoinCanvas.Sql

open JoinCanvas.Text

/-- The text without blanks and semicolons at its end: blanks, then semicolons, then blanks are taken off. -/
def statementBody (cs : List Char) : List Char :=
  trimEnd (dropTrailing (· = ';') (trimEnd cs))

/-- The text up to its last line feed, and what follows it: the last line. -/
def splitLastLine : List Char → List Char × List Char
  | [] => ([], [])
  | c :: rest =>
    match splitLastLine rest with
    | ([], line) => if c = '\n' then ([c], line) else ([], c :: line)
    | (before, line) => (c :: before, line)

theorem splitLastLine_append (cs : List Char) : (splitLastLine cs).1 ++ (splitLastLine cs).2 = cs := by
  induction cs with
  | nil => rfl
  | cons c rest ih =>
    simp only [splitLastLine]
    split
    · next line h =>
      rw [h] at ih
      split <;> simp_all
    · next before line _ h =>
      rw [h] at ih
      simpa using ih

/-- The text before the first `--`, when there is one. -/
def beforeComment? : List Char → Option (List Char)
  | '-' :: '-' :: _ => some []
  | [] => none
  | c :: rest => (beforeComment? rest).map (c :: ·)

/-- The text without a line comment on its last line, when there is one. -/
def withoutComment? (cs : List Char) : Option (List Char) :=
  let (before, line) := splitLastLine cs
  (beforeComment? line).map (before ++ ·)

/-- The word of a row limit, read backwards. -/
def limitBackwards : List Char := ['t', 'i', 'm', 'i', 'l']

/-- Whether a text, read backwards, is a word `LIMIT` in any case that starts a word. -/
def isLimitWord (backwards : List Char) : Bool :=
  (backwards.take 5).map Char.toLower == limitBackwards &&
    match (backwards.drop 5).head? with
    | none => true
    | some c => !isWordChar c

/-- Whether a text, read backwards, is a number behind the word `LIMIT` and blanks. -/
def isLimitNumber (backwards : List Char) : Bool :=
  let front := backwards.dropWhile isAnyDigit
  (backwards.head?.any isAnyDigit) && (front.head?.any isBlank) && isLimitWord (front.dropWhile isBlank)

/-- Whether a text ends in a row limit, perhaps with a semicolon and blanks behind it. -/
def endsInLimit (cs : List Char) : Bool :=
  let backwards := cs.reverse.dropWhile isBlank
  match backwards with
  | ';' :: rest => isLimitNumber (rest.dropWhile isBlank)
  | rest => isLimitNumber rest

/-- The clause of a row limit. -/
def limitClause (n : Nat) : String :=
  "LIMIT " ++ String.ofList (Nat.toDigits 10 n)

/-- The query text with a row limit, unless it ends in one. -/
def withRowLimit (sql : String) (n : Nat) : String :=
  let body := statementBody sql.toList
  match withoutComment? body with
  | some code => if endsInLimit code then sql else String.ofList body ++ "\n" ++ limitClause n
  | none => if endsInLimit body then sql else String.ofList body ++ " " ++ limitClause n

end JoinCanvas.Sql
