import JoinCanvas.Sql.Quote

/-!
# Expressions of a hand-written query

The tree of an expression, as far as a canvas can say the same: names, literals, calls, comparisons and their
combination.  All other expressions are kept by their text alone.  `Expr.text` writes an expression with one blank
around operators, keywords in upper case and parentheses as they were.
-/

namespace JoinCanvas.Statement

open JoinCanvas.Text

/-- A name, with the quote it was written in. -/
structure Ident where
  value : String
  quote : Option Char := none
deriving DecidableEq, Repr, Inhabited

/-- Writes a quote inside a quoted text twice.  A pair stays a pair, and a quote behind a backslash stays alone. -/
def requoted (quote : Char) : List Char → List Char
  | [] => []
  | [c] => if c = quote then [c, c] else [c]
  | c :: d :: rest =>
    if c = quote then
      if d = quote then c :: d :: requoted quote rest else c :: c :: requoted quote (d :: rest)
    else if c = '\\' ∧ d = quote then c :: d :: requoted quote rest
    else c :: requoted quote (d :: rest)

/-- A text between quotes. -/
def requotedText (quote : Char) (s : String) : String :=
  String.ofList (quote :: (requoted quote s.toList ++ [quote]))

/-- The name as it was written. -/
def Ident.text (i : Ident) : String :=
  match i.quote with
  | some q => requotedText q i.value
  | none => i.value

/-- A qualified name as it was written. -/
def pathText (path : List Ident) : String :=
  joined "." (path.map Ident.text)

/-- A literal.  Those that a canvas cannot hold are kept by their text. -/
inductive Literal where
  | number (text : String) (long : Bool)
  | single (s : String)
  | double (s : String)
  | bool (b : Bool)
  | null
  | other (text : String)
deriving DecidableEq, Repr

instance : Inhabited Literal := ⟨.null⟩

/-- The literal in SQL. -/
def Literal.text : Literal → String
  | .number text long => if long then text ++ "L" else text
  | .single s => requotedText '\x27' s
  | .double s => requotedText '"' s
  | .bool b => if b then "true" else "false"
  | .null => "NULL"
  | .other text => text

/-- An expression.  `name` has at least one part; `call` is a function of one plain argument, with the text that
follows the argument and the text that follows the parentheses; `callOther` any other call, with the text of its
arguments. -/
inductive Expr where
  | name (path : List Ident)
  | literal (l : Literal)
  | nested (e : Expr)
  | unary (operator : String) (e : Expr)
  | binary (operator : String) (left right : Expr)
  | like (e : Expr) (negated any : Bool) (pattern : Expr) (escape? : Option String)
  | isIn (e : Expr) (negated : Bool) (list : List Expr)
  | isNull (e : Expr) (negated : Bool)
  | call (function : String) (argument : Expr) (inside after : String) (window : Bool)
  | callOther (function arguments after : String) (window : Bool)
  | subquery (text : String)
  | queryTest (text : String)
  | other (text : String)
deriving Repr, Inhabited

/-- A keyword that is only written when it holds. -/
def keywordIf (holds : Bool) (text : String) : String :=
  if holds then text else ""

namespace Expr

mutual

/-- The expression in SQL. -/
def text : Expr → String
  | .name path => pathText path
  | .literal l => l.text
  | .nested e => "(" ++ e.text ++ ")"
  | .unary operator e => if operator = "NOT" then "NOT " ++ e.text else operator ++ e.text
  | .binary operator left right => left.text ++ " " ++ operator ++ " " ++ right.text
  | .like e negated any pattern escape? =>
    e.text ++ keywordIf negated " NOT" ++ " LIKE " ++ keywordIf any "ANY " ++ pattern.text ++
      match escape? with
      | some c => " ESCAPE '" ++ c ++ "'"
      | none => ""
  | .isIn e negated list => e.text ++ keywordIf negated " NOT" ++ " IN (" ++ joined ", " (texts list) ++ ")"
  | .isNull e negated => e.text ++ " IS " ++ keywordIf negated "NOT " ++ "NULL"
  | .call function argument inside after _ => function ++ "(" ++ argument.text ++ inside ++ ")" ++ after
  | .callOther function arguments after _ => function ++ arguments ++ after
  | .subquery sql => sql
  | .queryTest sql => sql
  | .other sql => sql

/-- Each of the expressions in SQL. -/
def texts : List Expr → List String
  | [] => []
  | e :: rest => e.text :: texts rest

end

/-- Whether an expression is a conjunction. -/
def isAnd : Expr → Bool
  | .binary operator _ _ => operator == "AND"
  | _ => false

/-- The conjuncts of an expression, from left to right.  Parentheses around a conjunction do not matter. -/
def conjuncts : Expr → List Expr
  | .binary operator left right =>
    if operator = "AND" then left.conjuncts ++ right.conjuncts else [.binary operator left right]
  | .nested e => if e.isAnd then e.conjuncts else [.nested e]
  | e => [e]

end Expr

end JoinCanvas.Statement
