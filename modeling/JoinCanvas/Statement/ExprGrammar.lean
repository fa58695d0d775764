import JoinCanvas.Statement.DataType
import JoinCanvas.Statement.Keyword

/-!
# The grammar of expressions

Expressions nest in expressions and in queries.  `Level` holds the parsers for what is nested; everything here is
written against a level, so that a grammar of bounded depth is built up level by level.

Operators bind by numbers: of two operators the one with the greater number takes the operand between them, and
operators with the same number group from the left.
-/

namespace JoinCanvas.Statement

open JoinCanvas.Text

/-- The parsers of nested parts: expressions whose operators bind tighter than a number, and the texts of queries. -/
structure Level where
  expr : Nat → Parser Expr
  query : Parser String

namespace Binding

/-- How tightly the operators bind. -/
def or : Nat := 5
/-- Of `AND`. -/
def and : Nat := 10
/-- Of `NOT` before an expression. -/
def not : Nat := 15
/-- Of the operators with arrows. -/
def arrow : Nat := 16
/-- Of `IS`. -/
def is : Nat := 17
/-- Of the pattern matches. -/
def like : Nat := 19
/-- Of comparisons, `BETWEEN` and `IN`. -/
def compare : Nat := 20
/-- Of `|`. -/
def bar : Nat := 21
/-- Of `^`. -/
def caret : Nat := 22
/-- Of `&`. -/
def ampersand : Nat := 23
/-- Of `XOR`. -/
def xor : Nat := 24
/-- Of `+` and `-`. -/
def plus : Nat := 30
/-- Of `*`, `/`, `%` and `||`. -/
def times : Nat := 40
/-- Of `AT TIME ZONE`. -/
def zone : Nat := 41
/-- Of `::` and subscripts. -/
def cast : Nat := 50

end Binding

namespace ExprGrammar

/-- The signs of operators between two expressions, as they are written back, and how they bind. -/
def signOperators : List (String × String × Nat) :=
  [("=", "=", Binding.compare), ("==", "=", Binding.compare), ("<>", "<>", Binding.compare),
    ("!=", "<>", Binding.compare), ("<", "<", Binding.compare), ("<=", "<=", Binding.compare),
    (">", ">", Binding.compare), (">=", ">=", Binding.compare), ("<=>", "<=>", Binding.compare),
    ("~", "~", Binding.compare), ("~*", "~*", Binding.compare), ("!~", "!~", Binding.compare),
    ("!~*", "!~*", Binding.compare), ("~~", "~~", Binding.compare), ("~~*", "~~*", Binding.compare),
    ("!~~", "!~~", Binding.compare), ("!~~*", "!~~*", Binding.compare), ("|", "|", Binding.bar),
    ("^", "^", Binding.caret), ("&", "&", Binding.ampersand), ("+", "+", Binding.plus), ("-", "-", Binding.plus),
    ("*", "*", Binding.times), ("/", "/", Binding.times), ("%", "%", Binding.times), ("||", "||", Binding.times),
    ("->", "->", Binding.arrow), ("->>", "->>", Binding.arrow), ("#>", "#>", Binding.arrow),
    ("#>>", "#>>", Binding.arrow), ("#-", "#-", Binding.arrow), ("@>", "@>", Binding.arrow),
    ("<@", "<@", Binding.arrow), ("@?", "@?", Binding.arrow), ("@@", "@@", Binding.arrow)]

/-- The keywords of pattern matches. -/
def patternWords : List String := ["LIKE", "ILIKE", "RLIKE", "REGEXP", "SIMILAR"]

/-- How a keyword binds that stands behind an expression; zero for other keywords. -/
def keywordBinding (k second : String) (third : String) : Nat :=
  if k = "OR" then Binding.or
  else if k = "AND" then Binding.and
  else if k = "XOR" then Binding.xor
  else if k = "AT" then if second = "TIME" ∧ third = "ZONE" then Binding.zone else 0
  else if k = "NOT" then
    if second = "IN" ∨ second = "BETWEEN" then Binding.compare
    else if patternWords.contains second then Binding.like
    else 0
  else if k = "IS" then Binding.is
  else if k = "IN" ∨ k = "BETWEEN" ∨ k = "OPERATOR" then Binding.compare
  else if patternWords.contains k then Binding.like
  else if k = "DIV" then Binding.times
  else 0

/-- How the operator binds that starts a list of tokens; zero when none does. -/
def binding : List Token → Nat
  | .sign s :: _ =>
    if s = "::" ∨ s = "[" then Binding.cast
    else ((signOperators.find? fun o => o.1 == s).map fun o => o.2.2).getD 0
  | t :: rest =>
    keywordBinding (Parser.keywordOf (some t)) (Parser.keywordOf rest.head?) (Parser.keywordOf (rest.drop 1).head?)
  | [] => 0

/-- How the operator binds that comes next. -/
def nextBinding : Parser Nat := fun ts => some (binding ts, ts)

/-- Expressions with commas between them, by their texts. -/
def exprTexts (inner : Level) : Parser String := do
  return joined ", " ((← Parser.list (inner.expr 0)).map Expr.text)

/-- One or more sort keys with commas between them. -/
def sortKeys (inner : Level) : Parser String := do
  let key : Parser String := do
    let e ← inner.expr 0
    let direction ← if ← Parser.keyword "ASC" then pure " ASC"
      else if ← Parser.keyword "DESC" then pure " DESC" else pure ""
    let nulls ← if ← Parser.keywords ["NULLS", "FIRST"] then pure " NULLS FIRST"
      else if ← Parser.keywords ["NULLS", "LAST"] then pure " NULLS LAST" else pure ""
    return e.text ++ direction ++ nulls
  return joined ", " (← Parser.list key)

/-- An expression that may stand under a name, by its text. -/
def aliased (expr : Parser Expr) : Parser String := do
  let e ← expr
  if ← Parser.keyword "AS" then return e.text ++ " AS " ++ (← Parser.ident).text else return e.text

/-- A unit of time. -/
def timeUnit : Parser String := do
  match ← Parser.oneOf Keyword.timeUnits with
  | some k => return k
  | none => Parser.fail

/-- A span of time behind its word. -/
def intervalOf (inner : Level) : Parser Expr := do
  let e ← inner.expr 0
  let first ← timeUnit
  -- seconds take the digits of their fraction at once, and go up to no other unit
  let digits ← DataType.numbers (if first = "SECOND" then 2 else 1)
  let last ← if first = "SECOND" then pure "" else
    if ← Parser.keyword "TO" then
      let unit ← timeUnit
      let fraction ← if unit = "SECOND" then DataType.numbers 1 else pure []
      pure (" TO " ++ unit ++ digitsText fraction)
    else pure ""
  return .other ("INTERVAL " ++ e.text ++ " " ++ first ++ digitsText digits ++ last)
where
  /-- Numbers of digits in parentheses. -/
  digitsText (ns : List String) : String :=
    if ns.isEmpty then "" else " (" ++ joined ", " ns ++ ")"

/-- A bound of a window frame. -/
def frameBound (inner : Level) : Parser String := do
  if ← Parser.keywords ["CURRENT", "ROW"] then return "CURRENT ROW"
  else
    let rows ← if ← Parser.keyword "UNBOUNDED" then pure "UNBOUNDED" else
      match ← Parser.peek? with
      | some (.string .single _) => pure (← intervalOf inner).text
      | _ => pure (← inner.expr 0).text
    if ← Parser.keyword "PRECEDING" then return rows ++ " PRECEDING"
    else
      Parser.expectKeyword "FOLLOWING"
      return rows ++ " FOLLOWING"

/-- A window specification behind its opening parenthesis. -/
def windowParts (inner : Level) : Parser String := do
  let name ← do
    let k ← Parser.peekKeyword
    match ← Parser.peek? with
    | some (.word _ _) => if Keyword.all.contains k then pure [] else pure [(← Parser.ident).text]
    | _ => pure []
  let partition ← if ← Parser.keywords ["PARTITION", "BY"] then
      pure ["PARTITION BY " ++ (← exprTexts inner)] else pure []
  let order ← if ← Parser.keywords ["ORDER", "BY"] then pure ["ORDER BY " ++ (← sortKeys inner)] else pure []
  let frame ← match ← Parser.oneOf ["ROWS", "RANGE", "GROUPS"] with
    | some unit =>
      if ← Parser.keyword "BETWEEN" then
        let a ← frameBound inner
        Parser.expectKeyword "AND"
        pure [unit ++ " BETWEEN " ++ a ++ " AND " ++ (← frameBound inner)]
      else pure [unit ++ " " ++ (← frameBound inner)]
    | none => pure []
  Parser.expect ")"
  return "(" ++ joined " " (name ++ partition ++ order ++ frame) ++ ")"

/-- What may stand in a call in place of one plain argument. -/
inductive Argument where
  | plain (e : Expr)
  | other (text : String)
deriving Inhabited

/-- The argument in SQL. -/
def Argument.text : Argument → String
  | .plain e => e.text
  | .other text => text

/-- A qualified wildcard. -/
def qualifiedWildcard : Parser String := do
  let i ← Parser.ident
  let rec parts : Nat → Parser (List Ident)
    | 0 => Parser.fail
    | n + 1 => do
      Parser.expect "."
      if ← Parser.sign "*" then return []
      else
        let i ← Parser.ident
        return i :: (← parts n)
  return pathText (i :: (← parts (← Parser.size))) ++ ".*"

/-- An expression, or a wildcard in its place. -/
def wildcardOr (inner : Level) : Parser Argument := do
  if ← Parser.sign "*" then return .other "*"
  else
    match ← Parser.attempt qualifiedWildcard with
    | some text => return .other text
    | none => return .plain (← inner.expr 0)

/-- An argument of a call, perhaps with its name. -/
def argument (inner : Level) : Parser Argument := do
  let named : Parser Argument := do
    let i ← Parser.ident
    Parser.expect "=>"
    return .other (i.text ++ " => " ++ (← wildcardOr inner).text)
  match ← Parser.attempt named with
  | some a => return a
  | none => wildcardOr inner

/-- What becomes of a list that grows too long, if it is said. -/
def onOverflow (inner : Level) : Parser String := do
  if ← Parser.keywords ["ON", "OVERFLOW"] then
    if ← Parser.keyword "ERROR" then return " ON OVERFLOW ERROR"
    else
      Parser.expectKeyword "TRUNCATE"
      let filler ← match ← Parser.peek? with
        | some (.string kind _) =>
          if kind = .double ∨ kind = .dollar then pure "" else pure (" " ++ (← inner.expr 0).text)
        | _ => pure ""
      match ← Parser.oneOf ["WITH", "WITHOUT"] with
      | some k =>
        Parser.expectKeyword "COUNT"
        return " ON OVERFLOW TRUNCATE" ++ filler ++ " " ++ k ++ " COUNT"
      | none => Parser.fail
  else return ""

/-- The arguments of a call behind the opening parenthesis: whether they are marked, what they are, and what follows
them inside the parentheses. -/
def arguments (inner : Level) : Parser (String × List Argument × String) := do
  if ← Parser.sign ")" then return ("", [], "")
  else
    let all ← Parser.keyword "ALL"
    let distinct ← Parser.keyword "DISTINCT"
    if all && distinct then Parser.fail
    else
      let mark := if all then "ALL " else if distinct then "DISTINCT " else ""
      let args ← Parser.list (argument inner)
      let order ← if ← Parser.keywords ["ORDER", "BY"] then
          pure (" ORDER BY " ++ (← sortKeys inner)) else pure ""
      let limit ← if ← Parser.keyword "LIMIT" then pure (" LIMIT " ++ (← inner.expr 0).text) else pure ""
      let overflow ← onOverflow inner
      Parser.expect ")"
      return (mark, args, order ++ limit ++ overflow)

/-- What follows the parentheses of a call: its text, and whether it is over a window. -/
def callEnd (inner : Level) : Parser (String × Bool) := do
  let within ← if ← Parser.keywords ["WITHIN", "GROUP"] then
      Parser.expect "("
      Parser.expectKeyword "ORDER"
      Parser.expectKeyword "BY"
      let keys ← sortKeys inner
      Parser.expect ")"
      pure (" WITHIN GROUP (ORDER BY " ++ keys ++ ")") else pure ""
  let filter ← if ← Parser.keyword "FILTER" then
      if ← Parser.sign "(" then
        if ← Parser.keyword "WHERE" then
          let e ← inner.expr 0
          Parser.expect ")"
          pure (" FILTER (WHERE " ++ e.text ++ ")")
        else pure ""
      else pure "" else pure ""
  let nulls ← if ← Parser.keywords ["RESPECT", "NULLS"] then pure " RESPECT NULLS"
    else if ← Parser.keywords ["IGNORE", "NULLS"] then pure " IGNORE NULLS" else pure ""
  if ← Parser.keyword "OVER" then
    if ← Parser.sign "(" then return (within ++ filter ++ nulls ++ " OVER " ++ (← windowParts inner), true)
    else return (within ++ filter ++ nulls ++ " OVER " ++ (← Parser.ident).text, true)
  else return (within ++ filter ++ nulls, false)

/-- A call of a function behind the opening parenthesis. -/
def call (inner : Level) (name : List Ident) : Parser Expr := do
  let (mark, args, inside) ← arguments inner
  let (after, window) ← callEnd inner
  match mark, args with
  | "", [.plain e] => return .call (pathText name) e inside after window
  | _, _ =>
    let text := "(" ++ mark ++ joined ", " (args.map Argument.text) ++ inside ++ ")"
    return .callOther (pathText name) text after window

/-- The parts of a qualified name behind its first one. -/
def furtherParts : Nat → Parser (List Ident)
  | 0 => return []
  | n + 1 => do
    if ← Parser.sign "." then
      match ← Parser.next with
      | .word text quote => return ⟨text, quote⟩ :: (← furtherParts n)
      | .string .single text => return ⟨text, some '\x27'⟩ :: (← furtherParts n)
      | _ => Parser.fail
    else return []

/-- What starts with a word that has no meaning of its own: a name, a call, a string with an introducer, or a function
of one parameter. -/
def named (inner : Level) (i : Ident) : Parser Expr := do
  match ← Parser.peek? with
  | some (.sign "(") =>
    Parser.expect "("
    call inner [i]
  | some (.sign ".") =>
    let path := i :: (← furtherParts (← Parser.size))
    if ← Parser.sign "(" then call inner path else return .name path
  | some (.sign "->") =>
    Parser.expect "->"
    return .other (i.text ++ " -> " ++ (← inner.expr 0).text)
  | some (.string kind text) =>
    if i.value.toList.head? = some '_' ∧ (kind = .single ∨ kind = .double ∨ kind = .hexadecimal) then
      let _ ← Parser.next
      let literal := match kind with
        | .double => requotedText '"' text
        | .hexadecimal => "X'" ++ text ++ "'"
        | _ => requotedText '\x27' text
      return .other (i.value ++ " " ++ literal)
    else return .name [i]
  | _ => return .name [i]

/-- The branches of a `CASE` behind the first `WHEN`; at most `n` more. -/
def branches (inner : Level) : Nat → Parser String
  | 0 => Parser.fail
  | n + 1 => do
    let condition ← inner.expr 0
    Parser.expectKeyword "THEN"
    let result ← inner.expr 0
    let text := " WHEN " ++ condition.text ++ " THEN " ++ result.text
    if ← Parser.keyword "WHEN" then return text ++ (← branches inner n) else return text

/-- A `CASE` behind its first word. -/
def caseOf (inner : Level) : Parser Expr := do
  let operand ← if ← Parser.keyword "WHEN" then pure "" else do
    let e ← inner.expr 0
    Parser.expectKeyword "WHEN"
    pure (" " ++ e.text)
  let branches ← branches inner (← Parser.size)
  let otherwise ← if ← Parser.keyword "ELSE" then pure (" ELSE " ++ (← inner.expr 0).text) else pure ""
  Parser.expectKeyword "END"
  return .other ("CASE" ++ operand ++ branches ++ otherwise ++ " END")

/-- The literal that a token starts which is no word. -/
def literalOf : Token → Parser Literal
  | .number text long => return .number text long
  | .string .single s => return .single s
  | .string .double s => return .double s
  | .string .national s => return .other ("N'" ++ s ++ "'")
  | .string .hexadecimal s => return .other ("X'" ++ s ++ "'")
  | .string .dollar text => return .other text
  | .placeholder text => return .other text
  | .sign ":" => parameter ":"
  | .sign "@" => parameter "@"
  | _ => Parser.fail
where
  /-- A parameter by its name or number. -/
  parameter (mark : String) : Parser Literal := do
    match ← Parser.next with
    | .word text _ => return .other (mark ++ text)
    | .number text false => return .other (mark ++ text)
    | _ => Parser.fail

/-- A literal that stands alone. -/
def value : Parser Literal := do
  match ← Parser.oneOf ["TRUE", "FALSE", "NULL"] with
  | some "NULL" => return .null
  | some k => return .bool (k = "TRUE")
  | none => literalOf (← Parser.next)

/-- A cast behind its word. -/
def castOf (inner : Level) (word : String) : Parser Expr := Parser.parenthesized do
  let e ← inner.expr 0
  Parser.expectKeyword "AS"
  let type := (← dataType).1
  let format ← if ← Parser.keyword "FORMAT" then
      let format ← value
      if ← Parser.keywords ["AT", "TIME", "ZONE"] then
        pure (" FORMAT " ++ format.text ++ " AT TIME ZONE " ++ (← value).text)
      else pure (" FORMAT " ++ format.text)
    else pure ""
  return .other (word ++ "(" ++ e.text ++ " AS " ++ type ++ format ++ ")")

/-- A conversion behind its word. -/
def convertOf (inner : Level) : Parser Expr := Parser.parenthesized do
  let e ← inner.expr 0
  if ← Parser.keyword "USING" then return .other ("CONVERT(" ++ e.text ++ " USING " ++ pathText (← Parser.path) ++ ")")
  else
    Parser.expect ","
    let type := (← dataType).1
    let characters ← if ← Parser.keywords ["CHARACTER", "SET"] then
        pure (" CHARACTER SET " ++ pathText (← Parser.path)) else pure ""
    return .other ("CONVERT(" ++ e.text ++ ", " ++ type ++ characters ++ ")")

/-- The part of a time, behind its word. -/
def extractOf (inner : Level) : Parser Expr := Parser.parenthesized do
  let unit ← timeUnit
  Parser.expectKeyword "FROM"
  return .other ("EXTRACT(" ++ unit ++ " FROM " ++ (← inner.expr 0).text ++ ")")

/-- A rounding behind its word. -/
def roundOf (inner : Level) (word : String) : Parser Expr := Parser.parenthesized do
  let e ← inner.expr 0
  if ← Parser.keyword "TO" then return .other (word ++ "(" ++ e.text ++ " TO " ++ (← timeUnit) ++ ")")
  else if ← Parser.sign "," then
    match ← Parser.next with
    | .number text _ => return .other (word ++ "(" ++ e.text ++ ", " ++ text ++ ")")
    | _ => Parser.fail
  else return .other (word ++ "(" ++ e.text ++ ")")

/-- The place of a text in another, behind its word. -/
def positionOf (inner : Level) : Parser Expr := Parser.parenthesized do
  let e ← inner.expr Binding.compare
  Parser.expectKeyword "IN"
  return .other ("POSITION(" ++ e.text ++ " IN " ++ (← inner.expr 0).text ++ ")")

/-- A part of a text, behind its word. -/
def substringOf (inner : Level) : Parser Expr := Parser.parenthesized do
  let e ← inner.expr 0
  let comma ← Parser.sign ","
  let start ← if comma then pure (", " ++ (← inner.expr 0).text)
    else if ← Parser.keyword "FROM" then pure (" FROM " ++ (← inner.expr 0).text) else pure ""
  let length ← if ← Parser.sign "," then pure ((if comma then ", " else " FOR ") ++ (← inner.expr 0).text)
    else if ← Parser.keyword "FOR" then pure ((if comma then ", " else " FOR ") ++ (← inner.expr 0).text) else pure ""
  return .other ("SUBSTRING(" ++ e.text ++ start ++ length ++ ")")

/-- A text without its margins, behind its word. -/
def trimOf (inner : Level) : Parser Expr := Parser.parenthesized do
  let side := (← Parser.oneOf ["BOTH", "LEADING", "TRAILING"]).map (· ++ " ")
  let e ← inner.expr 0
  if ← Parser.keyword "FROM" then
    return .other ("TRIM(" ++ side.getD "" ++ e.text ++ " FROM " ++ (← inner.expr 0).text ++ ")")
  else
    -- a comma may follow the text, and nothing behind it
    let _ ← Parser.sign ","
    return .other ("TRIM(" ++ side.getD "" ++ e.text ++ ")")

/-- A text with a part replaced, behind its word. -/
def overlayOf (inner : Level) : Parser Expr := Parser.parenthesized do
  let e ← inner.expr 0
  Parser.expectKeyword "PLACING"
  let what ← inner.expr 0
  Parser.expectKeyword "FROM"
  let start ← inner.expr 0
  let length ← if ← Parser.keyword "FOR" then pure (" FOR " ++ (← inner.expr 0).text) else pure ""
  return .other ("OVERLAY(" ++ e.text ++ " PLACING " ++ what.text ++ " FROM " ++ start.text ++ length ++ ")")

/-- The test of a query behind its word. -/
def existsOf (inner : Level) (negated : Bool) : Parser Expr := Parser.parenthesized do
  return .queryTest (keywordIf negated "NOT " ++ "EXISTS (" ++ (← inner.query) ++ ")")

/-- Items between brackets, behind the opening one. -/
def itemsOf (inner : Level) (head : String) : Parser Expr := do
  if ← Parser.sign "]" then return .other (head ++ "[]")
  else
    let items ← exprTexts inner
    Parser.expect "]"
    return .other (head ++ "[" ++ items ++ "]")

/-- A record literal behind its word.  The fields have types in front of them, or may have names. -/
def structOf (inner : Level) : Parser Expr := do
  if ← Parser.sign "<" then
    let types ← DataType.fields
    let values ← Parser.parenthesized (exprTexts inner)
    return .other ("STRUCT<" ++ types ++ ">(" ++ values ++ ")")
  else
    let values ← Parser.parenthesized (Parser.list (aliased (inner.expr 0)))
    return .other ("STRUCT(" ++ joined ", " values ++ ")")

/-- What a keyword begins that has a meaning of its own at the start of an expression; nothing for other words. -/
def special (inner : Level) (k : String) (i : Ident) : Parser (Option Expr) := do
  match k with
  | "TRUE" => return some (.literal (.bool true))
  | "FALSE" => return some (.literal (.bool false))
  | "NULL" => return some (.literal .null)
  | "CASE" => return some (← caseOf inner)
  | "CONVERT" => return some (← convertOf inner)
  | "CAST" => return some (← castOf inner k)
  | "TRY_CAST" => return some (← castOf inner k)
  | "SAFE_CAST" => return some (← castOf inner k)
  | "EXTRACT" => return some (← extractOf inner)
  | "CEIL" => return some (← roundOf inner k)
  | "FLOOR" => return some (← roundOf inner k)
  | "SUBSTRING" => return some (← substringOf inner)
  | "OVERLAY" => return some (← overlayOf inner)
  | "TRIM" => return some (← trimOf inner)
  | "INTERVAL" => return some (← intervalOf inner)
  | "STRUCT" => return some (← structOf inner)
  | "POSITION" =>
    if (← Parser.peek?) = some (.sign "(") then return some (← positionOf inner) else return none
  | "EXISTS" =>
    let second ← Parser.peekSecondKeyword
    if second = "SELECT" ∨ second = "WITH" then return some (← existsOf inner false) else return none
  | "ARRAY" =>
    if ← Parser.sign "[" then return some (← itemsOf inner "ARRAY") else return none
  | "NOT" =>
    if ← Parser.keyword "EXISTS" then return some (← existsOf inner true)
    else return some (.unary "NOT" (← inner.expr Binding.not))
  | _ =>
    if ["CURRENT_TIMESTAMP", "CURRENT_TIME", "CURRENT_DATE", "LOCALTIME", "LOCALTIMESTAMP"].contains k then
      if ← Parser.sign "(" then
        let (mark, args, inside) ← arguments inner
        match mark, args with
        | "", [.plain e] => return some (.call i.text e inside "" false)
        | _, _ =>
          let text := "(" ++ mark ++ joined ", " (args.map Argument.text) ++ inside ++ ")"
          return some (.callOther i.text text "" false)
      else return some (.callOther i.text "" "" false)
    else return none

/-- The keywords that are no names where their meaning fails. -/
def reservedNames : List String := ["EXISTS", "INTERVAL", "STRUCT", "TRIM"]

/-- What a word begins: what it means as a keyword, or else what it begins as a name. -/
def worded (inner : Level) (i : Ident) : Parser Expr := fun ts =>
  let k := if i.quote.isNone then uppered i.value else ""
  match special inner k i ts with
  | some (some e, rest) => some (e, rest)
  | some (none, _) => named inner i ts
  | none => if reservedNames.contains k then none else named inner i ts

/-- A type with a string, such as a date. -/
def typedString : Parser Expr := do
  let (type, custom) ← dataType
  if custom ∨ type = "INTERVAL" then Parser.fail
  else
    let s ← Parser.literalString Keyword.all
    return .other (type ++ " " ++ requotedText '\x27' s)

/-- A function of several parameters behind its opening parenthesis. -/
def lambda (inner : Level) : Parser Expr := do
  let parameters ← Parser.list Parser.ident
  Parser.expect ")"
  Parser.expect "->"
  return .other ("(" ++ joined ", " (parameters.map Ident.text) ++ ") -> " ++ (← inner.expr 0).text)

/-- What an opening parenthesis begins: a query, a function, a tuple or a single expression. -/
def nested (inner : Level) : Parser Expr := do
  let k ← Parser.peekKeyword
  let field (e : Expr) : Parser Expr := do
    if ← Parser.sign "." then
      match ← Parser.next with
      | .word text quote => return .other (e.text ++ "." ++ (Ident.mk text quote).text)
      | _ => Parser.fail
    else return e
  if k = "SELECT" ∨ k = "WITH" then
    let q ← inner.query
    Parser.expect ")"
    field (.subquery ("(" ++ q ++ ")"))
  else
    match ← Parser.attempt (lambda inner) with
    | some e => return e
    | none =>
      let es ← Parser.list (inner.expr 0)
      Parser.expect ")"
      match es with
      | [e] => field (.nested e)
      | es => field (.other ("(" ++ joined ", " (es.map Expr.text) ++ ")"))

/-- An expression without operators behind it. -/
def operand (inner : Level) : Parser Expr := do
  match ← Parser.attempt typedString with
  | some e => return e
  | none =>
    let e ← match ← Parser.next with
      | .word text quote => worded inner ⟨text, quote⟩
      | .sign "(" => nested inner
      | .sign "[" => itemsOf inner ""
      | .sign "-" => do
        pure (.unary "-" (← inner.expr Binding.times))
      | .sign "+" => do
        pure (.unary "+" (← inner.expr Binding.times))
      | t => do
        pure (.literal (← literalOf t))
    if ← Parser.keyword "COLLATE" then return .other (e.text ++ " COLLATE " ++ pathText (← Parser.path)) else return e

/-- What follows `IS`. -/
def isTest (inner : Level) (e : Expr) : Parser Expr := do
  let negated ← Parser.keyword "NOT"
  if ← Parser.keyword "NULL" then return .isNull e negated
  else if ← Parser.keywords ["DISTINCT", "FROM"] then
    return .other (e.text ++ " IS " ++ keywordIf negated "NOT " ++ "DISTINCT FROM " ++ (← inner.expr 0).text)
  else
    match ← Parser.oneOf ["TRUE", "FALSE", "UNKNOWN"] with
    | some k => return .other (e.text ++ " IS " ++ keywordIf negated "NOT " ++ k)
    | none => Parser.fail

/-- The escape character of a pattern match, if one comes next. -/
def escape? : Parser (Option String) := do
  if ← Parser.keyword "ESCAPE" then return some (← Parser.literalString Keyword.all) else return none

/-- The members of an `IN` list, or the query or the array in its place. -/
def inTest (inner : Level) (e : Expr) (negated : Bool) : Parser Expr := do
  let head := e.text ++ keywordIf negated " NOT" ++ " IN "
  if ← Parser.keyword "UNNEST" then
    let items ← Parser.parenthesized (inner.expr 0)
    return .other (head ++ "UNNEST(" ++ items.text ++ ")")
  else Parser.parenthesized do
    let k ← Parser.peekKeyword
    if k = "SELECT" ∨ k = "WITH" then return .queryTest (head ++ "(" ++ (← inner.query) ++ ")")
    else return .isIn e negated (← Parser.list (inner.expr 0))

/-- A test that may be negated: of a pattern, a list or a range. -/
def test (inner : Level) (e : Expr) : Parser Expr := do
  let negated ← Parser.keyword "NOT"
  let head := e.text ++ keywordIf negated " NOT"
  match ← Parser.oneOf ["LIKE", "ILIKE", "RLIKE", "REGEXP", "IN", "BETWEEN", "SIMILAR"] with
  | some "LIKE" =>
    let any ← Parser.keyword "ANY"
    let pattern ← inner.expr Binding.like
    return .like e negated any pattern (← escape?)
  | some "ILIKE" =>
    let any ← Parser.keyword "ANY"
    let pattern ← inner.expr Binding.like
    return .other (head ++ " ILIKE " ++ keywordIf any "ANY " ++ pattern.text ++ escapeText (← escape?))
  | some "SIMILAR" =>
    Parser.expectKeyword "TO"
    let pattern ← inner.expr Binding.like
    return .other (head ++ " SIMILAR TO " ++ pattern.text ++ escapeText (← escape?))
  | some "IN" => inTest inner e negated
  | some "BETWEEN" =>
    let low ← inner.expr Binding.compare
    Parser.expectKeyword "AND"
    let high ← inner.expr Binding.compare
    return .other (head ++ " BETWEEN " ++ low.text ++ " AND " ++ high.text)
  | some k => return .other (head ++ " " ++ k ++ " " ++ (← inner.expr Binding.like).text)
  | none => Parser.fail
where
  /-- The clause of an escape character. -/
  escapeText : Option String → String
    | some c => " ESCAPE '" ++ c ++ "'"
    | none => ""

/-- The operators that may compare with all or any of several values. -/
def comparisons : List String := ["=", "<>", "<", "<=", ">", ">="]

/-- An operator between two expressions, behind its sign or word. -/
def withRight (inner : Level) (left : Expr) (operator : String) (prec : Nat) : Parser Expr := do
  match ← Parser.oneOf ["ANY", "ALL", "SOME"] with
  | some k =>
    Parser.expect "("
    let second ← Parser.peekKeyword
    if comparisons.contains operator = false then Parser.fail
    else if second = "SELECT" ∨ second = "WITH" then
      let q ← inner.query
      Parser.expect ")"
      return .other (left.text ++ " " ++ operator ++ " " ++ k ++ "(" ++ q ++ ")")
    else
      let e ← inner.expr prec
      Parser.expect ")"
      let text := match e with
        | .subquery q => q
        | e => "(" ++ e.text ++ ")"
      return .other (left.text ++ " " ++ operator ++ " " ++ k ++ text)
  | none => return .binary operator left (← inner.expr prec)

/-- An operator behind an expression, with what follows it. -/
def operator (inner : Level) (left : Expr) (prec : Nat) : Parser Expr := do
  match ← Parser.peek? with
  | some (.sign "::") =>
    Parser.expect "::"
    return .other (left.text ++ "::" ++ (← dataType).1)
  | some (.sign "[") =>
    Parser.expect "["
    let e ← inner.expr 0
    Parser.expect "]"
    return .other (left.text ++ "[" ++ e.text ++ "]")
  | some (.sign s) =>
    match signOperators.find? fun o => o.1 == s with
    | some (_, text, _) =>
      Parser.expect s
      withRight inner left text prec
    | none => Parser.fail
  | _ =>
    let k ← Parser.peekKeyword
    if k = "AND" ∨ k = "OR" ∨ k = "XOR" then
      Parser.expectKeyword k
      withRight inner left k prec
    else if ← Parser.keyword "IS" then isTest inner left
    else if ← Parser.keywords ["AT", "TIME", "ZONE"] then
      return .other (left.text ++ " AT TIME ZONE " ++ (← inner.expr prec).text)
    else test inner left

/-- The operators behind an expression that bind tighter than a number; at most `n`. -/
def operators (inner : Level) (prec : Nat) : Nat → Expr → Parser Expr
  | 0, e => return e
  | n + 1, e => do
    let b ← nextBinding
    if b ≤ prec then return e else operators inner prec n (← operator inner e b)

/-- An expression whose operators bind tighter than a number. -/
def expr (inner : Level) (prec : Nat) : Parser Expr := do
  let e ← operand inner
  operators inner prec (← Parser.size) e

end ExprGrammar

end JoinCanvas.Statement
