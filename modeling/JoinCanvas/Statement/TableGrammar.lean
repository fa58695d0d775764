import JoinCanvas.Statement.ExprGrammar
import JoinCanvas.Statement.Query

/-!
# The grammar of tables

What stands in a `FROM` clause: a table by its name, a query, the rows of a JSON text or of a function, each perhaps
turned by pivots, and the joins between them.
-/

namespace JoinCanvas.Statement.TableGrammar

open JoinCanvas.Text JoinCanvas.Statement

/-- Names in parentheses, by their text. -/
def columnNames : Parser String := Parser.parenthesized do
  return "(" ++ joined ", " ((← Parser.list Parser.ident).map Ident.text) ++ ")"

/-- The columns of a table alias, each perhaps with a type, by their text. -/
def aliasColumns : Parser String := do
  if ← Parser.sign "(" then
    let column : Parser String := do
      let i ← Parser.ident
      match ← Parser.attempt dataType with
      | some (type, _) => return i.text ++ " " ++ type
      | none => return i.text
    let columns ← Parser.list column
    Parser.expect ")"
    return " (" ++ joined ", " columns ++ ")"
  else return ""

/-- The alias of a table, and the text of its columns. -/
def tableAlias : Parser (Option Ident × String) := do
  match ← Parser.alias? Keyword.endOfTable with
  | some name => return (some name, ← aliasColumns)
  | none => return (none, "")

/-- The alias of a table by its text. -/
def tableAliasText : Parser String := do
  match ← tableAlias with
  | (some name, columns) => return " AS " ++ name.text ++ columns
  | (none, _) => return ""

/-- Rows of values with commas between them. -/
def rows (inner : Level) : Parser String := do
  let row : Parser String := do
    let word ← if ← Parser.keyword "ROW" then pure "ROW" else pure ""
    Parser.expect "("
    let es ← Parser.list (inner.expr 0)
    Parser.expect ")"
    return word ++ "(" ++ joined ", " (es.map Expr.text) ++ ")"
  return "VALUES " ++ joined ", " (← Parser.list row)

/-- A query as a table, behind the opening parenthesis. -/
def derived (inner : Level) (head : String) : Parser Relation := do
  let q ← inner.query
  Parser.expect ")"
  return .derived (head ++ "(" ++ q ++ ")" ++ (← tableAliasText))

/-- The arguments of a table function, if there are some. -/
def tableArguments (inner : Level) : Parser String := do
  if ← Parser.sign "(" then
    if ← Parser.sign ")" then return "()"
    else
      let args ← Parser.list (ExprGrammar.argument inner)
      Parser.expect ")"
      return "(" ++ joined ", " (args.map ExprGrammar.Argument.text) ++ ")"
  else return ""

/-- Hints behind a table. -/
def hints (inner : Level) : Parser String := fun ts =>
  match Parser.afterKeywords? ["WITH"] ts with
  | some (.sign "(" :: rest) =>
    (do
      let es ← Parser.list (inner.expr 0)
      Parser.expect ")"
      return " WITH (" ++ joined ", " (es.map Expr.text) ++ ")" : Parser String) rest
  | _ => some ("", ts)

/-- How many of the rows of a table are taken, or which of its parts, behind the method. -/
def share (inner : Level) : Parser String := do
  let amount : Parser String := do
    let e ← inner.expr 0
    match ← Parser.oneOf ["ROWS", "PERCENT"] with
    | some unit => return e.text ++ " " ++ unit
    | none => return e.text
  if ← Parser.sign "(" then
    let text ← if ← Parser.keyword "BUCKET" then do
        let part ← ExprGrammar.value
        Parser.expectKeyword "OUT"
        Parser.expectKeyword "OF"
        let total ← ExprGrammar.value
        let key ← if ← Parser.keyword "ON" then pure (" ON " ++ (← inner.expr 0).text) else pure ""
        pure ("BUCKET " ++ part.text ++ " OUT OF " ++ total.text ++ key)
      else amount
    Parser.expect ")"
    return " (" ++ text ++ ")"
  else return " " ++ (← amount)

/-- A sample of the rows of a table, if one is taken. -/
def sample (inner : Level) : Parser String := do
  match ← Parser.oneOf ["TABLESAMPLE", "SAMPLE"] with
  | none => return ""
  | some word =>
    let method ← match ← Parser.oneOf ["BERNOULLI", "ROW", "SYSTEM", "BLOCK"] with
      | some k => pure (" " ++ k)
      | none => pure ""
    let share ← share inner
    let seed ← match ← Parser.oneOf ["REPEATABLE", "SEED"] with
      | some k => do
        let n ← Parser.parenthesized ExprGrammar.value
        pure (" " ++ k ++ " (" ++ n.text ++ ")")
      | none => pure ""
    let offset ← if ← Parser.keyword "OFFSET" then pure (" OFFSET " ++ (← inner.expr 0).text) else pure ""
    return " " ++ word ++ method ++ share ++ seed ++ offset

/-- What the columns of a pivot come from, in its parentheses. -/
def pivotSource (inner : Level) : Parser String := do
  if ← Parser.keyword "ANY" then
    if ← Parser.keywords ["ORDER", "BY"] then return "ANY ORDER BY " ++ (← ExprGrammar.sortKeys inner)
    else return "ANY"
  else
    let k ← Parser.peekKeyword
    if k = "SELECT" ∨ k = "WITH" then inner.query
    else return joined ", " (← Parser.list (ExprGrammar.aliased (inner.expr 0)))

/-- The aggregates of a table by the values of a column, behind `PIVOT`. -/
def pivot (inner : Level) (table : String) : Parser Relation := do
  let aggregate : Parser Expr := do
    match ← Parser.next with
    | .word text _ =>
      Parser.expect "("
      ExprGrammar.call inner [⟨text, none⟩]
    | _ => Parser.fail
  Parser.expect "("
  let aggregates ← Parser.list (ExprGrammar.aliased aggregate)
  Parser.expectKeyword "FOR"
  let column ← Parser.path
  Parser.expectKeyword "IN"
  let source ← Parser.parenthesized (pivotSource inner)
  let default ← if ← Parser.keywords ["DEFAULT", "ON", "NULL"] then
      pure (" DEFAULT ON NULL (" ++ (← Parser.parenthesized (inner.expr 0)).text ++ ")") else pure ""
  Parser.expect ")"
  return .other (table ++ " PIVOT(" ++ joined ", " aggregates ++ " FOR " ++ pathText column ++ " IN (" ++ source ++
    ")" ++ default ++ ")" ++ (← tableAliasText))

/-- The columns of a table as rows, behind `UNPIVOT`. -/
def unpivot (table : String) : Parser Relation := do
  Parser.expect "("
  let value ← Parser.ident
  Parser.expectKeyword "FOR"
  let name ← Parser.ident
  Parser.expectKeyword "IN"
  let columns ← columnNames
  Parser.expect ")"
  return .other (table ++ " UNPIVOT(" ++ value.text ++ " FOR " ++ name.text ++ " IN " ++ columns ++ ")" ++
    (← tableAliasText))

/-- A table with the pivots behind it; at most `n`. -/
def pivoted (inner : Level) : Nat → Relation → Parser Relation
  | 0, r => return r
  | n + 1, r => do
    match ← Parser.oneOf ["PIVOT", "UNPIVOT"] with
    | some "PIVOT" => pivoted inner n (← pivot inner r.text)
    | some _ => pivoted inner n (← unpivot r.text)
    | none => return r

/-- A table by its name. -/
def namedTable (inner : Level) : Parser Relation := do
  let path ← Parser.path
  let arguments ← tableArguments inner
  let ordinality ← if ← Parser.keywords ["WITH", "ORDINALITY"] then pure " WITH ORDINALITY" else pure ""
  let (name?, columns) ← tableAlias
  let hints ← hints inner
  let sample ← sample inner
  pivoted inner (← Parser.size) (.table path (arguments ++ ordinality) name? (columns ++ hints ++ sample))

/-- What a column of a JSON table holds where its path finds nothing or fails: the texts for both; at most `n`. -/
def fallbacks : Nat → Parser (Option String × Option String)
  | 0 => return (none, none)
  | n + 1 => do
    match ← Parser.oneOf ["NULL", "ERROR", "DEFAULT"] with
    | none => return (none, none)
    | some k =>
      let text ← if k = "DEFAULT" then pure (k ++ " " ++ (← ExprGrammar.value).text) else pure k
      Parser.expectKeyword "ON"
      let empty ← Parser.keyword "EMPTY"
      if empty then pure () else Parser.expectKeyword "ERROR"
      -- of several the last one counts
      let (onEmpty, onError) ← fallbacks n
      if empty then return (onEmpty <|> some (" " ++ text ++ " ON EMPTY"), onError)
      else return (onEmpty, onError <|> some (" " ++ text ++ " ON ERROR"))

/-- A column of a JSON table, nested at most `n` deep. -/
def jsonColumn : Nat → Parser String
  | 0 => Parser.fail
  | n + 1 => do
    if ← Parser.keyword "NESTED" then
      let _ ← Parser.keyword "PATH"
      let path ← ExprGrammar.value
      Parser.expectKeyword "COLUMNS"
      let columns ← Parser.parenthesized (Parser.list (jsonColumn n))
      return "NESTED PATH " ++ path.text ++ " COLUMNS (" ++ joined ", " columns ++ ")"
    else
      let name ← Parser.ident
      if ← Parser.keyword "FOR" then
        Parser.expectKeyword "ORDINALITY"
        return name.text ++ " FOR ORDINALITY"
      else
        let type := (← dataType).1
        let exist ← Parser.keyword "EXISTS"
        Parser.expectKeyword "PATH"
        let path ← ExprGrammar.value
        let (onEmpty, onError) ← fallbacks (← Parser.size)
        return name.text ++ " " ++ type ++ keywordIf exist " EXISTS" ++ " PATH " ++ path.text ++ onEmpty.getD "" ++
          onError.getD ""

/-- A table from a JSON text, behind `JSON_TABLE`. -/
def jsonTable (inner : Level) : Parser Relation := do
  Parser.expect "("
  let e ← inner.expr 0
  Parser.expect ","
  let path ← ExprGrammar.value
  Parser.expectKeyword "COLUMNS"
  let columns ← Parser.parenthesized do
    Parser.list (jsonColumn (← Parser.size))
  Parser.expect ")"
  return .other ("JSON_TABLE(" ++ e.text ++ ", " ++ path.text ++ " COLUMNS(" ++ joined ", " columns ++ "))" ++
    (← tableAliasText))

/-- The rows of a JSON text, behind `OPENJSON`. -/
def openJson (inner : Level) : Parser Relation := do
  Parser.expect "("
  let e ← inner.expr 0
  let path ← if ← Parser.sign "," then pure (", " ++ (← ExprGrammar.value).text) else pure ""
  Parser.expect ")"
  let column : Parser String := do
    let name ← Parser.ident
    let type := (← dataType).1
    let path ← match ← Parser.peek? with
      | some (.string .single s) => do
        let _ ← Parser.next
        pure (" " ++ requotedText '\x27' s)
      | _ => pure ""
    if ← Parser.keyword "AS" then
      Parser.expectKeyword "JSON"
      return name.text ++ " " ++ type ++ path ++ " AS JSON"
    else return name.text ++ " " ++ type ++ path
  let columns ← if ← Parser.keyword "WITH" then
      pure (" WITH (" ++ joined ", " (← Parser.parenthesized (Parser.list column)) ++ ")") else pure ""
  return .other ("OPENJSON(" ++ e.text ++ path ++ ")" ++ columns ++ (← tableAliasText))

/-- The text of the kind of a join that comes next, up to and with `JOIN`; nothing when no join comes next. -/
def joinKind : Parser (Option String) := do
  let _ ← Parser.keyword "GLOBAL"
  if ← Parser.keyword "CROSS" then
    if ← Parser.keyword "JOIN" then return some "CROSS JOIN"
    else
      Parser.expectKeyword "APPLY"
      return some "CROSS APPLY"
  else if ← Parser.keyword "OUTER" then
    Parser.expectKeyword "APPLY"
    return some "OUTER APPLY"
  else if ← Parser.keyword "ASOF" then
    Parser.expectKeyword "JOIN"
    return some "ASOF JOIN"
  else
    let natural ← Parser.keyword "NATURAL"
    let head := keywordIf natural "NATURAL "
    match ← Parser.peekKeyword with
    | "INNER" =>
      Parser.expectKeyword "INNER"
      Parser.expectKeyword "JOIN"
      return some (head ++ "JOIN")
    | "JOIN" =>
      Parser.expectKeyword "JOIN"
      return some (head ++ "JOIN")
    | "LEFT" => sided head "LEFT"
    | "RIGHT" => sided head "RIGHT"
    | "FULL" =>
      Parser.expectKeyword "FULL"
      let _ ← Parser.keyword "OUTER"
      Parser.expectKeyword "JOIN"
      return some (head ++ "FULL JOIN")
    | "SEMI" =>
      Parser.expectKeyword "SEMI"
      Parser.expectKeyword "JOIN"
      return some (head ++ "SEMI JOIN")
    | "ANTI" =>
      Parser.expectKeyword "ANTI"
      Parser.expectKeyword "JOIN"
      return some (head ++ "ANTI JOIN")
    | _ => if natural then Parser.fail else return none
where
  /-- A join that keeps the rows of one side, or tests them. -/
  sided (head side : String) : Parser (Option String) := do
    Parser.expectKeyword side
    match ← Parser.oneOf ["OUTER", "SEMI", "ANTI", "JOIN"] with
    | some "JOIN" => return some (head ++ side ++ " JOIN")
    | some "OUTER" =>
      Parser.expectKeyword "JOIN"
      return some (head ++ side ++ " JOIN")
    | some k =>
      Parser.expectKeyword "JOIN"
      return some (head ++ side ++ " " ++ k ++ " JOIN")
    | none => Parser.fail

/-- What a join of a kind joins on. -/
def joinConstraint (inner : Level) (kind : String) : Parser String := do
  if startsWith "CROSS" kind ∨ startsWith "OUTER" kind ∨ startsWith "NATURAL" kind then return ""
  else
    let matching ← if kind = "ASOF JOIN" then do
        Parser.expectKeyword "MATCH_CONDITION"
        pure (" MATCH_CONDITION (" ++ (← Parser.parenthesized (inner.expr 0)).text ++ ")") else pure ""
    if ← Parser.keyword "ON" then return matching ++ " ON " ++ (← inner.expr 0).text
    else if ← Parser.keyword "USING" then return matching ++ " USING" ++ (← columnNames)
    else return matching

/-- Reads further joins, each table with the given parser; at most `n`. -/
def joins (inner : Level) (table : Parser Relation) : Nat → Parser (List JoinedRelation)
  | 0 => return []
  | n + 1 => do
    match ← joinKind with
    | none => return []
    | some kind =>
      let relation ← table
      let constraint ← joinConstraint inner kind
      return ⟨kind, relation, constraint⟩ :: (← joins inner table n)

/-- Tables with their joins, in parentheses nested at most `n` deep. -/
def relation (inner : Level) : Nat → Parser Relation
  | 0 => Parser.fail
  | n + 1 => do
    if ← Parser.keyword "LATERAL" then
      if ← Parser.sign "(" then derived inner "LATERAL "
      else
        let path ← Parser.path
        let arguments ← tableArguments inner
        if arguments = "" then Parser.fail
        else return .other ("LATERAL " ++ pathText path ++ arguments ++ (← tableAliasText))
    else if ← Parser.keyword "TABLE" then
      Parser.expect "("
      let e ← inner.expr 0
      Parser.expect ")"
      return .other ("TABLE(" ++ e.text ++ ")" ++ (← tableAliasText))
    else if ← Parser.sign "(" then
      match ← Parser.attempt (derived inner "") with
      | some r => pivoted inner (← Parser.size) r
      | none =>
        let r ← relation inner n
        let js ← joins inner (relation inner n) (← Parser.size)
        let lone := match r with
          | .nested _ => false
          | _ => js.isEmpty
        if lone then Parser.fail
        else
          Parser.expect ")"
          return .nested ("(" ++ (FromItem.mk r js).text ++ ")" ++ (← tableAliasText))
    else if (← Parser.peekKeyword) = "VALUES" ∧ (← Parser.peekSecond?) = some (.sign "(") then
      Parser.expectKeyword "VALUES"
      let text ← rows inner
      return .derived ("(" ++ text ++ ")" ++ (← tableAliasText))
    else if (← Parser.peekKeyword) = "JSON_TABLE" ∧ (← Parser.peekSecond?) = some (.sign "(") then
      Parser.expectKeyword "JSON_TABLE"
      jsonTable inner
    else if (← Parser.peekKeyword) = "OPENJSON" ∧ (← Parser.peekSecond?) = some (.sign "(") then
      Parser.expectKeyword "OPENJSON"
      openJson inner
    else namedTable inner

/-- A table with its joins. -/
def fromItem (inner : Level) : Parser FromItem := do
  let n ← Parser.size
  let r ← relation inner n
  return ⟨r, ← joins inner (relation inner n) (← Parser.size)⟩

end JoinCanvas.Statement.TableGrammar
