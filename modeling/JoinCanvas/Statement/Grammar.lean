import JoinCanvas.Statement.QueryGrammar

/-!
# Reading SQL text

A text holds statements with semicolons between them.  Nesting is bounded: a statement, a query and an expression each
take one of fifty levels.

`Statement.read` is one reader of SQL.  What a canvas takes over of a query is the same for any other one.
-/

namespace JoinCanvas.Statement

open JoinCanvas.Text

namespace Level

/-- A level on which nothing can be read. -/
def none : Level := ⟨fun _ => Parser.fail, Parser.fail⟩

/-- The level above another. -/
def above (inner : Level) : Level :=
  ⟨ExprGrammar.expr inner, do return (← QueryGrammar.query inner).text⟩

/-- The level on which parts may be nested so deep. -/
def ofDepth : Nat → Level
  | 0 => none
  | n + 1 => (ofDepth n).above

end Level

/-- How deep a text may be nested. -/
def depthLimit : Nat := 50

/-- The level inside a query that is a statement. -/
def inStatement : Level := Level.ofDepth (depthLimit - 2)

namespace Change

/-- A condition, if one comes next. -/
def condition : Parser Unit := do
  if ← Parser.keyword "WHERE" then
    let _ ← inStatement.expr 0
    return ()
  else return ()

/-- `UPDATE`, behind its word. -/
def update : Parser Unit := do
  let _ ← TableGrammar.fromItem inStatement
  Parser.expectKeyword "SET"
  let _ ← Parser.list do
    let _ ← Parser.path
    Parser.expect "="
    inStatement.expr 0
  if ← Parser.keyword "FROM" then
    let _ ← TableGrammar.fromItem inStatement
    condition
  else condition

/-- `DELETE`, behind its word. -/
def delete : Parser Unit := do
  if ← Parser.keyword "FROM" then pure () else
    let _ ← Parser.list Parser.path
    Parser.expectKeyword "FROM"
  let _ ← Parser.list (TableGrammar.fromItem inStatement)
  if ← Parser.keyword "USING" then
    let _ ← Parser.list (TableGrammar.fromItem inStatement)
    condition
  else condition

/-- `INSERT`, behind its word. -/
def insert : Parser Unit := do
  match ← Parser.oneOf ["INTO", "OVERWRITE"] with
  | some _ | none =>
    let _ ← Parser.keyword "TABLE"
    let _ ← Parser.path
    if ← Parser.keywords ["DEFAULT", "VALUES"] then return ()
    else
      let _ ← Parser.attempt TableGrammar.columnNames
      let _ ← QueryGrammar.query inStatement
      return ()

/-- A constraint of a column; at most `n` of them are read. -/
def columnOptions : Nat → Parser Unit
  | 0 => return ()
  | n + 1 => do
    if ← Parser.keywords ["NOT", "NULL"] then columnOptions n
    else if ← Parser.keyword "NULL" then columnOptions n
    else if ← Parser.keywords ["PRIMARY", "KEY"] then columnOptions n
    else if ← Parser.keyword "UNIQUE" then columnOptions n
    else if ← Parser.keyword "DEFAULT" then
      let _ ← inStatement.expr 0
      columnOptions n
    else if ← Parser.keyword "COMMENT" then
      let _ ← Parser.literalString Keyword.all
      columnOptions n
    else return ()

/-- `CREATE`, behind its word. -/
def create : Parser Unit := do
  let _ ← Parser.keywords ["OR", "REPLACE"]
  let _ ← Parser.oneOf ["TEMPORARY", "TEMP"]
  match ← Parser.oneOf ["TABLE", "VIEW", "SCHEMA", "DATABASE"] with
  | some "TABLE" =>
    let _ ← Parser.keywords ["IF", "NOT", "EXISTS"]
    let _ ← Parser.path
    if ← Parser.sign "(" then
      let _ ← Parser.list do
        let _ ← Parser.ident
        let _ ← dataType
        columnOptions (← Parser.size)
      Parser.expect ")"
    if ← Parser.keyword "AS" then
      let _ ← QueryGrammar.query inStatement
      return ()
    else return ()
  | some "VIEW" =>
    let _ ← Parser.path
    let _ ← TableGrammar.aliasColumns
    Parser.expectKeyword "AS"
    let _ ← QueryGrammar.query inStatement
    return ()
  | some _ =>
    let _ ← Parser.keywords ["IF", "NOT", "EXISTS"]
    let _ ← Parser.path
    return ()
  | none => Parser.fail

/-- `DROP`, behind its word. -/
def drop : Parser Unit := do
  let _ ← Parser.keyword "TEMPORARY"
  match ← Parser.oneOf ["TABLE", "VIEW", "INDEX", "ROLE", "SCHEMA", "DATABASE", "SEQUENCE", "STAGE", "TYPE"] with
  | some _ =>
    let _ ← Parser.keywords ["IF", "EXISTS"]
    let _ ← Parser.list Parser.path
    let _ ← Parser.oneOf ["CASCADE", "RESTRICT"]
    let _ ← Parser.keyword "PURGE"
    return ()
  | none => Parser.fail

end Change

/-- A statement. -/
def statement : Parser Sentence := do
  let k ← Parser.peekKeyword
  let p ← Parser.peek?
  if k = "SELECT" ∨ k = "WITH" ∨ k = "VALUES" ∨ p = some (.sign "(") then
    return .query (← QueryGrammar.query inStatement)
  else if ← Parser.keyword "UPDATE" then
    Change.update
    return .other
  else if ← Parser.keyword "DELETE" then
    Change.delete
    return .other
  else if ← Parser.keyword "INSERT" then
    Change.insert
    return .other
  else if ← Parser.keyword "CREATE" then
    Change.create
    return .other
  else if ← Parser.keyword "DROP" then
    Change.drop
    return .other
  else Parser.fail

/-- The statements of a list of tokens; `delimited` says whether one may start here.  At most `n` are read. -/
def statements? : Nat → Bool → List Token → Option (List Sentence)
  | 0, _, _ => some []
  | n + 1, delimited, ts =>
    let rest := ts.dropWhile (· == .sign ";")
    let delimited := delimited || rest.length < ts.length
    match rest with
    | [] => some []
    | t :: _ =>
      if delimited then
        (statement rest).bind fun (s, rest) => (statements? n false rest).map (s :: ·)
      else if Parser.isKeyword "END" t then some []
      else none

/-- The statements of a text; nothing where it cannot be read. -/
def read (sql : String) : Option (List Sentence) :=
  (tokens? sql).bind fun ts => statements? (ts.length + 1) true ts

end JoinCanvas.Statement
