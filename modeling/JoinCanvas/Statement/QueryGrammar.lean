import JoinCanvas.Statement.TableGrammar

/-!
# The grammar of queries

A query is a body with what is defined before it, what orders and limits it, and what its result is for.  The body is a
`SELECT`, a query in parentheses, a list of rows, or several of these combined.
-/

namespace JoinCanvas.Statement.QueryGrammar

open JoinCanvas.Text JoinCanvas.Statement

/-- A selected item. -/
def selectItem (inner : Level) : Parser SelectItem := do
  let except : Parser String := do
    if ← Parser.keyword "EXCEPT" then
      if (← Parser.peek?) = some (.sign "(") then return " EXCEPT " ++ (← TableGrammar.columnNames)
      else return " EXCEPT (" ++ (← Parser.ident).text ++ ")"
    else return ""
  match ← ExprGrammar.wildcardOr inner with
  | .other text => return .wildcard (text ++ (← except))
  | .plain e =>
    match e with
    | .name [⟨text, none⟩] =>
      if uppered text = "FROM" then Parser.fail else return .expr e (← Parser.alias? Keyword.endOfItem)
    | _ => return .expr e (← Parser.alias? Keyword.endOfItem)

/-- What stands before the selected items: which rows count, and how many. -/
def quantifier (inner : Level) : Parser String := do
  let all ← Parser.keyword "ALL"
  let distinct ← if ← Parser.keyword "DISTINCT" then
      if all then Parser.fail
      else if ← Parser.keyword "ON" then
        Parser.expect "("
        if ← Parser.sign ")" then pure " DISTINCT ON ()"
        else
          let es ← ExprGrammar.exprTexts inner
          Parser.expect ")"
          pure (" DISTINCT ON (" ++ es ++ ")")
      else pure " DISTINCT" else pure ""
  let top ← if ← Parser.keyword "TOP" then
      let count ← if ← Parser.sign "(" then do
          let e ← inner.expr 0
          Parser.expect ")"
          pure ("(" ++ e.text ++ ")")
        else match ← Parser.next with
          | .number text _ => pure text
          | _ => Parser.fail
      let percent ← if ← Parser.keyword "PERCENT" then pure " PERCENT" else pure ""
      let ties ← if ← Parser.keywords ["WITH", "TIES"] then pure " WITH TIES" else pure ""
      pure (" TOP " ++ count ++ percent ++ ties) else pure ""
  return distinct ++ top

/-- The keywords that do not begin the name of a column of a view. -/
def endOfColumns : List String := ["WHERE", "GROUP", "CLUSTER", "HAVING", "LATERAL"]

/-- Views of nested rows behind the tables, each perhaps with names for its columns; at most `n`. -/
def lateralViews (inner : Level) : Nat → Parser String
  | 0 => return ""
  | n + 1 => do
    if ← Parser.keywords ["LATERAL", "VIEW"] then
      let outer ← Parser.keyword "OUTER"
      let e ← inner.expr 0
      let name ← Parser.path
      let columns := (← Parser.list (Parser.alias? endOfColumns)).reduceOption
      return " LATERAL VIEW " ++ keywordIf outer "OUTER " ++ e.text ++ " " ++ pathText name ++
        (if columns.isEmpty then "" else " AS " ++ joined ", " (columns.map Ident.text)) ++ (← lateralViews inner n)
    else return ""

/-- An expression to group by, or sets of them. -/
def groupKey (inner : Level) : Parser String := do
  let set (lone : Bool) : Parser String := do
    if ← Parser.sign "(" then
      if ← Parser.sign ")" then return "()"
      else
        let es ← ExprGrammar.exprTexts inner
        Parser.expect ")"
        return "(" ++ es ++ ")"
    else if lone then return "(" ++ (← inner.expr 0).text ++ ")"
    else Parser.fail
  let sets (head : String) (lone : Bool) : Parser String := do
    let ss ← Parser.parenthesized (Parser.list (set lone))
    return head ++ " (" ++ joined ", " ss ++ ")"
  if ← Parser.keywords ["GROUPING", "SETS"] then sets "GROUPING SETS" false
  else if ← Parser.keyword "CUBE" then sets "CUBE" true
  else if ← Parser.keyword "ROLLUP" then sets "ROLLUP" true
  else fun ts =>
    match ts with
    | .sign "(" :: .sign ")" :: rest => some ("()", rest)
    | ts => ((do return (← inner.expr 0).text) : Parser String) ts

/-- A `GROUP BY` clause, if one comes next. -/
def grouping (inner : Level) : Parser Grouping := do
  if ← Parser.keywords ["GROUP", "BY"] then
    if ← Parser.keyword "ALL" then return .all
    else return .expressions (joined ", " (← Parser.list (groupKey inner)))
  else return .none

/-- A list behind keywords, if they come next, by its text. -/
def listClause (words : List String) (items : Parser String) : Parser String := do
  if ← Parser.keywords words then return " " ++ joined " " words ++ " " ++ (← items) else return ""

/-- The conditions on windows and their names, in either order. -/
def windowClauses (inner : Level) : Parser String := do
  let named : Parser String := do
    let i ← Parser.ident
    Parser.expectKeyword "AS"
    Parser.expect "("
    return i.text ++ " AS " ++ (← ExprGrammar.windowParts inner)
  let window : Parser String := do
    if ← Parser.keyword "WINDOW" then return " WINDOW " ++ joined ", " (← Parser.list named) else return ""
  let qualify : Parser String := do
    if ← Parser.keyword "QUALIFY" then return " QUALIFY " ++ (← inner.expr 0).text else return ""
  if (← Parser.peekKeyword) = "WINDOW" then
    let w ← window
    return w ++ (← qualify)
  else
    let q ← qualify
    if q = "" then return "" else return q ++ (← window)

/-- A `SELECT`. -/
def select (inner : Level) : Parser Select := do
  Parser.expectKeyword "SELECT"
  let quantifier ← quantifier inner
  let items ← Parser.list (selectItem inner)
  let into ← if ← Parser.keyword "INTO" then
      let temporary ← Parser.oneOf ["TEMPORARY", "TEMP"]
      let _ ← Parser.keyword "UNLOGGED"
      let _ ← Parser.keyword "TABLE"
      pure (" INTO " ++ keywordIf temporary.isSome "TEMPORARY " ++ pathText (← Parser.path)) else pure ""
  let tables ← if ← Parser.keyword "FROM" then Parser.list (TableGrammar.fromItem inner) else pure []
  let lateral ← lateralViews inner (← Parser.size)
  let condition? ← if ← Parser.keyword "WHERE" then do
      pure (some (← inner.expr 0)) else pure none
  let grouping ← grouping inner
  let cluster ← listClause ["CLUSTER", "BY"] (ExprGrammar.exprTexts inner)
  let distribute ← listClause ["DISTRIBUTE", "BY"] (ExprGrammar.exprTexts inner)
  let sort ← listClause ["SORT", "BY"] (ExprGrammar.exprTexts inner)
  let having? ← if ← Parser.keyword "HAVING" then do
      pure (some (← inner.expr 0)) else pure none
  let windows ← windowClauses inner
  let sorting := cluster ++ distribute ++ sort
  return ⟨quantifier, items, into, tables, lateral, condition?, grouping, sorting, having?, windows⟩

/-- How tightly the keywords bind that combine queries; zero for other keywords. -/
def combining (k : String) : Nat :=
  if k = "UNION" ∨ k = "EXCEPT" then 10 else if k = "INTERSECT" then 20 else 0

/-- A body without others combined with it. -/
def simpleBody (inner : Level) : Parser Body := do
  let k ← Parser.peekKeyword
  if k = "SELECT" then return .select (← select inner)
  else if ← Parser.sign "(" then
    let q ← inner.query
    Parser.expect ")"
    return .other ("(" ++ q ++ ")")
  else if ← Parser.keyword "VALUES" then return .other (← TableGrammar.rows inner)
  else if ← Parser.keyword "TABLE" then return .other ("TABLE " ++ pathText (← Parser.path))
  else Parser.fail

/-- Which rows count of the bodies that are combined, and how their columns are paired. -/
def setQuantifier : Parser String := do
  if ← Parser.keywords ["DISTINCT", "BY", "NAME"] then return " DISTINCT BY NAME"
  else if ← Parser.keywords ["ALL", "BY", "NAME"] then return " ALL BY NAME"
  else if ← Parser.keywords ["BY", "NAME"] then return " BY NAME"
  else if ← Parser.keyword "ALL" then return " ALL"
  else if ← Parser.keyword "DISTINCT" then return " DISTINCT"
  else return ""

/-- The bodies combined with a body by keywords that bind tighter than a number; at most `n` steps. -/
def combined (inner : Level) : Nat → Nat → Body → Parser Body
  | 0, _, b => return b
  | n + 1, prec, b => do
    let k ← Parser.peekKeyword
    if combining k ≤ prec then return b
    else
      let _ ← Parser.next
      let how ← setQuantifier
      let right ← combined inner n (combining k) (← simpleBody inner)
      combined inner n prec (.other (b.text ++ " " ++ k ++ how ++ " " ++ right.text))

/-- A query that another one refers to by name. -/
def definition (inner : Level) : Parser String := do
  let i ← Parser.ident
  let columns ← TableGrammar.aliasColumns
  Parser.expectKeyword "AS"
  let q ← Parser.parenthesized inner.query
  let source ← if ← Parser.keyword "FROM" then pure (" FROM " ++ (← Parser.ident).text) else pure ""
  return i.text ++ columns ++ " AS (" ++ q ++ ")" ++ source

/-- What is defined before a query, if something is. -/
def definitions (inner : Level) : Parser (Option String) := do
  if ← Parser.keyword "WITH" then
    let recursive ← Parser.keyword "RECURSIVE"
    return some ("WITH " ++ keywordIf recursive "RECURSIVE " ++ joined ", " (← Parser.list (definition inner)))
  else return none

/-- The first `LIMIT` and the first `OFFSET` that come next, in either order. -/
def limitAndOffset (inner : Level) : Parser String := do
  let limit : Parser String := do
    if ← Parser.keyword "LIMIT" then
      if ← Parser.keyword "ALL" then return "" else return " LIMIT " ++ (← inner.expr 0).text
    else return ""
  let offset : Parser String := do
    if ← Parser.keyword "OFFSET" then
      let e ← inner.expr 0
      match ← Parser.oneOf ["ROW", "ROWS"] with
      | some k => return " OFFSET " ++ e.text ++ " " ++ k
      | none => return " OFFSET " ++ e.text
    else return ""
  let l ← limit
  let o ← offset
  let l ← if l = "" then limit else pure l
  let o ← if o = "" then offset else pure o
  return l ++ o

/-- How many rows to fetch, if it is said. -/
def fetch : Parser String := do
  if ← Parser.keyword "FETCH" then
    match ← Parser.oneOf ["FIRST", "NEXT"] with
    | none => Parser.fail
    | some _ =>
      let count ← match ← Parser.oneOf ["ROW", "ROWS"] with
        | some _ => pure ""
        | none => do
          let n ← ExprGrammar.value
          let percent ← Parser.keyword "PERCENT"
          match ← Parser.oneOf ["ROW", "ROWS"] with
          | none => Parser.fail
          | some _ => pure (n.text ++ keywordIf percent " PERCENT" ++ " ")
      if ← Parser.keyword "ONLY" then return " FETCH FIRST " ++ count ++ "ROWS ONLY"
      else if ← Parser.keywords ["WITH", "TIES"] then return " FETCH FIRST " ++ count ++ "ROWS WITH TIES"
      else Parser.fail
  else return ""

/-- A name in parentheses and quotes. -/
def quotedName : Parser String := Parser.parenthesized do
  return "('" ++ (← Parser.literalString Keyword.all) ++ "')"

/-- The options of a format behind commas, each with the word that it starts with; at most `n`.  A comma without an
option of these words behind it is passed over. -/
def formatOptions (words : List String) : Nat → Parser (List (String × String))
  | 0 => return []
  | n + 1 => do
    if ← Parser.sign "," then
      let option ← match ← Parser.oneOf words with
        | some "ROOT" => do
          pure [("ROOT", "ROOT" ++ (← quotedName))]
        | some "BINARY" => do
          Parser.expectKeyword "BASE64"
          pure [("BINARY", "BINARY BASE64")]
        | some k => pure [(k, k)]
        | none => pure []
      return option ++ (← formatOptions words n)
    else return []

/-- A format behind its name, with the modes that it has and the words of its options in the order in which they are
written; of several options with one word the last counts. -/
def formatOf (name : String) (modes words : List String) : Parser String := do
  match ← Parser.oneOf modes with
  | some mode =>
    let element ← if (mode = "RAW" ∨ mode = "PATH") ∧ name = "XML" ∧ (← Parser.peek?) = some (.sign "(") then
        quotedName else pure ""
    let options ← formatOptions words (← Parser.size)
    let texts := words.filterMap fun k => (options.reverse.find? (·.1 == k)).map (·.2)
    return " FOR " ++ joined ", " ((name ++ " " ++ mode ++ element) :: texts)
  | none => Parser.fail

/-- The format of the result, behind `FOR`; nothing when something else follows. -/
def format? : Parser (Option String) := do
  match ← Parser.oneOf ["XML", "JSON", "BROWSE"] with
  | some "XML" =>
    return some (← formatOf "XML" ["RAW", "AUTO", "EXPLICIT", "PATH"] ["BINARY", "TYPE", "ROOT", "ELEMENTS"])
  | some "JSON" =>
    return some (← formatOf "JSON" ["AUTO", "PATH"] ["ROOT", "INCLUDE_NULL_VALUES", "WITHOUT_ARRAY_WRAPPER"])
  | some _ => return some " FOR BROWSE"
  | none => return none

/-- A lock on the rows that are read, behind `FOR`. -/
def lock : Parser String := do
  match ← Parser.oneOf ["UPDATE", "SHARE"] with
  | some k =>
    let table ← if ← Parser.keyword "OF" then pure (" OF " ++ pathText (← Parser.path)) else pure ""
    let patience ← if ← Parser.keyword "NOWAIT" then pure " NOWAIT"
      else if ← Parser.keywords ["SKIP", "LOCKED"] then pure " SKIP LOCKED" else pure ""
    return " FOR " ++ k ++ table ++ patience
  | none => Parser.fail

/-- What the result of a query is for: locks, and at the end perhaps a format; at most `n`. -/
def purposes : Nat → Parser String
  | 0 => return ""
  | n + 1 => do
    if ← Parser.keyword "FOR" then
      match ← format? with
      | some text => return text
      | none => return (← lock) ++ (← purposes n)
    else return ""

/-- A query. -/
def query (inner : Level) : Parser Query := do
  let with? ← definitions inner
  let body ← combined inner (← Parser.size) 0 (← simpleBody inner)
  let order? ← if ← Parser.keywords ["ORDER", "BY"] then do
      pure (some (← ExprGrammar.sortKeys inner)) else pure none
  let limits ← limitAndOffset inner
  let fetch ← fetch
  let purposes ← purposes (← Parser.size)
  return ⟨with?, body, order?, limits ++ fetch ++ purposes⟩

end JoinCanvas.Statement.QueryGrammar
