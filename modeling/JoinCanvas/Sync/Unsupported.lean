/-!
# What a canvas cannot say

The parts of a hand-written query that have no counterpart on a canvas, each with its description.
-/

namespace JoinCanvas

/-- A part of a hand-written query that a canvas cannot hold. -/
inductive Unsupported where
  | definitions
  | order
  | missingTable (path : String)
  | subqueryInFrom
  | tableExpression
  | windowFunction (name : String)
  | function (name : String)
  | arguments (name : String)
  | subqueryInSelect
  | notColumn (sql : String)
  | unknownQualifier (qualifier column : String)
  | noOwner (column : String)
  | ambiguous (column : String)
  | disjunction
  | operator (name : String)
  | noLiteral (sql : String)
  | noLiteralPattern (sql : String)
  | noLiteralList (sql : String)
  | subqueryInWhere
  | predicate (sql : String)
  | groupExpressions
  | having
deriving DecidableEq, Repr

namespace Unsupported

instance : Inhabited Unsupported := ⟨.having⟩

/-- The part in words. -/
def text : Unsupported → String
  | definitions => "WITH clause"
  | order => "ORDER BY"
  | missingTable path => "table " ++ path ++ " is not in the model"
  | subqueryInFrom => "subquery in FROM"
  | tableExpression => "table expression in FROM"
  | windowFunction name => "window function " ++ name
  | function name => "function " ++ name
  | arguments name => "arguments of " ++ name
  | subqueryInSelect => "subquery in SELECT"
  | notColumn sql => "expression " ++ sql ++ " is not a column"
  | unknownQualifier qualifier column => "unknown table qualifier " ++ qualifier ++ " for column " ++ column
  | noOwner column => "column " ++ column ++ " does not belong to any table"
  | ambiguous column => "column " ++ column ++ " is ambiguous"
  | disjunction => "OR predicate"
  | operator name => "operator " ++ name
  | noLiteral sql => "non-literal value in " ++ sql
  | noLiteralPattern sql => "non-literal pattern in " ++ sql
  | noLiteralList sql => "non-literal IN list in " ++ sql
  | subqueryInWhere => "subquery in WHERE"
  | predicate sql => "predicate " ++ sql
  | groupExpressions => "explicit GROUP BY expressions"
  | having => "HAVING"

end Unsupported

end JoinCanvas
