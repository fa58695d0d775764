import JoinCanvas.Json.Text
import JoinCanvas.Model.Table
import JoinCanvas.Text.Blank

/-!
# Names and literals in SQL

A name stands between backticks and a string between single quotes; the quote itself is written twice inside.
`unquoted?` reads such a token back.

* `unquoted_quoted`: a quoted text reads back as itself and leaves what follows, unless that starts with the quote.
-/

namespace JoinCanvas.Sql

open JoinCanvas.Text

/-- The inside of a quoted token: the quote is written twice. -/
def doubled (quote : Char) (cs : List Char) : List Char :=
  cs.flatMap fun c => if c = quote then [quote, quote] else [c]

/-- A text between quotes. -/
def quotedWith (quote : Char) (s : String) : String :=
  String.ofList (quote :: (doubled quote s.toList ++ [quote]))

/-- A name between backticks. -/
def quotedName (name : String) : String :=
  quotedWith '\x60' name

/-- A string between single quotes. -/
def quotedString (s : String) : String :=
  quotedWith '\x27' s

/-- Reads the rest of a quoted token: its text, and what follows the closing quote. -/
def unquoted? (quote : Char) : List Char → Option (List Char × List Char)
  | [] => none
  | [c] => if c = quote then some ([], []) else none
  | c :: d :: rest =>
    if c = quote then
      if d = quote then (unquoted? quote rest).map fun (cs, rest) => (quote :: cs, rest)
      else some ([], d :: rest)
    else (unquoted? quote (d :: rest)).map fun (cs, rest) => (c :: cs, rest)

/-- What stands for a table that has no name yet. -/
def unnamedTable : String := "__unnamed_table__"

/-- The segments of a schema path that are not blank. -/
def schemaSegments (schema? : Option String) : List String :=
  match schema? with
  | none => []
  | some schema => ((split '.' schema.toList).map String.ofList).filter fun s => !allBlank s

/-- The full name of a table: its schema segments and its name, each quoted. -/
def qualified (schema? : Option String) (name : String) : String :=
  if allBlank name then unnamedTable
  else joined "." ((schemaSegments schema? ++ [name]).map quotedName)

/-- The full name of a table of the canvas. -/
def qualifiedTable (t : Table) : String :=
  qualified t.schema? t.name

mutual

/-- A value in SQL.  An array is the list of its items, an object the string of its JSON text. -/
def literal : Json.Value → String
  | .null => "NULL"
  | .bool b => if b then "true" else "false"
  | .number n => n.text
  | .string s => quotedString s
  | .array items => joined ", " (literals items)
  | .object members => quotedString (Json.Value.object members).text

/-- Each of the values in SQL. -/
def literals : List Json.Value → List String
  | [] => []
  | v :: rest => literal v :: literals rest

end

theorem literals_eq_map (items : List Json.Value) : literals items = items.map literal := by
  induction items with
  | nil => rfl
  | cons v rest ih => rw [literals, ih, List.map_cons]

theorem doubled_nil (quote : Char) : doubled quote [] = [] := rfl

theorem doubled_cons_self (quote : Char) (cs : List Char) :
    doubled quote (quote :: cs) = quote :: quote :: doubled quote cs := by
  simp [doubled]

theorem doubled_cons_of_ne {quote c : Char} (h : c ≠ quote) (cs : List Char) :
    doubled quote (c :: cs) = c :: doubled quote cs := by
  simp [doubled, h]

/-- A quoted text reads back as itself and leaves what follows, unless that starts with the quote. -/
theorem unquoted_quoted (quote : Char) (cs rest : List Char) (h : rest.head? ≠ some quote) :
    unquoted? quote (doubled quote cs ++ quote :: rest) = some (cs, rest) := by
  induction cs with
  | nil =>
    cases rest with
    | nil => simp [doubled_nil, unquoted?]
    | cons d ds =>
      have hd : d ≠ quote := fun e => h (by simp [e])
      simp [doubled_nil, unquoted?, hd]
  | cons c cs ih =>
    by_cases hc : c = quote
    · subst hc
      simp [doubled_cons_self, unquoted?, ih]
    · rw [doubled_cons_of_ne hc]
      cases hr : doubled quote cs ++ quote :: rest with
      | nil => simp at hr
      | cons d ds =>
        rw [hr] at ih
        simp [hr, unquoted?, hc, ih]

end JoinCanvas.Sql
