import JoinCanvas.Cardinality.Stats
import JoinCanvas.Compile
import JoinCanvas.Proofs.Join.Coverage
import JoinCanvas.Proofs.Statement.Numerals

/-!
# The tokens of compiled SQL

What a compiled query consists of, whatever the names and strings of the model are: its skeleton has a token of its
own for every name and for every string, which carries the text as the model has it.

* `Skeleton.ofModel`, `Skeleton.ofStats`: the skeletons of a model and of a query for statistics.
* `writes_model`: the compiled query is read as its skeleton.
* `tokens_compiled`: no name and no string changes what is around it.
-/

namespace JoinCanvas

open JoinCanvas.Sql JoinCanvas.Statement JoinCanvas.Text

/-- The members that a value stands for in an `IN` list; a value that is no array is the only one. -/
def Json.Value.members : Json.Value → List Json.Value
  | .array items => items
  | v => [v]

/-- Whether a value is null, a truth value or a number. -/
def Json.Value.isPlain : Json.Value → Bool
  | .null | .bool _ | .number _ => true
  | _ => false

namespace Skeleton

/-- A word that is not quoted. -/
def word (w : String) : Token := .word w none

/-- A quoted name. -/
def name (s : String) : Token := .word s (some '\x60')

/-- A string. -/
def text (s : String) : Token := .string .single s

/-- A full name: a token for every segment of the schema and one for the name. -/
def qualified (schema? : Option String) (table : String) : List Token :=
  if allBlank table then [word unnamedTable]
  else List.intercalate [.sign "."] ((schemaSegments schema? ++ [table]).map fun s => [name s])

/-- A column of the table that goes by an alias. -/
def column (tableAlias column : String) : List Token :=
  [word tableAlias, .sign ".", name column]

/-- Parts with commas between them. -/
def listed (parts : List (List Token)) : List Token :=
  List.intercalate [.sign ","] parts

/-- Conditions that all must hold. -/
def conjoined (parts : List (List Token)) : List Token :=
  List.intercalate [word "AND"] parts

/-- A selection of the table that goes by an alias. -/
def selection (tableAlias : String) (s : Selection) : List Token :=
  (match s.aggregation.functionName? with
    | some f => word f :: .sign "(" :: (column tableAlias s.column ++ [.sign ")"])
    | none => column tableAlias s.column) ++
  match s.outputAlias? with
  | some a => [word "AS", name a]
  | none => []

/-- The visible selections of a canvas, each with the place of its table. -/
def selected (tables : List Table) : List (Nat × Selection) :=
  tables.flatMap fun t =>
    match findTable? tables t.id with
    | some (place, _) => t.visible.map fun s => (place, s)
    | none => []

/-- What is selected: everything when no table has a visible selection. -/
def items (tables : List Table) : List Token :=
  if (selected tables).isEmpty then [.sign "*"]
  else listed ((selected tables).map fun x => selection (tableAlias x.1) x.2)

/-- The first table with an identifier, under its alias. -/
def table (tables : List Table) (id : String) : List Token :=
  match findTable? tables id with
  | some (place, t) => qualified t.schema? t.name ++ [word "AS", word (tableAlias place)]
  | none => []

/-- The alias of the first table with an identifier. -/
def aliasOf (tables : List Table) (id : String) : String :=
  (aliasOf? tables id).getD ""

/-- The equalities of an edge. -/
def keys (tables : List Table) (e : Edge) : List Token :=
  conjoined (e.key.pairs.map fun p =>
    column (aliasOf tables e.fromTable) p.fromColumn ++ [.sign "="] ++
      column (aliasOf tables e.toTable) p.toColumn)

/-- A join along an edge to one of its ends. -/
def along (tables : List Table) (e : Edge) (target : String) : List Token :=
  [word e.joinType.name, word "JOIN"] ++ table tables target ++ [word "ON"] ++ keys tables e

/-- A cross join. -/
def cross (tables : List Table) (id : String) : List Token :=
  [word "CROSS", word "JOIN"] ++ table tables id

mutual

/-- A value.  An object is the string of its JSON text. -/
def value : Json.Value → List Token
  | .null => [word "NULL"]
  | .bool b => [word (if b then "true" else "false")]
  | .number n => n.tokens
  | .string s => [text s]
  | .array items => listed (values items)
  | .object members => [text (Json.Value.object members).text]

/-- Each of the values. -/
def values : List Json.Value → List (List Token)
  | [] => []
  | v :: rest => value v :: values rest

end

/-- A member of an `IN` list.  A string is finished text. -/
def member : Json.Value → List Token
  | .string s => (tokens? s).getD []
  | v => value v

/-- The operator of a comparison. -/
def operator (o : Operator) : Token :=
  if o = .like then word "LIKE" else .sign o.text

/-- A condition on a column of the table that goes by an alias, when it can be written. -/
def condition? (tableAlias : String) (c : Condition) : Option (List Token) :=
  let column := column tableAlias c.column
  match c.operator with
  | .isNull => some (column ++ [word "IS", word "NULL"])
  | .isNotNull => some (column ++ [word "IS", word "NOT", word "NULL"])
  | .isIn =>
    if c.value.members.isEmpty then none
    else some (column ++ [word "IN", .sign "("] ++ listed (c.value.members.map member) ++ [.sign ")"])
  | op => op.comparison?.map fun o => column ++ [operator o] ++ value c.value

/-- The conditions on tables of the canvas that can be written. -/
def conditions (tables : List Table) (cs : List Condition) : List (List Token) :=
  cs.filterMap fun c => (aliasOf? tables c.table).bind fun a => condition? a c

/-- The joins of a canvas, those along edges first. -/
def joins (tables : List Table) (progress : Progress) : List Token :=
  (progress.taken.flatMap fun x => along tables x.1 x.2) ++ (unreached tables progress.joined).flatMap (cross tables)

/-- The clause of the conditions, when some can be written. -/
def filters (tables : List Table) (cs : List Condition) : List Token :=
  if (conditions tables cs).isEmpty then [] else word "WHERE" :: conjoined (conditions tables cs)

/-- The clause of the grouping. -/
def group (all : Bool) : List Token :=
  if all then [word "GROUP", word "BY", word "ALL"] else []

/-- The query of a model in graph mode. -/
def ofModel (m : Model) : List Token :=
  match m.tables with
  | [] => []
  | base :: _ =>
    [word "SELECT"] ++ items m.tables ++ [word "FROM"] ++ table m.tables base.id ++
      joins m.tables (reachedFrom base.id m.tables m.edges) ++ filters m.tables m.filters.list ++ group m.groupByAll

/-- The query that counts one side of a join. -/
def ofSide (side : String) (l : Locator) (columns : List String) : List Token :=
  [word "SELECT", text side, word "AS", name "side", .sign ",",
    word "COUNT", .sign "(", .sign "*", .sign ")", word "AS", name "total_rows", .sign ",",
    word "COUNT", .sign "(", word "DISTINCT"] ++ listed (columns.map fun c => [name c]) ++
    [.sign ")", word "AS", name "distinct_keys", word "FROM"] ++ qualified l.schema? l.name

/-- The query that counts both sides of a join. -/
def ofStats (source target : Locator) (pairs : List KeyPair) : List Token :=
  ofSide "source" source (pairs.map (·.fromColumn)) ++ [word "UNION", word "ALL"] ++
    ofSide "target" target (pairs.map (·.toColumn))

end Skeleton

/-! ### Names and values -/

theorem isWord_tableAlias (place : Nat) : IsWord (tableAlias place).toList := by
  have hcs : (tableAlias place).toList = 't' :: Nat.toDigits 10 (place + 1) := by simp [tableAlias]
  rw [hcs]
  refine ⟨⟨'t', rfl, by decide⟩, fun c hc => ?_⟩
  rcases List.mem_cons.1 hc with rfl | hc
  · decide
  · exact continuesWord_iff.2 (Or.inr ((isDigits_toDigits (place + 1)).2 c hc))

theorem exists_of_aliasOf {tables : List Table} {id a : String} (h : aliasOf? tables id = some a) :
    ∃ place, a = tableAlias place := by
  obtain ⟨⟨place, t⟩, -, rfl⟩ := Option.map_eq_some_iff.1 h
  exact ⟨place, rfl⟩

namespace Skeleton

theorem writes_qualified (schema? : Option String) (table : String) :
    Writes (Sql.qualified schema? table) (qualified schema? table) := by
  unfold Sql.qualified qualified
  split
  · exact writes_word (by decide)
  · exact writes_names _

theorem writes_column (place : Nat) (name : String) :
    Writes (Sql.Expr.column (some (tableAlias place)) name).text (column (tableAlias place) name) :=
  Statement.writes_column (isWord_tableAlias place) name

theorem writes_listed {α : Type} {f : α → String} {g : α → List Token} (l : List α)
    (h : ∀ x ∈ l, Writes (f x) (g x)) : Writes (joined ", " (l.map f)) (listed (l.map g)) :=
  writes_joined Writes.comma l h

theorem writes_conjoined {α : Type} {f : α → String} {g : α → List Token} (l : List α)
    (h : ∀ x ∈ l, Writes (f x) (g x)) : Writes (joined " AND " (l.map f)) (conjoined (l.map g)) :=
  writes_joined (Writes.between (w := "AND") (by decide)) l h

private theorem values_eq_map (items : List Json.Value) : values items = items.map value := by
  induction items with
  | nil => rfl
  | cons v rest ih => rw [values, ih, List.map_cons]

/-- A value is read as its tokens. -/
theorem writes_value : ∀ v : Json.Value, Writes (literal v) (value v)
  | .null => writes_word (by decide)
  | .bool true => writes_word (by decide)
  | .bool false => writes_word (by decide)
  | .number n => Json.writes_number n
  | .string s => writes_quotedString s
  | .array items => by
    rw [literal, value, literals_eq_map, values_eq_map]
    exact writes_listed items fun v _ => writes_value v
  | .object members => by
    rw [literal, value]
    exact writes_quotedString _

theorem writes_operator (o : Operator) : Writes o.text [operator o] := by
  cases o with
  | like => exact writes_word (by decide)
  | _ => exact writes_comparison (by decide)

/-! ### Selections and conditions -/

/-- A selection is read as its tokens. -/
theorem writes_selection (place : Nat) (s : Selection) :
    Writes (s.item (tableAlias place)).text (selection (tableAlias place) s) := by
  have hcolumn := writes_column place s.column
  have hexpr : Writes (s.item (tableAlias place)).expr.text
      (match s.aggregation.functionName? with
        | some f => word f :: .sign "(" :: (column (tableAlias place) s.column ++ [.sign ")"])
        | none => column (tableAlias place) s.column) := by
    cases hs : s.aggregation with
    | none => simpa [Selection.item, hs, Aggregation.functionName?] using hcolumn
    | _ =>
      simp only [Selection.item, hs, reduceCtorEq, if_false, Sql.Expr.text]
      exact hcolumn.call (by decide)
  unfold selection Item.text
  simp only [show (s.item (tableAlias place)).alias? = s.outputAlias? from rfl]
  cases s.outputAlias? with
  | none => simpa using hexpr
  | some a =>
    have := hexpr.between (w := "AS") (by decide) (writes_quotedName a)
    simpa [word, name] using this

theorem selectItems_eq (tables : List Table) :
    selectItems tables = (selected tables).map fun x => x.2.item (tableAlias x.1) := by
  rw [selectItems, selected, List.map_flatMap]
  congr 1
  funext t
  rw [aliasOf?]
  cases findTable? tables t.id <;> simp

/-- What is selected is read as its tokens. -/
theorem writes_items {q : Sql.Query} {tables : List Table} (hq : q.items = selectItems tables) :
    Writes q.itemsText (items tables) := by
  unfold Sql.Query.itemsText items
  rw [hq, selectItems_eq, List.isEmpty_map, List.map_map]
  split
  · exact writes_star
  · exact writes_listed _ fun x _ => writes_selection x.1 x.2

theorem listMembers_eq (v : Json.Value) : listMembers v = v.members.map listMember := by
  cases v <;> rfl

/-- The members of a list are written as what they are read as. -/
def Finished (c : Condition) : Prop :=
  c.operator = .isIn → ∀ v ∈ c.value.members, Writes (listMember v).text (member v)

theorem writes_listMember {v : Json.Value} (h : v.isPlain = true) : Writes (listMember v).text (member v) := by
  cases v with
  | null => exact writes_word (by decide)
  | bool b => cases b <;> exact writes_word (by decide)
  | number n => exact Json.writes_number n
  | _ => simp [Json.Value.isPlain] at h

/-- A condition can be written where its skeleton is defined, and is read as that. -/
theorem writes_condition (place : Nat) {c : Condition} (hc : Finished c) :
    (c.expr? (.column (some (tableAlias place)) c.column) = none ∧ condition? (tableAlias place) c = none) ∨
      ∃ e ts, c.expr? (.column (some (tableAlias place)) c.column) = some e ∧
        condition? (tableAlias place) c = some ts ∧ Writes e.text ts := by
  have hcolumn := writes_column place c.column
  have hcompare : ∀ o, Writes (Sql.Expr.binary o (.column (some (tableAlias place)) c.column) (.literal c.value)).text
      (column (tableAlias place) c.column ++ [operator o] ++ value c.value) := fun o =>
    (hcolumn.spaced (writes_operator o)).spaced (writes_value c.value)
  unfold Condition.expr? condition?
  cases ho : c.operator with
  | isNull =>
    refine Or.inr ⟨_, _, rfl, rfl, ?_⟩
    have := hcolumn.spaced ((writes_word (w := "IS") (by decide)).spaced (writes_word (w := "NULL") (by decide)))
    simpa [Sql.Expr.text, String.append_assoc, word] using this
  | isNotNull =>
    refine Or.inr ⟨_, _, rfl, rfl, ?_⟩
    have hnot := (writes_word (w := "NOT") (by decide)).spaced (writes_word (w := "NULL") (by decide))
    have := hcolumn.spaced ((writes_word (w := "IS") (by decide)).spaced hnot)
    simpa [Sql.Expr.text, String.append_assoc, word] using this
  | isIn =>
    simp only [listMembers_eq, List.isEmpty_map]
    split
    · exact Or.inl ⟨rfl, rfl⟩
    · refine Or.inr ⟨_, _, rfl, rfl, ?_⟩
      have hlist := (writes_listed (f := fun v => (listMember v).text) c.value.members (hc ho)).parenthesized
      have := hcolumn.spaced ((writes_word (w := "IN") (by decide)).spaced hlist)
      simpa only [Sql.Expr.text, exprTexts_eq_map, List.map_map, Function.comp_def, String.append_assoc, word,
        show " IN (" = " " ++ ("IN" ++ (" " ++ "(")) from rfl, List.singleton_append, List.append_assoc,
        List.cons_append, List.nil_append] using this
  | unknown => exact Or.inl ⟨rfl, rfl⟩
  | _ => exact Or.inr ⟨_, _, rfl, rfl, hcompare _⟩

/-- The members that two functions make of a list, where they always make one both or neither. -/
theorem exists_pairs_filterMap {α β γ : Type} {R : β → γ → Prop} {f : α → Option β} {g : α → Option γ} {l : List α}
    (h : ∀ a ∈ l, (f a = none ∧ g a = none) ∨ ∃ b c, f a = some b ∧ g a = some c ∧ R b c) :
    ∃ ps : List (β × γ), l.filterMap f = ps.map (·.1) ∧ l.filterMap g = ps.map (·.2) ∧ ∀ p ∈ ps, R p.1 p.2 := by
  induction l with
  | nil => exact ⟨[], rfl, rfl, by simp⟩
  | cons a l ih =>
    obtain ⟨ps, hf, hg, hps⟩ := ih fun b hb => h b (List.mem_cons_of_mem _ hb)
    rcases h a (List.mem_cons_self ..) with ⟨hfa, hga⟩ | ⟨b, c, hfa, hga, hbc⟩
    · exact ⟨ps, by rw [List.filterMap_cons_none hfa, hf], by rw [List.filterMap_cons_none hga, hg], hps⟩
    · refine ⟨(b, c) :: ps, ?_, ?_, List.forall_mem_cons.2 ⟨hbc, hps⟩⟩
      · rw [List.filterMap_cons_some hfa, hf, List.map_cons]
      · rw [List.filterMap_cons_some hga, hg, List.map_cons]

/-- The conditions of a canvas that can be written, each with its tokens. -/
theorem exists_conditions (tables : List Table) {cs : List Condition} (hcs : ∀ c ∈ cs, Finished c) :
    ∃ l : List (Sql.Expr × List Token), filterExprs tables cs = l.map (·.1) ∧ conditions tables cs = l.map (·.2) ∧
      ∀ x ∈ l, Writes x.1.text x.2 := by
  refine exists_pairs_filterMap (R := fun (e : Sql.Expr) ts => Writes e.text ts) fun c hc => ?_
  cases ha : aliasOf? tables c.table with
  | none => exact Or.inl ⟨rfl, rfl⟩
  | some a =>
    obtain ⟨place, rfl⟩ := exists_of_aliasOf ha
    exact writes_condition place (hcs c hc)

/-! ### Tables and joins -/

/-- A table is read as its name and its alias. -/
theorem writes_table {tables : List Table} {id : String} {p : PlannedTable} (h : planned? tables id = some p) :
    Writes p.source.text (table tables id) := by
  obtain ⟨⟨place, t⟩, ht, rfl⟩ := Option.map_eq_some_iff.1 h
  rw [table, ht]
  have := (writes_qualified t.schema? t.name).between (w := "AS") (by decide)
    (writes_word (isWord_tableAlias place))
  simpa [PlannedTable.source, Source.text, qualifiedTable, word] using this

theorem aliasOf_planned {tables : List Table} {id : String} {p : PlannedTable} (h : planned? tables id = some p) :
    ∃ place, p.shortName = tableAlias place ∧ aliasOf tables id = tableAlias place := by
  obtain ⟨-, ha⟩ := aliasOf_of_planned h
  obtain ⟨place, hplace⟩ := exists_of_aliasOf ha
  exact ⟨place, hplace, by simp [aliasOf, ha, hplace]⟩

private theorem isWord_joinType (t : JoinType) : IsWord t.name.toList := by
  cases t <;> decide

/-- A join along an edge is read as its tokens. -/
theorem writes_along {tables : List Table} {e : Edge} {target : String} {j : PlannedJoin}
    (h : joinAlong? tables e target = some j) :
    Writes j.join.text (along tables e target) ∧ Stops j.join.text.toList := by
  obtain ⟨p, s, o, hp, hs, ho, rfl⟩ := exists_of_joinAlong h
  obtain ⟨m, hm, hfrom⟩ := aliasOf_planned hs
  obtain ⟨n, hn, hto⟩ := aliasOf_planned ho
  have hkeys : Writes (joined " AND " ((onConditions e s.shortName o.shortName).map Sql.Expr.text))
      (keys tables e) := by
    rw [onConditions, List.map_map, keys, hm, hn, hfrom, hto]
    refine writes_conjoined _ fun k _ => ?_
    exact ((writes_column m k.fromColumn).spaced (writes_operator .eq)).spaced (writes_column n k.toColumn)
  have hon : (PlannedJoin.join ⟨some e.id, .along e.joinType, p, onConditions e s.shortName o.shortName⟩).onText =
      " ON " ++ joined " AND " ((onConditions e s.shortName o.shortName).map Sql.Expr.text) := by
    have hne := e.key.pairs_ne_nil
    simp [PlannedJoin.join, Join.onText, onConditions, hne]
  have hjoin := ((writes_word (isWord_joinType e.joinType)).between (w := "JOIN") (by decide)
    (writes_table hp)).afterBlank.between (w := "ON") (by decide) hkeys
  have htext : (PlannedJoin.join ⟨some e.id, .along e.joinType, p, onConditions e s.shortName o.shortName⟩).text =
      " " ++ (e.joinType.name ++ (" " ++ "JOIN" ++ " ") ++ p.source.text) ++ (" " ++ "ON" ++ " ") ++
        joined " AND " ((onConditions e s.shortName o.shortName).map Sql.Expr.text) := by
    rw [Join.text, hon]
    simp only [PlannedJoin.join, JoinKind.name, String.append_assoc, show " JOIN " = " " ++ ("JOIN" ++ " ") from rfl,
      show " ON " = " " ++ ("ON" ++ " ") from rfl]
  rw [htext]
  refine ⟨?_, by simp [Stops]⟩
  simpa [along, word] using hjoin

/-- A cross join is read as its tokens. -/
theorem writes_cross {tables : List Table} {id : String} {p : PlannedTable} (h : planned? tables id = some p) :
    Writes (PlannedJoin.join ⟨none, .cross, p, []⟩).text (cross tables id) ∧
      Stops (PlannedJoin.join ⟨none, .cross, p, []⟩).text.toList := by
  have hjoin := ((writes_word (w := "CROSS") (by decide)).between (w := "JOIN") (by decide)
    (writes_table h)).afterBlank
  have htext : (PlannedJoin.join ⟨none, .cross, p, []⟩).text =
      " " ++ ("CROSS" ++ (" " ++ "JOIN" ++ " ") ++ p.source.text) := by
    simp only [Join.text, Join.onText, PlannedJoin.join, JoinKind.name, String.append_assoc, true_or, if_true,
      String.append_empty, show " JOIN " = " " ++ ("JOIN" ++ " ") from rfl]
  rw [htext]
  refine ⟨?_, by simp [Stops]⟩
  simpa [cross, word] using hjoin

/-- The joins of a canvas are read as their tokens. -/
theorem writes_joins (base : Table) (rest : List Table) (edges : List Edge) :
    let text := (((Plan.ofCanvas (base :: rest) edges).joins.map PlannedJoin.join).map Join.text).foldr (· ++ ·) ""
    Writes text (joins (base :: rest) (reachedFrom base.id (base :: rest) edges)) ∧ Stops text.toList := by
  intro text
  -- the cross joins are what the joins along edges stand in front of
  have hcross := writes_parts (f := fun id => (planned? (base :: rest) id).map fun t => ⟨none, .cross, t, []⟩)
    (k := fun j : PlannedJoin => j.join.text) (g := cross (base :: rest)) writes_empty stops_nil
    (unreached (base :: rest) (reachedFrom base.id (base :: rest) edges).joined) fun id hid => by
      obtain ⟨p, hp, -⟩ := exists_planned (mem_unreached.1 hid).1
      exact ⟨_, by rw [hp]; rfl, writes_cross hp⟩
  have hedges := writes_parts (f := fun x => joinAlong? (base :: rest) x.1 x.2)
    (k := fun j : PlannedJoin => j.join.text) (g := fun x => along (base :: rest) x.1 x.2) hcross.1 hcross.2
    (reachedFrom base.id (base :: rest) edges).taken fun x hx => by
      obtain ⟨j, hj, -⟩ := exists_joinAlong hx
      exact ⟨j, hj, writes_along hj⟩
  have htext : text = ((edgeJoins (base :: rest) (reachedFrom base.id (base :: rest) edges)).map
      fun j => j.join.text).foldr (· ++ ·) (((crossJoins (base :: rest)
        (reachedFrom base.id (base :: rest) edges)).map fun j => j.join.text).foldr (· ++ ·) "") := by
    simp only [text, joins_ofCanvas, List.map_append, List.map_map, List.foldr_append, Function.comp_def]
  rw [htext, joins]
  rw [List.append_nil] at hedges
  exact hedges

/-- The conditions of a query are read as their tokens. -/
theorem writes_filters {q : Sql.Query} {tables : List Table} {cs : List Condition}
    (hq : q.filters = filterExprs tables cs) (hcs : ∀ c ∈ cs, Finished c) :
    Writes q.filtersText (filters tables cs) ∧ Stops q.filtersText.toList := by
  obtain ⟨l, hexprs, htokens, hl⟩ := exists_conditions tables hcs
  rw [Sql.Query.filtersText, filters, hq, hexprs, htokens, List.isEmpty_map, List.isEmpty_map, List.map_map]
  split
  · exact ⟨writes_empty, stops_nil⟩
  · exact ⟨(writes_conjoined l hl).clause (w := "WHERE") (by decide), by simp [Stops]⟩

/-- The grouping of a query is read as its tokens. -/
theorem writes_group (q : Sql.Query) : Writes q.groupText (group q.groupByAll) ∧ Stops q.groupText.toList := by
  have hall := ((writes_word (w := "BY") (by decide)).spaced (writes_word (w := "ALL") (by decide))).clause
    (w := "GROUP") (by decide)
  have htext : " " ++ "GROUP" ++ " " ++ ("BY" ++ " " ++ "ALL") = " GROUP BY ALL" := by simp
  rw [htext] at hall
  unfold Sql.Query.groupText group
  split
  · exact ⟨hall, by simp [Stops]⟩
  · exact ⟨writes_empty, stops_nil⟩

/-- What stands in front of the conditions of a canvas: what is selected, and the tables with their joins. -/
def opening (base : String) (tables : List Table) (edges : List Edge) : List Token :=
  word "SELECT" :: (items tables ++ word "FROM" :: (table tables base ++
    joins tables (reachedFrom base tables edges)))

/-- The compiled query of a canvas starts with its opening, which its conditions and its grouping follow. -/
theorem writes_opening {m : Model} {base : Table} {rest : List Table} (htables : m.tables = base :: rest) :
    ∃ q opened, m.query? = some q ∧ q.filters = filterExprs m.tables m.filters.list ∧
      q.groupByAll = m.groupByAll ∧ q.text = opened ++ q.filtersText ++ q.groupText ∧
      Writes opened (opening base.id m.tables m.edges) := by
  have hbase : planned? m.tables base.id = some ⟨base.id, qualifiedTable base, tableAlias 0⟩ := by
    simp [htables, planned?, findTable?, findTable?.go]
  obtain ⟨q, hq, hitems, hsource, hqjoins, hfilters, hgroup⟩ := exists_query htables
  rw [← htables] at hitems hfilters
  obtain ⟨hjoins, hjoinsOpen⟩ := writes_joins base rest m.edges
  have hselect := (writes_word (w := "SELECT") (by decide)).spaced
    ((writes_items hitems).between (w := "FROM") (by decide) (writes_table hbase))
  have htext := hselect.append hjoins hjoinsOpen
  refine ⟨q, _, hq, hfilters, hgroup, ?_, by simpa [opening, htables, word] using htext⟩
  simp only [Sql.Query.text, hsource, Sql.Query.joinsText, hqjoins, List.map_map, String.append_assoc,
    show "SELECT " = "SELECT" ++ " " from rfl, show " FROM " = " " ++ ("FROM" ++ " ") from rfl]

theorem ofModel_eq {m : Model} {base : Table} {rest : List Table} (htables : m.tables = base :: rest) :
    ofModel m = opening base.id m.tables m.edges ++ filters m.tables m.filters.list ++ group m.groupByAll := by
  simp [ofModel, opening, htables]

/-- The compiled query of a canvas is read as its skeleton. -/
theorem writes_model {m : Model} (hm : m.tables ≠ []) (hcs : ∀ c ∈ m.filters.list, Finished c) :
    ∃ q, m.query? = some q ∧ Writes q.text (ofModel m) := by
  obtain ⟨base, rest, htables⟩ := List.exists_cons_of_ne_nil hm
  obtain ⟨q, opened, hq, hfilters, hgroup, htext, hopened⟩ := writes_opening htables
  obtain ⟨hwhere, hwhereOpen⟩ := writes_filters hfilters hcs
  obtain ⟨hall, hallOpen⟩ := writes_group q
  refine ⟨q, hq, ?_⟩
  rw [htext, ofModel_eq htables, ← hgroup]
  exact (hopened.append hwhere hwhereOpen).append hall hallOpen

/-! ### Statistics -/

private theorem countDistinctText_names (columns : List String) :
    countDistinctText (exprTexts (columns.map (Sql.Expr.column none))) =
      "COUNT" ++ "(" ++ ("DISTINCT" ++ " " ++ joined ", " (columns.map quotedName)) ++ ")" := by
  have hunfold : ∀ sqls, countDistinctText sqls = "COUNT(DISTINCT " ++ joined ", " sqls ++ ")" := fun _ => rfl
  rw [hunfold, exprTexts_eq_map, List.map_map]
  simp only [String.append_assoc, show "COUNT(DISTINCT " = "COUNT" ++ ("(" ++ ("DISTINCT" ++ " ")) from rfl]
  rfl

/-- The text of the query that counts one side, cut where its tokens end. -/
private theorem text_sideQuery (side : String) (l : Locator) (columns : List String) :
    (Stats.sideQuery side l columns).text = "SELECT" ++ " " ++
      (quotedString side ++ (" " ++ "AS" ++ " ") ++ quotedName "side" ++ ", " ++
        ("COUNT" ++ "(" ++ "*" ++ ")" ++ (" " ++ "AS" ++ " ") ++ quotedName "total_rows") ++ ", " ++
        ("COUNT" ++ "(" ++ ("DISTINCT" ++ " " ++ joined ", " (columns.map quotedName)) ++ ")" ++
          (" " ++ "AS" ++ " ") ++ quotedName "distinct_keys") ++
        (" " ++ "FROM" ++ " ") ++ Sql.qualified l.schema? l.name) := by
  have hitems : (Stats.sideQuery side l columns).items.map Item.text =
      [quotedString side ++ (" " ++ "AS" ++ " ") ++ quotedName "side",
        "COUNT" ++ "(" ++ "*" ++ ")" ++ (" " ++ "AS" ++ " ") ++ quotedName "total_rows",
        "COUNT" ++ "(" ++ ("DISTINCT" ++ " " ++ joined ", " (columns.map quotedName)) ++ ")" ++
          (" " ++ "AS" ++ " ") ++ quotedName "distinct_keys"] := by
    rw [← countDistinctText_names]
    rfl
  simp only [Sql.Query.text, Sql.Query.itemsText, hitems, joined_cons_cons, joined_singleton]
  simp only [Stats.sideQuery, List.isEmpty_cons, Bool.false_eq_true, if_false, Sql.Query.joinsText,
    Sql.Query.filtersText, Sql.Query.groupText, Source.text, Locator.qualified, List.map_nil, List.foldr_nil,
    List.isEmpty_nil, if_true, String.append_empty, String.append_assoc, show "SELECT " = "SELECT" ++ " " from rfl,
    show " FROM " = " " ++ ("FROM" ++ " ") from rfl]

/-- The query that counts one side is read as its tokens. -/
theorem writes_side (side : String) (l : Locator) (columns : List String) :
    Writes (Stats.sideQuery side l columns).text (ofSide side l columns) := by
  have hside := (writes_quotedString side).between (w := "AS") (by decide) (writes_quotedName "side")
  have hrows := (writes_star.call (w := "COUNT") (by decide)).between (w := "AS") (by decide)
    (writes_quotedName "total_rows")
  have hcolumns := writes_listed (f := quotedName) columns fun c _ => writes_quotedName c
  have hdistinct := ((writes_word (w := "DISTINCT") (by decide)).spaced hcolumns).call (w := "COUNT") (by decide)
  have hkeys := hdistinct.between (w := "AS") (by decide) (writes_quotedName "distinct_keys")
  have hwrites := (writes_word (w := "SELECT") (by decide)).spaced
    (((hside.comma hrows).comma hkeys).between (w := "FROM") (by decide) (writes_qualified l.schema? l.name))
  rw [text_sideQuery]
  simpa [ofSide, word, name, text] using hwrites

/-- The query for statistics is read as its skeleton. -/
theorem writes_stats (source target : Locator) (pairs : List KeyPair) :
    Writes (Stats.query source target pairs) (ofStats source target pairs) := by
  have hsource := writes_side Stats.sourceSide source (pairs.map (·.fromColumn))
  have htarget := writes_side Stats.targetSide target (pairs.map (·.toColumn))
  have hall := (writes_word (w := "UNION") (by decide)).spaced (writes_word (w := "ALL") (by decide))
  have := (hsource.spaced hall).spaced htarget
  have htext : Stats.query source target pairs =
      (Stats.sideQuery Stats.sourceSide source (pairs.map (·.fromColumn))).text ++ " " ++ ("UNION" ++ " " ++ "ALL") ++
        " " ++ (Stats.sideQuery Stats.targetSide target (pairs.map (·.toColumn))).text := by
    simp only [Stats.query, Stats.sides, unionText, List.map_cons, List.map_nil, joined_cons_cons, joined_singleton,
      String.append_assoc, show " UNION ALL " = " " ++ ("UNION" ++ (" " ++ ("ALL" ++ " "))) from rfl]
  rw [htext]
  exact this

end Skeleton

/-- What compiled SQL consists of: its skeleton, in which names and strings stand as the model has them. -/
theorem tokens_compiled :
    (∀ m : Model, m.filters.manual? = none → m.tables ≠ [] →
      (∀ c ∈ m.filters.list, c.operator = .isIn → ∀ v ∈ c.value.members, v.isPlain = true) →
      ∃ c, m.compile? = some c ∧ tokens? c.sql = some (Skeleton.ofModel m)) ∧
    ∀ (source target : Locator) (pairs : List KeyPair),
      tokens? (Stats.query source target pairs) = some (Skeleton.ofStats source target pairs) := by
  refine ⟨fun m hmanual hm hcs => ?_, fun source target pairs => ?_⟩
  · obtain ⟨q, hq, hw⟩ := Skeleton.writes_model hm fun c hc hop v hv =>
      Skeleton.writes_listMember (hcs c hc hop v hv)
    exact ⟨_, compile_eq_of_query hmanual hq, hw.tokens_eq⟩
  · exact (Skeleton.writes_stats source target pairs).tokens_eq

/-- A model whose names and strings hold quotes and the marks of comments. -/
def markedModel : Model :=
  { id := "marked"
    tables :=
      [{ id := "a", name := "orders\x60 --", schema? := some "main..raw\x60"
         selections := [⟨"x\x60 /*", .sum, none, false⟩] }]
    filters := .conditions
      [⟨"a", "note", .eq, .string "\\\x27 OR 1 = 1 --"⟩,
        ⟨"a", "size", .isIn, .array [.integer (-3), .bool true, .null]⟩] }

/-- The theorem at a model with such names and strings. -/
theorem tokens_compiled_marked : ∃ c, markedModel.compile? = some c ∧
    tokens? c.sql = some (Skeleton.ofModel markedModel) := by
  refine tokens_compiled.1 markedModel rfl (by simp [markedModel]) fun c hc hop v hv => ?_
  have hlist : c.value = .string "\\\x27 OR 1 = 1 --" ∧ c.operator = .eq ∨
      c.value = .array [.integer (-3), .bool true, .null] := by
    simp only [markedModel, Filters.list, List.mem_cons, List.not_mem_nil, or_false] at hc
    rcases hc with rfl | rfl
    · exact Or.inl ⟨rfl, rfl⟩
    · exact Or.inr rfl
  rcases hlist with ⟨-, he⟩ | he
  · simp [he] at hop
  · simp only [he, Json.Value.members, List.mem_cons, List.not_mem_nil, or_false] at hv
    rcases hv with rfl | rfl | rfl <;> rfl

end JoinCanvas
