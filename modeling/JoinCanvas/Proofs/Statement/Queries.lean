import JoinCanvas.Proofs.Statement.Expressions

/-!
# Compiled queries are read back

A compiled query has none of the clauses that only hand-written queries have, so the reader finds its selected items,
its tables with their joins, its conditions and its grouping, and nothing else.

* `selectItem_selection`, `relation_table`, `joins_parts`: the parts of the query.
* `read_legible`, `read_compiled`: the query as it is read.
-/

namespace JoinCanvas

open JoinCanvas.Sql JoinCanvas.Statement JoinCanvas.Text

/-- Whether a value is null, a truth value or an integer of 64 bits with a sign. -/
def Json.Value.isExact : Json.Value → Bool
  | .null | .bool _ => true
  | .number (.integer n) => decide (-(2 ^ 63) ≤ n ∧ n < 2 ^ 63)
  | _ => false

/-- What a condition holds can be read back from SQL: a value to compare with as it is, the strings of a list with
their quotes. -/
structure Condition.Readable (c : Condition) : Prop where
  compared : c.operator.comparison?.isSome → c.value.isExact = true ∨ ∃ s, c.value = .string s
  listed : c.operator = .isIn → ∀ v ∈ c.value.members, v.isExact = true ∨ ∃ s, v = .string (quotedString s)

/-- What a condition holds is written as values: one to compare with is no list and no object, and a string of a list
has its quotes. -/
structure Condition.Legible (c : Condition) : Prop where
  compared : c.operator.comparison?.isSome → Skeleton.isScalar c.value = true
  listed : c.operator = .isIn → ∀ v ∈ c.value.members, v.isPlain = true ∨ ∃ s, v = .string (quotedString s)

namespace Skeleton

variable {rest : List Token} {inner : Level}

/-! ### Selected items -/

/-- The column or aggregate that is selected of a table at a place, as it is read. -/
def selectedExpr (place : Nat) (s : Selection) : Statement.Expr :=
  match s.aggregation.functionName? with
  | some f => callExpr f place s.column
  | none => columnExpr place s.column

/-- What is selected of a table at a place, as it is read. -/
def selectionItem (place : Nat) (s : Selection) : SelectItem :=
  .expr (selectedExpr place s) (s.outputAlias?.map fun a => ⟨a, some '\x60'⟩)

/-- What may stand behind a selected item. -/
def AfterItem (t : Token) : Prop :=
  t ∈ [.sign ",", .word "FROM" none]

instance : DecidablePred AfterItem := fun t => inferInstanceAs (Decidable (t ∈ _))

theorem AfterItem.afterExpr {t : Token} (h : AfterItem t) : AfterExpr t := by
  revert t
  unfold AfterItem
  decide

/-- A name behind `AS` is taken as an alias. -/
theorem alias_as (reserved : List String) (text : String) (quote : Option Char) :
    Parser.alias? reserved (word "AS" :: .word text quote :: rest) = some (some ⟨text, quote⟩, rest) := by
  have hident : Parser.ident (.word text quote :: rest) = some (⟨text, quote⟩, rest) := rfl
  rw [Parser.alias?, Parser.bind_eq (Parser.keyword_cons (by decide)), if_pos rfl, Parser.bind_eq hident]
  rfl

/-- A comma and `FROM` are no aliases. -/
theorem alias_none (h : Next AfterItem rest) : Parser.alias? Keyword.endOfItem rest = some (none, rest) := by
  have hmiss : Parser.keyword "AS" rest = some (false, rest) := h.keyword fun t ht => by
    revert t
    unfold AfterItem
    decide
  have hreserved : Keyword.endOfItem.contains (uppered "FROM") = true := by decide +kernel
  rw [Parser.alias?, Parser.bind_eq hmiss, if_neg Bool.false_ne_true]
  cases rest with
  | nil => rfl
  | cons t rest =>
    have ht : AfterItem t := h t rfl
    simp only [AfterItem, List.mem_cons, List.not_mem_nil, or_false] at ht
    rcases ht with rfl | rfl
    · rfl
    · have hpeek : Parser.peek? (Token.word "FROM" none :: rest) =
          some (some (.word "FROM" none), .word "FROM" none :: rest) := rfl
      rw [Parser.bind_eq hpeek]
      simp only
      rw [if_pos hreserved]
      rfl

theorem functionName_mem {a : Aggregation} {f : String} (h : a.functionName? = some f) : f ∈ functionNames := by
  cases a with
  | none => simp [Aggregation.functionName?] at h
  | _ =>
    obtain rfl := Option.some.inj h
    decide

/-- A selection is read as its item. -/
theorem selectItem_selection (place : Nat) (s : Selection) (h : Next AfterItem rest) :
    QueryGrammar.selectItem inner.above.above (selection (tableAlias place) s ++ rest) =
      some (selectionItem place s, rest) := by
  have halias : ∀ us, us = (match s.outputAlias? with
      | some a => [word "AS", name a]
      | none => []) → Next AfterExpr (us ++ rest) ∧
        Parser.alias? Keyword.endOfItem (us ++ rest) = some (s.outputAlias?.map fun a => ⟨a, some '\x60'⟩, rest) := by
    rintro us rfl
    cases s.outputAlias? with
    | none => exact ⟨h.mono fun _ ht => ht.afterExpr, alias_none h⟩
    | some a => exact ⟨Next.cons (by decide), alias_as _ a _⟩
  obtain ⟨hafter, halias⟩ := halias _ rfl
  -- a single name could be the word that ends the items; a column has two parts, and a call is none
  have hread : ∀ e : Statement.Expr, (∀ i : Ident, e ≠ .name [i]) → ∀ ts,
      ExprGrammar.wildcardOr inner.above.above ts = some (.plain e, (match s.outputAlias? with
        | some a => [word "AS", name a]
        | none => []) ++ rest) →
      QueryGrammar.selectItem inner.above.above ts =
        some (.expr e (s.outputAlias?.map fun a => ⟨a, some '\x60'⟩), rest) := by
    intro e he ts hts
    rw [QueryGrammar.selectItem, Parser.bind_eq hts]
    simp only
    split
    · next text => exact absurd rfl (he ⟨text, none⟩)
    · rw [Parser.bind_eq halias]
      rfl
  unfold selection selectionItem selectedExpr
  cases hf : s.aggregation.functionName? with
  | none =>
    rw [List.append_assoc]
    exact hread _ (by simp [columnExpr]) _ (wildcardOr_column place s.column hafter)
  | some f =>
    simp only [List.cons_append, List.append_assoc]
    exact hread _ (by simp [callExpr]) _ (wildcardOr_call (functionName_mem hf) place s.column hafter)

/-- What is selected, as it is read. -/
def selectedItems (tables : List Table) : List SelectItem :=
  if (selected tables).isEmpty then [.wildcard "*"] else (selected tables).map fun x => selectionItem x.1 x.2

/-- What is selected is read up to `FROM`. -/
theorem list_items (tables : List Table) (ts : List Token) :
    Parser.list (QueryGrammar.selectItem inner.above.above) (items tables ++ word "FROM" :: ts) =
      some (selectedItems tables, word "FROM" :: ts) := by
  unfold items selectedItems
  split
  · have hstar : Parser.sign "*" (.sign "*" :: word "FROM" :: ts) = some (true, word "FROM" :: ts) := rfl
    have hexcept : Parser.keyword "EXCEPT" (word "FROM" :: ts) = some (false, word "FROM" :: ts) :=
      Parser.keyword_miss (by decide)
    have hitem : QueryGrammar.selectItem inner.above.above (.sign "*" :: word "FROM" :: ts) =
        some (.wildcard "*", word "FROM" :: ts) := by
      have hwildcard : ExprGrammar.wildcardOr inner.above.above (.sign "*" :: word "FROM" :: ts) =
          some (.other "*", word "FROM" :: ts) := by
        rw [ExprGrammar.wildcardOr, Parser.bind_eq hstar, if_pos rfl]
        rfl
      rw [QueryGrammar.selectItem, Parser.bind_eq hwildcard]
      simp only
      refine (Parser.bind_eq (show _ = some ("", word "FROM" :: ts) from ?_)).trans rfl
      rw [Parser.bind_eq hexcept, if_neg Bool.false_ne_true]
      rfl
    exact list_one hitem (Next.cons (by decide))
  · next hne =>
    have hreads : ReadsParts AfterItem (QueryGrammar.selectItem inner.above.above)
        ((selected tables).map fun x => (selection (tableAlias x.1) x.2, selectionItem x.1 x.2)) := by
      intro y hy us hus
      obtain ⟨x, -, rfl⟩ := List.mem_map.1 hy
      exact selectItem_selection x.1 x.2 hus
    have hend : Next AfterItem (word "FROM" :: ts) := Next.cons (by decide)
    have hlist := list_parts (by decide) (by simpa using hne) hreads hend (Next.cons (by decide))
    simpa only [List.map_map, Function.comp_def] using hlist

/-! ### Tables and joins -/

/-- The first table with an identifier, as it is read. -/
def tableRelation (tables : List Table) (id : String) : Relation :=
  match findTable? tables id with
  | some (place, t) => .table (pathOf t.schema? t.name) "" (some ⟨tableAlias place, none⟩) ""
  | none => .other ""

/-- What may stand behind a table. -/
def AfterTable (t : Token) : Prop :=
  t ∈ [.word "ON" none, .word "LEFT" none, .word "RIGHT" none, .word "INNER" none, .word "FULL" none,
    .word "CROSS" none, .word "WHERE" none, .word "GROUP" none]

instance : DecidablePred AfterTable := fun t => inferInstanceAs (Decidable (t ∈ _))

/-- The words that go on with a table behind its alias. -/
def tableWords : List String := ["WITH", "TABLESAMPLE", "SAMPLE", "PIVOT", "UNPIVOT"]

/-- What may stand behind the full name of a table, and behind its alias. -/
def AfterName (t : Token) : Prop :=
  t ∉ [.sign "(", .sign "."] ∧ Parser.keywordOf (some t) ∉ tableWords

instance : DecidablePred AfterName := fun t => inferInstanceAs (Decidable (t ∉ _ ∧ _ ∉ _))

theorem AfterName.ne_sign {t : Token} (h : AfterName t) {s : String} (hs : s ∈ ["(", "."]) : t ≠ .sign s := by
  rintro rfl
  refine h.1 ?_
  revert s
  decide

theorem AfterName.not_keyword {t : Token} (h : AfterName t) {k : String} (hk : k ∈ tableWords) :
    Parser.isKeyword k t = false :=
  Parser.isKeyword_of_ne fun he => h.2 (he ▸ hk)

theorem AfterTable.afterName {t : Token} (h : AfterTable t) : AfterName t := by
  revert t
  unfold AfterTable
  decide

/-- A full name is read as a named table, under the alias that is read behind it. -/
private theorem namedTable_qualified (inner : Level) (schema? : Option String) (table : String) {ts : List Token}
    {alias? : Option Ident} (hts : Next AfterName ts)
    (halias : Parser.alias? Keyword.endOfTable ts = some (alias?, rest)) (h : Next AfterName rest) :
    TableGrammar.namedTable inner (qualified schema? table ++ ts) =
      some (.table (pathOf schema? table) "" alias? "", rest) := by
  have harguments : TableGrammar.tableArguments inner ts = some ("", ts) := by
    rw [TableGrammar.tableArguments, Parser.bind_eq (hts.sign fun _ ht => ht.ne_sign (by decide)),
      if_neg Bool.false_ne_true]
    rfl
  have hcolumns : TableGrammar.aliasColumns rest = some ("", rest) := by
    rw [TableGrammar.aliasColumns, Parser.bind_eq (h.sign fun _ ht => ht.ne_sign (by decide)),
      if_neg Bool.false_ne_true]
    rfl
  have htableAlias : TableGrammar.tableAlias ts = some ((alias?, ""), rest) := by
    rw [TableGrammar.tableAlias, Parser.bind_eq halias]
    cases alias? with
    | none => rfl
    | some i =>
      simp only
      rw [Parser.bind_eq hcolumns]
      rfl
  have hhints : TableGrammar.hints inner rest = some ("", rest) := by
    cases rest with
    | nil => rfl
    | cons t ts => simp [TableGrammar.hints, Parser.afterKeywords?, (h t rfl).not_keyword (k := "WITH") (by decide)]
  have hwords {ks : List String} (hks : ks ⊆ tableWords) : Parser.oneOf ks rest = some (none, rest) :=
    h.oneOf fun t ht => Or.inr fun hmem => ht.2 (hks hmem)
  have hsample : TableGrammar.sample inner rest = some ("", rest) := by
    rw [TableGrammar.sample, Parser.bind_eq (hwords (by decide))]
    rfl
  have hpivoted : ∀ n r, TableGrammar.pivoted inner n r rest = some (r, rest) := by
    intro n r
    cases n with
    | zero => rfl
    | succ n =>
      rw [TableGrammar.pivoted, Parser.bind_eq (hwords (by decide))]
      rfl
  rw [TableGrammar.namedTable,
    Parser.bind_eq (path_qualified schema? table (hts.mono fun _ ht => ht.ne_sign (by decide))),
    Parser.bind_eq harguments, Parser.bind_eq (hts.keywords fun _ ht => ht.not_keyword (by decide)),
    if_neg Bool.false_ne_true, Parser.bind_eq (Parser.pure_apply _)]
  simp only
  rw [Parser.bind_eq htableAlias]
  simp only
  rw [Parser.bind_eq hhints, Parser.bind_eq hsample, Parser.bind_eq (Parser.size_apply _)]
  exact hpivoted _ _

/-- The words that begin other relations than a table by its name. -/
def relationWords : List String := ["LATERAL", "TABLE", "VALUES", "JSON_TABLE", "OPENJSON"]

/-- The first token of a full name is none that begins another kind of relation. -/
theorem exists_qualified (schema? : Option String) (table : String) :
    ∃ t ts, qualified schema? table = t :: ts ∧ t ≠ .sign "(" ∧
      ∀ k ∈ relationWords, Parser.keywordOf (some t) ≠ k := by
  unfold qualified
  split
  · exact ⟨word unnamedTable, [], rfl, by decide, by decide⟩
  · cases hparts : schemaSegments schema? ++ [table] with
    | nil => simp at hparts
    | cons s names =>
      have hempty : ∀ k ∈ relationWords, "" ≠ k := by decide
      rw [List.map_cons, intercalate_cons]
      exact ⟨name s, _, rfl, fun he => Token.noConfusion he, hempty⟩

/-- A full name is read as a relation, under the alias that is read behind it. -/
theorem relation_qualified (inner : Level) (schema? : Option String) (table : String) {ts : List Token}
    {alias? : Option Ident} (n : Nat) (hts : Next AfterName ts)
    (halias : Parser.alias? Keyword.endOfTable ts = some (alias?, rest)) (h : Next AfterName rest) :
    TableGrammar.relation inner (n + 1) (qualified schema? table ++ ts) =
      some (.table (pathOf schema? table) "" alias? "", rest) := by
  obtain ⟨t, us, hqualified, hopen, hkeyword⟩ := exists_qualified schema? table
  have hnext : Next (fun t => t ≠ .sign "(" ∧ ∀ k ∈ relationWords, Parser.keywordOf (some t) ≠ k)
      (qualified schema? table ++ ts) := by
    rw [hqualified]
    exact Next.cons ⟨hopen, hkeyword⟩
  have hword : ∀ k ∈ relationWords, Parser.keywordOf (qualified schema? table ++ ts).head? ≠ k := by
    rw [hqualified]
    exact hkeyword
  have hpeek : ∀ ts, Parser.peekKeyword ts = some (Parser.keywordOf ts.head?, ts) := fun _ => rfl
  have hsecond : ∀ ts, Parser.peekSecond? ts = some ((ts.drop 1).head?, ts) := fun _ => rfl
  rw [TableGrammar.relation,
    Parser.bind_eq (hnext.keyword fun _ ht => Parser.isKeyword_of_ne (ht.2 _ (by decide))), if_neg Bool.false_ne_true,
    Parser.bind_eq (hnext.keyword fun _ ht => Parser.isKeyword_of_ne (ht.2 _ (by decide))), if_neg Bool.false_ne_true,
    Parser.bind_eq (hnext.sign fun _ ht => ht.1), if_neg Bool.false_ne_true, Parser.bind_eq (hpeek _),
    Parser.bind_eq (hsecond _), if_neg fun h => hword _ (by decide) h.1, Parser.bind_eq (hpeek _),
    Parser.bind_eq (hsecond _), if_neg fun h => hword _ (by decide) h.1, Parser.bind_eq (hpeek _),
    Parser.bind_eq (hsecond _), if_neg fun h => hword _ (by decide) h.1]
  exact namedTable_qualified inner schema? table hts halias h

/-- A table is read as a relation. -/
theorem relation_table (inner : Level) {tables : List Table} {id : String} (hid : id ∈ tables.map (·.id)) (n : Nat)
    (h : Next AfterTable rest) :
    TableGrammar.relation inner (n + 1) (table tables id ++ rest) = some (tableRelation tables id, rest) := by
  obtain ⟨⟨place, t⟩, hfind⟩ := Option.isSome_iff_exists.1 ((isSome_findTable_iff tables id).2 hid)
  simp only [table, tableRelation, hfind, List.append_assoc, List.cons_append, List.nil_append]
  exact relation_qualified inner t.schema? t.name n (Next.cons (by decide)) (alias_as _ (tableAlias place) none)
    (h.mono fun _ ht => ht.afterName)

/-- The text of a kind of join, as it is read. -/
def joinKindText : JoinType → String
  | .left => "LEFT JOIN"
  | .right => "RIGHT JOIN"
  | .inner => "JOIN"
  | .full => "FULL JOIN"

/-- What may stand behind a join. -/
def AfterJoin (t : Token) : Prop :=
  t ∈ [.word "LEFT" none, .word "RIGHT" none, .word "INNER" none, .word "FULL" none, .word "CROSS" none,
    .word "WHERE" none, .word "GROUP" none]

instance : DecidablePred AfterJoin := fun t => inferInstanceAs (Decidable (t ∈ _))

theorem AfterJoin.afterTable {t : Token} (h : AfterJoin t) : AfterTable t := by
  revert t
  unfold AfterJoin
  decide

theorem AfterJoin.afterExpr {t : Token} (h : AfterJoin t) : AfterExpr t := by
  revert t
  unfold AfterJoin
  decide

/-- What may stand behind the last join. -/
def AfterJoins (t : Token) : Prop :=
  t ∈ [.word "WHERE" none, .word "GROUP" none]

instance : DecidablePred AfterJoins := fun t => inferInstanceAs (Decidable (t ∈ _))

theorem AfterJoins.afterJoin {t : Token} (h : AfterJoins t) : AfterJoin t := by
  revert t
  unfold AfterJoins
  decide

private theorem joinKind_along (type : JoinType) :
    TableGrammar.joinKind (word type.name :: word "JOIN" :: rest) = some (some (joinKindText type), rest) := by
  have hmiss : ∀ k ∈ ["GLOBAL", "CROSS", "OUTER", "ASOF", "NATURAL"], ∀ type : JoinType,
      Parser.isKeyword k (word type.name) = false := by
    intro k hk type
    revert k
    cases type <;> decide
  have hself : Parser.keywordOf (some (word type.name)) = type.name := by
    cases type <;> decide
  have hexpect : Parser.expectKeyword type.name (word type.name :: word "JOIN" :: rest) =
      some ((), word "JOIN" :: rest) :=
    Parser.expectKeyword_cons (by cases type <;> decide)
  have hjoin : Parser.expectKeyword "JOIN" (word "JOIN" :: rest) = some ((), rest) :=
    Parser.expectKeyword_cons (by decide)
  have hone : Parser.oneOf ["OUTER", "SEMI", "ANTI", "JOIN"] (word "JOIN" :: rest) = some (some "JOIN", rest) :=
    Parser.oneOf_cons (by decide) (by decide) (by decide)
  have houter : Parser.keyword "OUTER" (word "JOIN" :: rest) = some (false, word "JOIN" :: rest) :=
    Parser.keyword_miss (by decide)
  rw [TableGrammar.joinKind, Parser.bind_eq (Parser.keyword_miss (hmiss "GLOBAL" (by decide) type)),
    Parser.bind_eq (Parser.keyword_miss (hmiss "CROSS" (by decide) type)), if_neg Bool.false_ne_true,
    Parser.bind_eq (Parser.keyword_miss (hmiss "OUTER" (by decide) type)), if_neg Bool.false_ne_true,
    Parser.bind_eq (Parser.keyword_miss (hmiss "ASOF" (by decide) type)), if_neg Bool.false_ne_true,
    Parser.bind_eq (Parser.keyword_miss (hmiss "NATURAL" (by decide) type)),
    Parser.bind_eq (Parser.peekKeyword_cons _ _), hself]
  cases type with
  | inner =>
    simp only [JoinType.name] at hexpect ⊢
    rw [Parser.bind_eq hexpect, Parser.bind_eq hjoin]
    rfl
  | full =>
    simp only [JoinType.name] at hexpect ⊢
    rw [Parser.bind_eq hexpect, Parser.bind_eq houter, Parser.bind_eq hjoin]
    rfl
  | _ =>
    simp only [JoinType.name] at hexpect ⊢
    rw [TableGrammar.joinKind.sided, Parser.bind_eq hexpect, Parser.bind_eq hone]
    rfl

private theorem joinKind_cross :
    TableGrammar.joinKind (word "CROSS" :: word "JOIN" :: rest) = some (some "CROSS JOIN", rest) := by
  have hglobal : Parser.keyword "GLOBAL" (word "CROSS" :: word "JOIN" :: rest) =
      some (false, word "CROSS" :: word "JOIN" :: rest) :=
    Parser.keyword_miss (by decide)
  rw [TableGrammar.joinKind, Parser.bind_eq hglobal, Parser.bind_eq (Parser.keyword_cons (by decide)), if_pos rfl,
    Parser.bind_eq (Parser.keyword_cons (by decide)), if_pos rfl]
  rfl

private theorem joinKind_none (h : Next AfterJoins rest) : TableGrammar.joinKind rest = some (none, rest) := by
  have hmiss : ∀ k ∈ ["GLOBAL", "CROSS", "OUTER", "ASOF", "NATURAL"], ∀ t, AfterJoins t → Parser.isKeyword k t = false := by
    intro k hk t
    revert t k
    unfold AfterJoins
    decide
  have hpeek : Parser.peekKeyword rest = some (Parser.keywordOf rest.head?, rest) := rfl
  have hkeyword : Parser.keywordOf rest.head? = "" ∨ Parser.keywordOf rest.head? = "WHERE" ∨
      Parser.keywordOf rest.head? = "GROUP" := by
    cases rest with
    | nil => exact Or.inl rfl
    | cons t ts =>
      have ht : AfterJoins t := h t rfl
      simp only [AfterJoins, List.mem_cons, List.not_mem_nil, or_false] at ht
      rcases ht with rfl | rfl
      · exact Or.inr (Or.inl (show Parser.keywordOf (some (.word "WHERE" none)) = "WHERE" by decide))
      · exact Or.inr (Or.inr (show Parser.keywordOf (some (.word "GROUP" none)) = "GROUP" by decide))
  rw [TableGrammar.joinKind, Parser.bind_eq (h.keyword (hmiss "GLOBAL" (by decide))),
    Parser.bind_eq (h.keyword (hmiss "CROSS" (by decide))), if_neg Bool.false_ne_true,
    Parser.bind_eq (h.keyword (hmiss "OUTER" (by decide))), if_neg Bool.false_ne_true,
    Parser.bind_eq (h.keyword (hmiss "ASOF" (by decide))), if_neg Bool.false_ne_true,
    Parser.bind_eq (h.keyword (hmiss "NATURAL" (by decide))), Parser.bind_eq hpeek]
  rcases hkeyword with hk | hk | hk <;> rw [hk] <;> rfl

/-! ### Joins -/

/-- The place of the first table with an identifier. -/
def placeOf (tables : List Table) (id : String) : Nat :=
  ((findTable? tables id).map (·.1)).getD 0

/-- An equality of an edge, as it is read. -/
def pairExpr (tables : List Table) (e : Edge) (p : KeyPair) : Statement.Expr :=
  .binary "=" (columnExpr (placeOf tables e.fromTable) p.fromColumn)
    (columnExpr (placeOf tables e.toTable) p.toColumn)

/-- A join along an edge, as it is read. -/
def alongJoin (tables : List Table) (e : Edge) (target : String) : JoinedRelation :=
  ⟨joinKindText e.joinType, tableRelation tables target,
    " ON " ++ (conjoinedExpr (e.key.pairs.map (pairExpr tables e))).text⟩

/-- A cross join, as it is read. -/
def crossJoin (tables : List Table) (id : String) : JoinedRelation :=
  ⟨"CROSS JOIN", tableRelation tables id, ""⟩

/-- The tokens are read as a join, in front of others or not. -/
def IsJoin (ts : List Token) (j : JoinedRelation) : Prop :=
  ts ≠ [] ∧ (∀ rest, Next AfterJoin (ts ++ rest)) ∧
    ∀ (inner : Level) (m n : Nat) (rest : List Token), Next AfterJoin rest →
      let level := inner.above.above.above.above
      TableGrammar.joins level (TableGrammar.relation level (m + 1)) (n + 1) (ts ++ rest) =
        (TableGrammar.joins level (TableGrammar.relation level (m + 1)) n rest).map fun x => (j :: x.1, x.2)

private theorem joins_take {table : Parser Relation} {ts us vs : List Token} {kind constraint : String} {r : Relation}
    (hkind : TableGrammar.joinKind ts = some (some kind, us)) (htable : table us = some (r, vs))
    (hconstraint : TableGrammar.joinConstraint inner kind vs = some (constraint, rest)) (n : Nat) :
    TableGrammar.joins inner table (n + 1) ts =
      (TableGrammar.joins inner table n rest).map fun x => (⟨kind, r, constraint⟩ :: x.1, x.2) := by
  rw [TableGrammar.joins, Parser.bind_eq hkind]
  simp only
  rw [Parser.bind_eq htable, Parser.bind_eq hconstraint]
  cases hjoins : TableGrammar.joins inner table n rest with
  | none => exact Parser.bind_eq_none hjoins
  | some x => exact Parser.bind_eq hjoins

/-- A cross join of a table on the canvas is read as a join. -/
theorem isJoin_cross {tables : List Table} {id : String} (hid : id ∈ tables.map (·.id)) :
    IsJoin (cross tables id) (crossJoin tables id) := by
  refine ⟨by simp [cross], fun rest => Next.cons (by decide), fun inner m n rest hrest => ?_⟩
  have htable := relation_table inner.above.above.above.above hid m (hrest.mono fun _ ht => ht.afterTable)
  have hconstraint : TableGrammar.joinConstraint inner.above.above.above.above "CROSS JOIN" rest =
      some ("", rest) := by
    rw [TableGrammar.joinConstraint, if_pos (Or.inl (by decide))]
    rfl
  exact joins_take joinKind_cross htable hconstraint n

theorem aliasOf_eq {tables : List Table} {id : String} (hid : id ∈ tables.map (·.id)) :
    aliasOf tables id = tableAlias (placeOf tables id) := by
  obtain ⟨x, hx⟩ := Option.isSome_iff_exists.1 ((isSome_findTable_iff tables id).2 hid)
  simp [aliasOf, aliasOf?, placeOf, hx]

/-- The equalities of an edge between tables on the canvas are read as its conditions. -/
private theorem expr_keys {tables : List Table} {e : Edge} (hfrom : e.fromTable ∈ tables.map (·.id))
    (hto : e.toTable ∈ tables.map (·.id)) (h : Next AfterExpr rest) :
    ExprGrammar.expr inner.above.above.above 0 (keys tables e ++ rest) =
      some (conjoinedExpr (e.key.pairs.map (pairExpr tables e)), rest) := by
  have hclauses : ∀ x ∈ e.key.pairs.map fun p => (column (aliasOf tables e.fromTable) p.fromColumn ++ [.sign "="] ++
      column (aliasOf tables e.toTable) p.toColumn, pairExpr tables e p), IsClause x.1 x.2 := by
    intro x hx
    obtain ⟨p, -, rfl⟩ := List.mem_map.1 hx
    simp only [aliasOf_eq hfrom, aliasOf_eq hto, List.append_assoc]
    exact isClause_column _ _ (continues_comparison (o := .eq) (by decide) (isRight_column _ _))
  have hexpr := expr_conjoined inner (by simpa using e.key.pairs_ne_nil) hclauses h
  simpa only [List.map_map, Function.comp_def, keys] using hexpr

/-- A join along an edge between tables on the canvas is read as a join. -/
theorem isJoin_along {tables : List Table} {e : Edge} {target : String} (htarget : target ∈ tables.map (·.id))
    (hfrom : e.fromTable ∈ tables.map (·.id)) (hto : e.toTable ∈ tables.map (·.id)) :
    IsJoin (along tables e target) (alongJoin tables e target) := by
  refine ⟨by simp [along], fun rest => Next.cons ?_, fun inner m n rest hrest => ?_⟩
  · cases e.joinType <;> decide
  have hon : Next AfterTable (word "ON" :: (keys tables e ++ rest)) := Next.cons (by decide)
  have htable := relation_table inner.above.above.above.above htarget m hon
  have hmatching : joinKindText e.joinType ≠ "ASOF JOIN" := by
    cases e.joinType <;> decide
  have hkind : ¬ (startsWith "CROSS" (joinKindText e.joinType) = true ∨
      startsWith "OUTER" (joinKindText e.joinType) = true ∨
      startsWith "NATURAL" (joinKindText e.joinType) = true) := by
    cases e.joinType <;> decide
  have hkeys : inner.above.above.above.above.expr 0 (keys tables e ++ rest) = _ :=
    expr_keys hfrom hto (hrest.mono fun _ ht => ht.afterExpr)
  have hconstraint : TableGrammar.joinConstraint inner.above.above.above.above (joinKindText e.joinType)
      (word "ON" :: (keys tables e ++ rest)) =
        some (" ON " ++ (conjoinedExpr (e.key.pairs.map (pairExpr tables e))).text, rest) := by
    rw [TableGrammar.joinConstraint, if_neg hkind, if_neg hmatching, Parser.bind_eq (Parser.pure_apply _)]
    simp only
    rw [Parser.bind_eq (Parser.keyword_cons (by decide)), if_pos rfl, Parser.bind_eq hkeys]
    rfl
  have htokens : along tables e target ++ rest =
      word e.joinType.name :: word "JOIN" :: (table tables target ++ word "ON" :: (keys tables e ++ rest)) := by
    simp [along]
  rw [htokens]
  exact joins_take (joinKind_along e.joinType) htable hconstraint n

private theorem next_parts {parts : List (List Token × JoinedRelation)} (hparts : ∀ x ∈ parts, IsJoin x.1 x.2)
    (hrest : Next AfterJoin rest) : Next AfterJoin (parts.flatMap (·.1) ++ rest) := by
  cases parts with
  | nil => exact hrest
  | cons x parts =>
    rw [List.flatMap_cons, List.append_assoc]
    exact (hparts x (List.mem_cons_self ..)).2.1 _

/-- Joins one after another are read up to what ends them. -/
theorem joins_parts (inner : Level) {parts : List (List Token × JoinedRelation)}
    (hparts : ∀ x ∈ parts, IsJoin x.1 x.2) (m : Nat) {n : Nat} (hn : parts.length ≤ n)
    (hrest : Next AfterJoins rest) :
    let level := inner.above.above.above.above
    TableGrammar.joins level (TableGrammar.relation level (m + 1)) n (parts.flatMap (·.1) ++ rest) =
      some (parts.map (·.2), rest) := by
  intro level
  induction parts generalizing n with
  | nil =>
    cases n with
    | zero => rfl
    | succ n =>
      rw [List.flatMap_nil, List.nil_append, TableGrammar.joins, Parser.bind_eq (joinKind_none hrest)]
      rfl
  | cons x parts ih =>
    cases n with
    | zero => simp at hn
    | succ n =>
      have hlater : ∀ y ∈ parts, IsJoin y.1 y.2 := fun y hy => hparts y (List.mem_cons_of_mem _ hy)
      have hnext := next_parts hlater (hrest.mono fun _ ht => ht.afterJoin)
      rw [List.flatMap_cons, List.append_assoc, (hparts x (List.mem_cons_self ..)).2.2 inner m n _ hnext,
        ih hlater (by simpa using hn)]
      rfl

/-- The joins of a canvas, as they are read. -/
def joinParts (tables : List Table) (progress : Progress) : List (List Token × JoinedRelation) :=
  (progress.taken.map fun x => (along tables x.1 x.2, alongJoin tables x.1 x.2)) ++
    (unreached tables progress.joined).map fun id => (cross tables id, crossJoin tables id)

theorem joins_eq_flatMap (tables : List Table) (progress : Progress) :
    joins tables progress = (joinParts tables progress).flatMap (·.1) := by
  simp [joins, joinParts, List.flatMap_map]

theorem isJoin_of_mem {base : Table} {others : List Table} {edges : List Edge} {x : List Token × JoinedRelation}
    (hx : x ∈ joinParts (base :: others) (reachedFrom base.id (base :: others) edges)) : IsJoin x.1 x.2 := by
  rcases List.mem_append.1 hx with hx | hx
  · obtain ⟨y, hy, rfl⟩ := List.mem_map.1 hx
    obtain ⟨htarget, hfrom, hto⟩ := mem_ids_of_taken hy
    exact isJoin_along htarget hfrom hto
  · obtain ⟨id, hid, rfl⟩ := List.mem_map.1 hx
    exact isJoin_cross (mem_unreached.1 hid).1

/-- The tables of a canvas with their joins, as they are read. -/
def fromItem (base : String) (tables : List Table) (progress : Progress) : FromItem :=
  ⟨tableRelation tables base, (joinParts tables progress).map (·.2)⟩

/-- The tables of a canvas are read with their joins. -/
theorem fromItem_canvas (base : Table) (others : List Table) (edges : List Edge) (h : Next AfterJoins rest) :
    let progress := reachedFrom base.id (base :: others) edges
    TableGrammar.fromItem inner.above.above.above.above
        (table (base :: others) base.id ++ (joins (base :: others) progress ++ rest)) =
      some (fromItem base.id (base :: others) progress, rest) := by
  intro progress
  have hparts : ∀ x ∈ joinParts (base :: others) progress, IsJoin x.1 x.2 := fun x hx => isJoin_of_mem hx
  have hbase : base.id ∈ (base :: others).map (·.id) := by simp
  have hlen := length_le_flatMap (fun x hx => (hparts x hx).1) rest
  have hnext : Next AfterJoin (joins (base :: others) progress ++ rest) := by
    rw [joins_eq_flatMap]
    exact next_parts hparts (h.mono fun _ ht => ht.afterJoin)
  obtain ⟨m, hm⟩ : ∃ m,
      (table (base :: others) base.id ++ (joins (base :: others) progress ++ rest)).length = m + 1 := by
    obtain ⟨⟨place, t⟩, hfind⟩ := Option.isSome_iff_exists.1 ((isSome_findTable_iff _ base.id).2 hbase)
    exact Nat.exists_eq_succ_of_ne_zero (by simp [table, hfind])
  have hjoins := joins_parts inner hparts m hlen h
  rw [TableGrammar.fromItem, Parser.bind_eq (Parser.size_apply _), hm,
    Parser.bind_eq (relation_table _ hbase m (hnext.mono fun _ ht => ht.afterTable)),
    Parser.bind_eq (Parser.size_apply _), joins_eq_flatMap, Parser.bind_eq hjoins]
  rfl

/-! ### Conditions -/

/-- A member of a list as it is read: a string that is written with its quotes stands without them. -/
def readMember : Json.Value → Json.Value
  | .string s =>
    match tokens? s with
    | some [.string .single t] => .string t
    | _ => .null
  | v => v

theorem readMember_quoted (s : String) : readMember (.string (quotedString s)) = .string s := by
  simp [readMember, (writes_quotedString s).tokens_eq]

/-- A comparison, as it is read. -/
def comparisonExpr : Operator → Statement.Expr → Statement.Expr → Statement.Expr
  | .like, a, e => .like a false false e none
  | o, a, e => .binary (operatorText o) a e

theorem comparisonExpr_of_ne {o : Operator} (ho : o ≠ .like) (a e : Statement.Expr) :
    comparisonExpr o a e = .binary (operatorText o) a e := by
  cases o with
  | like => exact absurd rfl ho
  | _ => rfl

/-- A condition on the table at a place, as it is read. -/
def conditionExpr? (place : Nat) (c : Condition) : Option Statement.Expr :=
  let column := columnExpr place c.column
  match c.operator with
  | .isNull => some (.isNull column false)
  | .isNotNull => some (.isNull column true)
  | .isIn =>
    if c.value.members.isEmpty then none
    else some (.isIn column false (c.value.members.map fun v => valueExpr (readMember v)))
  | op => op.comparison?.map fun o => comparisonExpr o column (valueExpr c.value)

/-- A condition of a canvas, as it is read. -/
def conditionOf? (tables : List Table) (c : Condition) : Option Statement.Expr :=
  (findTable? tables c.table).bind fun x => conditionExpr? x.1 c

/-- The conditions of a canvas, as they are read. -/
def conditionExprs (tables : List Table) (cs : List Condition) : List Statement.Expr :=
  cs.filterMap (conditionOf? tables)

theorem isPlain_of_isExact {v : Json.Value} (h : v.isExact = true) : v.isPlain = true := by
  cases v with
  | string s => simp [Json.Value.isExact] at h
  | array items => simp [Json.Value.isExact] at h
  | object members => simp [Json.Value.isExact] at h
  | _ => rfl

theorem isScalar_of_isPlain {v : Json.Value} (h : v.isPlain = true) : isScalar v = true := by
  cases v with
  | array items => simp [Json.Value.isPlain] at h
  | object members => simp [Json.Value.isPlain] at h
  | _ => rfl

theorem readMember_of_isPlain {v : Json.Value} (h : v.isPlain = true) : readMember v = v := by
  cases v with
  | string s => simp [Json.Value.isPlain] at h
  | _ => rfl

theorem legible_of_readable {c : Condition} (hc : c.Readable) : c.Legible := by
  refine ⟨fun hop => ?_, fun hop v hv => (hc.listed hop v hv).imp_left isPlain_of_isExact⟩
  rcases hc.compared hop with hexact | ⟨s, hs⟩
  · exact isScalar_of_isPlain (isPlain_of_isExact hexact)
  · rw [hs]
    rfl

/-- A member of a list that can be read is a value. -/
theorem member_legible {v : Json.Value} (h : v.isPlain = true ∨ ∃ s, v = .string (quotedString s)) :
    member v = value (readMember v) ∧ isScalar (readMember v) = true := by
  rcases h with h | ⟨s, rfl⟩
  · rw [readMember_of_isPlain h]
    refine ⟨?_, isScalar_of_isPlain h⟩
    cases v with
    | string s => simp [Json.Value.isPlain] at h
    | _ => rfl
  · rw [readMember_quoted]
    refine ⟨?_, rfl⟩
    rw [member, (writes_quotedString s).tokens_eq]
    rfl

theorem finished_of_legible {c : Condition} (hc : c.Legible) : Finished c := by
  intro hop v hv
  rcases hc.listed hop v hv with hplain | ⟨s, rfl⟩
  · exact writes_listMember hplain
  · have hstring := writes_quotedString s
    rw [show member (.string (quotedString s)) = [.string .single s] by rw [member, hstring.tokens_eq]; rfl]
    exact hstring

private theorem clause_comparison (place : Nat) {c : Condition} (hc : c.Legible) {o : Operator}
    (ho : c.operator.comparison? = some o) :
    IsClause (column (tableAlias place) c.column ++ [operator o] ++ value c.value)
        (comparisonExpr o (columnExpr place c.column) (valueExpr c.value)) ∧
      (comparisonExpr o (columnExpr place c.column) (valueExpr c.value)).conjuncts =
        [comparisonExpr o (columnExpr place c.column) (valueExpr c.value)] := by
  have hscalar : isScalar c.value = true := hc.compared (by rw [ho]; rfl)
  rw [List.append_assoc, List.singleton_append]
  -- `LIKE` is read as an expression of its own; no other comparison is the conjunction
  by_cases hlike : o = .like
  · subst hlike
    exact ⟨isClause_column place c.column (continues_like hscalar _), rfl⟩
  · have hand : operatorText o ≠ "AND" := by
      cases o <;> decide
    rw [comparisonExpr_of_ne hlike]
    refine ⟨isClause_column place c.column (continues_comparison hlike (isRight_value hscalar)), ?_⟩
    rw [Statement.Expr.conjuncts, if_neg hand]

/-- A condition that can be read is a clause, and no conjunction. -/
theorem clause_condition (place : Nat) {c : Condition} (hc : c.Legible) :
    (condition? (tableAlias place) c = none ∧ conditionExpr? place c = none) ∨
      ∃ ts e, condition? (tableAlias place) c = some ts ∧ conditionExpr? place c = some e ∧
        (IsClause ts e ∧ e.conjuncts = [e]) := by
  unfold condition? conditionExpr?
  cases hop : c.operator with
  | isNull => exact Or.inr ⟨_, _, rfl, rfl, isClause_column place c.column (continues_isNull _ false), rfl⟩
  | isNotNull => exact Or.inr ⟨_, _, rfl, rfl, isClause_column place c.column (continues_isNull _ true), rfl⟩
  | isIn =>
    simp only
    split
    · exact Or.inl ⟨rfl, rfl⟩
    · next hne =>
      have hmembers : c.value.members.map member = (c.value.members.map readMember).map value := by
        rw [List.map_map]
        exact List.map_congr_left fun v hv => (member_legible (hc.listed hop v hv)).1
      have hscalar : ∀ v ∈ c.value.members.map readMember, isScalar v = true := by
        intro v hv
        obtain ⟨u, hu, rfl⟩ := List.mem_map.1 hv
        exact (member_legible (hc.listed hop u hu)).2
      have hclause := isClause_column place c.column
        (continues_isIn (by simpa using hne) hscalar (columnExpr place c.column))
      rw [← hmembers, List.map_map (f := readMember)] at hclause
      refine Or.inr ⟨_, _, rfl, rfl, ?_, rfl⟩
      simpa [Function.comp_def] using hclause
  | unknown => exact Or.inl ⟨rfl, rfl⟩
  | _ => exact Or.inr ⟨_, _, rfl, rfl, clause_comparison place hc (by rw [hop]; rfl)⟩

/-- The conditions of a canvas that can be read are clauses. -/
theorem exists_clauses (tables : List Table) {cs : List Condition} (hcs : ∀ c ∈ cs, c.Legible) :
    ∃ l : List (List Token × Statement.Expr), conditions tables cs = l.map (·.1) ∧
      conditionExprs tables cs = l.map (·.2) ∧ ∀ x ∈ l, IsClause x.1 x.2 ∧ x.2.conjuncts = [x.2] := by
  refine exists_pairs_filterMap (R := fun ts e => IsClause ts e ∧ e.conjuncts = [e]) fun c hc => ?_
  rw [aliasOf?, conditionOf?]
  cases hfind : findTable? tables c.table with
  | none => exact Or.inl ⟨rfl, rfl⟩
  | some x => exact clause_condition x.1 (hcs c hc)

/-! ### Clauses -/

/-- The condition of a query, as it is read. -/
def whereExpr? (es : List Statement.Expr) : Option Statement.Expr :=
  if es.isEmpty then none else some (conjoinedExpr es)

/-- The grouping of a query, as it is read. -/
def grouping (all : Bool) : Grouping :=
  if all then .all else .none

private theorem next_group (all : Bool) : Next (· = word "GROUP") (group all) := by
  cases all with
  | true => exact Next.cons rfl
  | false => exact Next.nil

private theorem grouping_group (all : Bool) :
    QueryGrammar.grouping inner (group all) = some (grouping all, []) := by
  cases all with
  | false => rfl
  | true =>
    have hby : Parser.keywords ["GROUP", "BY"] [word "GROUP", word "BY", word "ALL"] = some (true, [word "ALL"]) :=
      Parser.keywords_cons₂ (by decide) (by decide)
    have hall : Parser.keyword "ALL" [word "ALL"] = some (true, []) := Parser.keyword_cons (by decide)
    rw [show group true = [word "GROUP", word "BY", word "ALL"] from rfl, QueryGrammar.grouping, Parser.bind_eq hby,
      if_pos rfl, Parser.bind_eq hall, if_pos rfl]
    rfl

private theorem next_items (tables : List Table) (ts : List Token) :
    Next (fun t => ∀ k ∈ ["ALL", "DISTINCT", "TOP"], Parser.isKeyword k t = false) (items tables ++ ts) := by
  have hselection : ∀ place s us, Next (fun t => ∀ k ∈ ["ALL", "DISTINCT", "TOP"], Parser.isKeyword k t = false)
      (selection (tableAlias place) s ++ us) := by
    intro place s us
    unfold selection
    cases hf : s.aggregation.functionName? with
    | none =>
      refine Next.cons fun k hk => isKeyword_tableAlias ?_ place
      revert k
      decide
    | some f =>
      have hfunction : ∀ f ∈ functionNames, ∀ k ∈ ["ALL", "DISTINCT", "TOP"],
          Parser.isKeyword k (word f) = false := by decide
      exact Next.cons (hfunction f (functionName_mem hf))
  unfold items
  cases hselected : selected tables with
  | nil => exact Next.cons (by decide)
  | cons x xs =>
    rw [List.isEmpty_cons, if_neg Bool.false_ne_true, List.map_cons, listed, intercalate_cons, List.append_assoc]
    exact hselection x.1 x.2 _

theorem quantifier_items (tables : List Table) (ts : List Token) :
    QueryGrammar.quantifier inner (items tables ++ ts) = some ("", items tables ++ ts) := by
  have hnext := next_items tables ts
  rw [QueryGrammar.quantifier, Parser.bind_eq (hnext.keyword fun _ ht => ht "ALL" (by decide)),
    Parser.bind_eq (hnext.keyword fun _ ht => ht "DISTINCT" (by decide))]
  simp only [Bool.false_eq_true, if_false]
  rw [Parser.bind_eq (Parser.pure_apply _), Parser.bind_eq (hnext.keyword fun _ ht => ht "TOP" (by decide))]
  rfl

/-- The query of a canvas, as it is read. -/
def selectOf (base : String) (tables : List Table) (progress : Progress) (es : List Statement.Expr) (all : Bool) :
    Select where
  items := selectedItems tables
  tables := [fromItem base tables progress]
  condition? := whereExpr? es
  grouping := grouping all

/-- The clause of conditions, when there are some. -/
def whereTokens (parts : List (List Token)) : List Token :=
  if parts.isEmpty then [] else word "WHERE" :: conjoined parts

theorem next_where (parts : List (List Token)) (all : Bool) :
    Next AfterJoins (whereTokens parts ++ group all) := by
  refine Next.append ?_ ((next_group all).mono fun _ ht => ht ▸ (by decide))
  cases parts with
  | nil => exact Next.nil
  | cons ts parts => exact Next.cons (by decide)

private theorem lateralViews_none (h : Next AfterJoins rest) (n : Nat) :
    QueryGrammar.lateralViews inner n rest = some ("", rest) := by
  cases n with
  | zero => rfl
  | succ n =>
    rw [QueryGrammar.lateralViews, Parser.bind_eq (h.keywords fun t ht => ?_), if_neg Bool.false_ne_true]
    · rfl
    · revert t
      unfold AfterJoins
      decide

/-- The clauses of a query are read one after another, up to its end. -/
theorem select_clauses (inner : Level) {base : String} {tables : List Table} {progress : Progress}
    {clauses : List (List Token × Statement.Expr)} (hclauses : ∀ x ∈ clauses, IsClause x.1 x.2)
    (all : Bool) (ts : List Token)
    (hfrom : ∀ us, Next AfterJoins us → TableGrammar.fromItem inner.above.above.above.above (ts ++ us) =
      some (fromItem base tables progress, us)) :
    QueryGrammar.select inner.above.above.above.above
        (word "SELECT" :: (items tables ++ word "FROM" :: (ts ++ (whereTokens (clauses.map (·.1)) ++ group all)))) =
      some (selectOf base tables progress (clauses.map (·.2)) all, []) := by
  have hnext := next_where (clauses.map (·.1)) all
  have hinto : ∀ us, Parser.keyword "INTO" (word "FROM" :: us) = some (false, word "FROM" :: us) := fun us =>
    Parser.keyword_miss (by decide)
  have hlist := list_one (hfrom _ hnext) (hnext.mono fun t ht => by
    rintro rfl
    revert ht
    decide)
  rw [QueryGrammar.select, Parser.bind_eq (Parser.expectKeyword_cons (by decide)),
    Parser.bind_eq (quantifier_items tables _), Parser.bind_eq (list_items tables _), Parser.bind_eq (hinto _)]
  simp only [Bool.false_eq_true, if_false]
  rw [Parser.bind_eq (Parser.pure_apply _), Parser.bind_eq (Parser.keyword_cons (by decide)), if_pos rfl,
    Parser.bind_eq hlist, Parser.bind_eq (Parser.size_apply _), Parser.bind_eq (lateralViews_none hnext _)]
  cases clauses with
  | nil =>
    have hwhere : Parser.keyword "WHERE" (group all) = some (false, group all) :=
      (next_group all).keyword fun _ ht => ht ▸ (by decide)
    rw [List.map_nil, whereTokens, List.isEmpty_nil, if_pos rfl, List.nil_append, Parser.bind_eq hwhere,
      if_neg Bool.false_ne_true, Parser.bind_eq (Parser.pure_apply _), Parser.bind_eq (grouping_group all)]
    rfl
  | cons x clauses =>
    have hexpr := expr_conjoined inner (List.cons_ne_nil x clauses) hclauses
      ((next_group all).mono fun _ ht => ht ▸ (by decide))
    rw [List.map_cons] at hexpr
    have hcondition : inner.above.above.above.above.expr 0 (conjoined (x.1 :: clauses.map (·.1)) ++ group all) = _ :=
      hexpr
    rw [whereTokens, List.map_cons, List.isEmpty_cons, if_neg Bool.false_ne_true, List.cons_append,
      Parser.bind_eq (Parser.keyword_cons (by decide)), if_pos rfl, Parser.bind_eq hcondition,
      Parser.bind_eq (Parser.pure_apply _), Parser.bind_eq (grouping_group all)]
    rfl

/-- The query of a canvas with what it selects, as the only statement. -/
theorem statement_select {s : Select} {ts : List Token}
    (hs : QueryGrammar.select inStatement (word "SELECT" :: ts) = some (s, [])) :
    statements? ((word "SELECT" :: ts).length + 1) true (word "SELECT" :: ts) =
      some [.query { body := .select s }] := by
  have hpeek : Parser.peekKeyword (word "SELECT" :: ts) = some ("SELECT", word "SELECT" :: ts) := by
    rw [Parser.peekKeyword_cons, show Parser.keywordOf (some (word "SELECT")) = "SELECT" by decide]
  have hhead : Parser.peek? (word "SELECT" :: ts) = some (some (word "SELECT"), word "SELECT" :: ts) := rfl
  have hwith : Parser.keyword "WITH" (word "SELECT" :: ts) = some (false, word "SELECT" :: ts) :=
    Parser.keyword_miss (by decide)
  have hdefinitions : QueryGrammar.definitions inStatement (word "SELECT" :: ts) =
      some (none, word "SELECT" :: ts) := by
    rw [QueryGrammar.definitions, Parser.bind_eq hwith, if_neg Bool.false_ne_true]
    rfl
  have hbody : QueryGrammar.simpleBody inStatement (word "SELECT" :: ts) = some (.select s, []) := by
    rw [QueryGrammar.simpleBody, Parser.bind_eq hpeek, if_pos rfl, Parser.bind_eq hs]
    rfl
  have hquery : QueryGrammar.query inStatement (word "SELECT" :: ts) = some ({ body := .select s }, []) := by
    rw [QueryGrammar.query, Parser.bind_eq hdefinitions, Parser.bind_eq (Parser.size_apply _), Parser.bind_eq hbody]
    rfl
  have hstatement : statement (word "SELECT" :: ts) = some (.query { body := .select s }, []) := by
    rw [statement, Parser.bind_eq hpeek, Parser.bind_eq hhead, if_pos (Or.inl rfl), Parser.bind_eq hquery]
    rfl
  have hdrop : (word "SELECT" :: ts).dropWhile (· == .sign ";") = word "SELECT" :: ts := rfl
  rw [statements?, hdrop]
  simp only [Bool.true_or, if_true, hstatement, Option.bind_some]
  rfl

/-- The query of a model, as it is read. -/
def ofModelRead (m : Model) : Select :=
  match m.tables with
  | [] => { items := [] }
  | base :: _ =>
    selectOf base.id m.tables (reachedFrom base.id m.tables m.edges) (conditionExprs m.tables m.filters.list)
      m.groupByAll

end Skeleton

/-- A compiled query with conditions that can be read is read as a single `SELECT` of what the canvas says. -/
theorem read_legible {m : Model} (hmanual : m.filters.manual? = none) (hm : m.tables ≠ [])
    (hcs : ∀ c ∈ m.filters.list, c.Legible) :
    ∃ c, m.compile? = some c ∧
      Statement.read c.sql = some [.query { body := .select (Skeleton.ofModelRead m) }] := by
  obtain ⟨q, hq, hw⟩ := Skeleton.writes_model hm fun c hc => Skeleton.finished_of_legible (hcs c hc)
  refine ⟨_, compile_eq_of_query hmanual hq, ?_⟩
  obtain ⟨base, others, htables⟩ := List.exists_cons_of_ne_nil hm
  obtain ⟨l, htokens, hexprs, hl⟩ := Skeleton.exists_clauses m.tables hcs
  have hselect := Skeleton.select_clauses (Level.ofDepth 44) (fun x hx => (hl x hx).1) m.groupByAll
    (Skeleton.table (base :: others) base.id ++ Skeleton.joins (base :: others)
      (reachedFrom base.id (base :: others) m.edges))
    fun us hus => by rw [List.append_assoc]; exact Skeleton.fromItem_canvas base others m.edges hus
  rw [← htokens, ← hexprs, htables] at hselect
  have hskeleton : Skeleton.ofModel m = Skeleton.word "SELECT" :: (Skeleton.items (base :: others) ++
      Skeleton.word "FROM" :: ((Skeleton.table (base :: others) base.id ++ Skeleton.joins (base :: others)
        (reachedFrom base.id (base :: others) m.edges)) ++
          (Skeleton.whereTokens (Skeleton.conditions m.tables m.filters.list) ++ Skeleton.group m.groupByAll))) := by
    simp [Skeleton.ofModel, htables, Skeleton.filters, Skeleton.whereTokens]
  rw [Statement.read, hw.tokens_eq, Option.bind_some, hskeleton, Skeleton.ofModelRead, htables]
  exact Skeleton.statement_select hselect

theorem read_compiled {m : Model} (hmanual : m.filters.manual? = none) (hm : m.tables ≠ [])
    (hcs : ∀ c ∈ m.filters.list, c.Readable) :
    ∃ c, m.compile? = some c ∧
      Statement.read c.sql = some [.query { body := .select (Skeleton.ofModelRead m) }] :=
  read_legible hmanual hm fun c hc => Skeleton.legible_of_readable (hcs c hc)

end JoinCanvas
