import JoinCanvas.Proofs.Cardinality.Agreement
import JoinCanvas.Proofs.Cardinality.Readings
import JoinCanvas.Proofs.Sql.Unions
import JoinCanvas.Proofs.Warehouse.Rows
import Mathlib.Data.Finset.Card

/-!
# What the statistics of a join say

The statistics query counts the rows of each side, and the different keys of those rows that have one: a row with a NULL
in a column of the key has none.  So a side has more rows than keys exactly when two rows share a key or some row has
none, whatever the tables hold.

That a warehouse counts in this way is said of the texts that it executes: a union of queries that count is answered by
their values over the tables.  It says nothing of the statistics query in particular.

* `keyCount_lt_iff`: the counting argument, over the rows of a table.
* `answer_sideQuery`: how the query of a side is answered.
* `answersUnions_knowing`: a warehouse can count so, for a text is the union of one list of such queries at most.
* `ofRows_eq_ok_iff`: the counts are read back from the answers, in any order and as numbers or as texts.
* `validateEdge_detects`: the cardinality that is detected, and what becomes of it when the sides are exchanged.
-/

namespace JoinCanvas

open JoinCanvas.Json JoinCanvas.Sql JoinCanvas.Text

/-! ### Rows and their keys -/

/-- A row of a table: the value in each column, or nothing for a NULL. -/
def TableRow (V : Type) : Type := String → Option V

section

variable {V : Type}

/-- The key of a row, if there is no NULL in its columns. -/
def TableRow.key? (x : TableRow V) (columns : List String) : Option (List V) :=
  columns.mapM fun column => x column

/-- Two rows have the same key, without NULLs. -/
def SharesKey (columns : List String) (x y : TableRow V) : Prop :=
  ∀ column ∈ columns, ∃ v, x column = some v ∧ y column = some v

/-- Two rows of a table share a key, or there is a NULL in a column of the key. -/
def Many (columns : List String) (rows : List (TableRow V)) : Prop :=
  (∃ i j : Nat, ∃ x y, i < j ∧ rows[i]? = some x ∧ rows[j]? = some y ∧ SharesKey columns x y) ∨
    ∃ x ∈ rows, ∃ column ∈ columns, x column = none

theorem TableRow.key_cons (x : TableRow V) (column : String) (columns : List String) :
    x.key? (column :: columns) = (x column).bind fun v => (x.key? columns).map (v :: ·) := by
  rw [key?, List.mapM_cons]
  cases x column with
  | none => rfl
  | some v => cases h : columns.mapM (fun column => x column) <;> simp [key?, h]

theorem TableRow.key_eq_none_iff {x : TableRow V} {columns : List String} :
    x.key? columns = none ↔ ∃ column ∈ columns, x column = none := by
  induction columns with
  | nil => simp [key?]
  | cons column columns ih =>
    rw [key_cons]
    cases hx : x column with
    | none => simp [hx]
    | some v => simp [hx, ih]

theorem sharesKey_iff {columns : List String} {x y : TableRow V} :
    SharesKey columns x y ↔ ∃ key, x.key? columns = some key ∧ y.key? columns = some key := by
  induction columns with
  | nil => simp [SharesKey, TableRow.key?]
  | cons column columns ih =>
    have hcons : SharesKey (column :: columns) x y ↔
        (∃ v, x column = some v ∧ y column = some v) ∧ SharesKey columns x y := List.forall_mem_cons
    rw [hcons, ih, TableRow.key_cons, TableRow.key_cons]
    constructor
    · rintro ⟨⟨v, hx, hy⟩, key, hkx, hky⟩
      exact ⟨v :: key, by simp [hx, hkx], by simp [hy, hky]⟩
    · rintro ⟨key, hx, hy⟩
      obtain ⟨v, hv, hx⟩ := Option.bind_eq_some_iff.1 hx
      obtain ⟨u, hu, hy⟩ := Option.bind_eq_some_iff.1 hy
      obtain ⟨kx, hkx, rfl⟩ := Option.map_eq_some_iff.1 hx
      obtain ⟨ky, hky, hsame⟩ := Option.map_eq_some_iff.1 hy
      obtain ⟨rfl, rfl⟩ := List.cons.inj hsame
      exact ⟨⟨u, hv, hu⟩, ky, hkx, hky⟩

theorem not_nodup_keys_iff {columns : List String} {rows : List (TableRow V)} :
    ¬ (rows.filterMap (·.key? columns)).Nodup ↔
      ∃ i j : Nat, ∃ x y, i < j ∧ rows[i]? = some x ∧ rows[j]? = some y ∧ SharesKey columns x y := by
  rw [List.Nodup, List.pairwise_filterMap, List.pairwise_iff_getElem]
  constructor
  · intro h
    push Not at h
    obtain ⟨i, j, hi, hj, hlt, key, hx, _, hy, rfl⟩ := h
    exact ⟨i, j, _, _, hlt, List.getElem?_eq_getElem hi, List.getElem?_eq_getElem hj, sharesKey_iff.2 ⟨key, hx, hy⟩⟩
  · rintro ⟨i, j, x, y, hlt, hx, hy, hshares⟩ h
    obtain ⟨hi, rfl⟩ := List.getElem?_eq_some_iff.1 hx
    obtain ⟨hj, rfl⟩ := List.getElem?_eq_some_iff.1 hy
    obtain ⟨key, hkx, hky⟩ := sharesKey_iff.1 hshares
    exact h i j hi hj hlt key hkx key hky rfl

variable [DecidableEq V]

/-- The number of different keys of the rows that have one. -/
def keyCount (columns : List String) (rows : List (TableRow V)) : Nat :=
  (rows.filterMap (·.key? columns)).toFinset.card

theorem keyCount_le (columns : List String) (rows : List (TableRow V)) :
    keyCount columns rows ≤ rows.length :=
  (List.toFinset_card_le _).trans (List.length_filterMap_le _ _)

/-- There are more rows than keys exactly when a key comes twice or a row has none. -/
theorem keyCount_lt_iff (columns : List String) (rows : List (TableRow V)) :
    keyCount columns rows < rows.length ↔ Many columns rows := by
  -- the keys are at most as many as the rows, and the different ones at most as many as the keys
  let keys := rows.filterMap (·.key? columns)
  have hrows : keys.length ≤ rows.length := List.length_filterMap_le _ _
  have hkeys : keys.toFinset.card ≤ keys.length := List.toFinset_card_le keys
  have hall : keys.length = rows.length ↔ ¬ ∃ x ∈ rows, ∃ column ∈ columns, x column = none := by
    rw [List.filterMap_length_eq_length]
    push Not
    refine forall₂_congr fun x _ => ?_
    rw [← Option.ne_none_iff_isSome, Ne, TableRow.key_eq_none_iff]
    push Not
    rfl
  have hnodup : keys.toFinset.card = keys.length ↔ keys.Nodup := by
    rw [List.card_toFinset, ← List.dedup_eq_self]
    exact ⟨(List.dedup_sublist keys).eq_of_length, congrArg List.length⟩
  have hlt : keyCount columns rows < rows.length ↔ ¬ keys.Nodup ∨ keys.length ≠ rows.length := by
    rw [← hnodup, keyCount]
    change keys.toFinset.card < _ ↔ _
    omega
  rw [hlt, not_nodup_keys_iff, Many, ne_eq, hall, not_not]

/-! ### How a query that counts is answered -/

/-- The column that an expression is, on its own. -/
def Sql.Expr.columnName? : Expr → Option String
  | .column none name => some name
  | _ => none

/-- Whether an expression has one value over all rows of a table together. -/
def Sql.Expr.isAggregate : Expr → Bool
  | .aggregate _ _ | .countDistinct _ => true
  | _ => false

/-- The value over the rows of a table of a word, a count of rows, or a count of different keys. -/
def Sql.Expr.over? (rows : List (TableRow V)) : Expr → Option Value
  | .literal (.string s) => if s.toList.all Char.isAlpha then some (.string s) else none
  | .aggregate .count .wildcard => some (.integer rows.length)
  | .countDistinct (e :: more) => do
    let columns ← (e :: more).mapM Expr.columnName?
    return .integer (keyCount columns rows)
  | _ => none

/-- The only row of the answer to a query that selects such values, one of them a count, under names from a table that
is known.  Without a count there would be a row for each one of the table. -/
def Sql.Query.answer? (tables : String → Option (List (TableRow V))) (q : Query) : Option Members :=
  if q.source.alias?.isNone && q.joins.isEmpty && q.filters.isEmpty && !q.groupByAll &&
      q.items.any (·.expr.isAggregate) then do
    let rows ← tables q.source.qualified
    let members ← q.items.mapM fun item => do return (← item.alias?, ← item.expr.over? rows)
    return ofMembers members
  else none

/-- The queries select under the same names, which differ, so that their rows can stand in one answer. -/
def Sql.Query.Alike (queries : List Query) : Prop :=
  ∃ names : List String, names.Nodup ∧ ∀ q ∈ queries, q.items.map (·.alias?) = names.map some

/-- The row that counts a side. -/
def Stats.countedRow (side : String) (columns : List String) (rows : List (TableRow V)) : Members :=
  ofMembers [("side", .string side), ("total_rows", .integer rows.length),
    ("distinct_keys", .integer (keyCount columns rows))]

theorem columnNames_eq (columns : List String) :
    (columns.map fun column => Expr.column none column).mapM Expr.columnName? = some columns := by
  induction columns with
  | nil => rfl
  | cons column columns ih => simp [Expr.columnName?, ih]

/-- The query of a side counts the rows of its table and the different keys in its columns. -/
theorem answer_sideQuery {tables : String → Option (List (TableRow V))} {side : String}
    (hside : side.toList.all Char.isAlpha = true) {table : Locator} {rows : List (TableRow V)}
    (hrows : tables table.qualified = some rows) {columns : List String} (hcolumns : columns ≠ []) :
    (Stats.sideQuery side table columns).answer? tables = some (Stats.countedRow side columns rows) := by
  obtain ⟨column, more, rfl⟩ := List.exists_cons_of_ne_nil hcolumns
  have hkeys : (Expr.countDistinct ((column :: more).map (.column none))).over? rows =
      some (.integer (keyCount (column :: more) rows)) := by
    have hnames := columnNames_eq (column :: more)
    rw [List.map_cons] at hnames ⊢
    rw [Expr.over?, hnames]
    rfl
  have hlabel : (Expr.literal (.string side)).over? rows = some (.string side) := by rw [Expr.over?, if_pos hside]
  have hshape : ((Stats.sideQuery side table (column :: more)).source.alias?.isNone &&
      (Stats.sideQuery side table (column :: more)).joins.isEmpty &&
      (Stats.sideQuery side table (column :: more)).filters.isEmpty &&
      !(Stats.sideQuery side table (column :: more)).groupByAll &&
      (Stats.sideQuery side table (column :: more)).items.any (·.expr.isAggregate)) = true := rfl
  have hsource : (Stats.sideQuery side table (column :: more)).source.qualified = table.qualified := rfl
  rw [Query.answer?, if_pos hshape, hsource, hrows]
  simp only [Stats.sideQuery, List.mapM_cons, List.mapM_nil, hkeys, hlabel, Option.bind_eq_bind, Option.bind_some]
  rfl

end

/-! ### The counts in an answer -/

/-- A count, as a number or as its digits. -/
def Writes (v : Value) (n : Nat) : Prop :=
  v = .integer n ∨ v = .string (String.ofList (Nat.toDigits 10 n))

/-- A row holds the members of an answer, whose numbers may be written in digits. -/
def Shows (answer row : Members) : Prop :=
  ∀ key v, answer.get? key = some v →
    ∃ v', row.get? key = some v' ∧ (v' = v ∨ ∃ n : Nat, v = .integer n ∧ Writes v' n)

namespace Stats

theorem spells_toDigits_iff {m n : Nat} : Spells (String.ofList (Nat.toDigits 10 n)) m ↔ m = n := by
  have hn : Spells (String.ofList (Nat.toDigits 10 n)) n :=
    ⟨[], [], 0, [], by rw [String.toList_ofList]; simp, nofun, Or.inl rfl, nofun⟩
  constructor
  · exact fun hm => hm.unique hn
  · rintro rfl
    exact hn

theorem isCount_of_writes {v : Value} {m n : Nat} (h : Writes v n) : IsCount v m ↔ n < UInt64.size ∧ m = n := by
  have hsize : UInt64.size = 2 ^ 64 := rfl
  have hsame : (v = .integer m ∨ ∃ s, v = .string s ∧ Spells s m) ↔ m = n := by
    rcases h with rfl | rfl
    · simp only [Value.integer, Value.number.injEq, Number.integer.injEq, Int.natCast_inj, reduceCtorEq, false_and,
        exists_const, or_false, eq_comm]
    · simp only [Value.integer, reduceCtorEq, Value.string.injEq, false_or, exists_eq_left', spells_toDigits_iff]
  rw [IsCount, hsame, hsize]
  constructor
  · rintro ⟨hlt, rfl⟩
    exact ⟨hlt, rfl⟩
  · rintro ⟨hlt, rfl⟩
    exact ⟨hlt, rfl⟩

theorem holds_of_writes {row : Members} {field : String} {m n : Nat} (h : ∃ v, row.get? field = some v ∧ Writes v n) :
    Holds row field m ↔ n < UInt64.size ∧ m = n := by
  obtain ⟨v, hv, hn⟩ := h
  rw [Holds, hv, ← isCount_of_writes hn]
  constructor
  · rintro ⟨_, ⟨⟩, hm⟩
    exact hm
  · exact fun hm => ⟨v, rfl, hm⟩

end Stats

section

variable {V : Type} [DecidableEq V]

/-- The statistics of a side whose table holds these rows. -/
def SideStats.over (columns : List String) (rows : List (TableRow V)) : SideStats :=
  ⟨rows.length, keyCount columns rows⟩

theorem isMany_over (columns : List String) (rows : List (TableRow V)) :
    (SideStats.over columns rows).isMany = true ↔ Many columns rows := by
  rw [SideStats.isMany, decide_eq_true_iff]
  exact keyCount_lt_iff columns rows

/-- A row that shows the counts of a side. -/
structure Counted (side : String) (columns : List String) (rows : List (TableRow V)) (row : Members) : Prop where
  side : row.get? "side" = some (.string side)
  total : ∃ v, row.get? "total_rows" = some v ∧ Writes v rows.length
  distinct : ∃ v, row.get? "distinct_keys" = some v ∧ Writes v (keyCount columns rows)

theorem counted_of_shows {side : String} {columns : List String} {rows : List (TableRow V)} {row : Members}
    (h : Shows (Stats.countedRow side columns rows) row) : Counted side columns rows row := by
  let members : Members := [("side", .string side), ("total_rows", .integer rows.length),
    ("distinct_keys", .integer (keyCount columns rows))]
  have hkeys : members.keys.Nodup := by
    change ["side", "total_rows", "distinct_keys"].Nodup
    decide
  have hcount : ∀ field (n : Nat), (field, Value.integer n) ∈ members →
      ∃ v, row.get? field = some v ∧ Writes v n := by
    intro field n hfield
    obtain ⟨v, hv, rfl | ⟨m, hm, hwrites⟩⟩ := h field _ (get?_ofMembers_of_mem hkeys hfield)
    · exact ⟨_, hv, Or.inl rfl⟩
    · have hnm : (n : Int) = m := by simpa [Value.integer] using hm
      exact ⟨v, hv, by rwa [Int.ofNat_inj.1 hnm]⟩
  refine ⟨?_, hcount _ _ (by simp [members]), hcount _ _ (by simp [members])⟩
  obtain ⟨v, hv, rfl | ⟨m, hm, -⟩⟩ := h "side" (.string side) (get?_ofMembers_of_mem hkeys (by simp [members]))
  · exact hv
  · cases hm

/-- Reading the counts of a side fails when they take more than 64 bits. -/
theorem ofSide_of_counted {side : String} {columns : List String} {table : List (TableRow V)} {rows : List Members}
    {row : Members} (hrow : row ∈ rows) (hcounted : Counted side columns table row)
    (honce : Stats.AtMostOne rows side) (s : SideStats) :
    Stats.ofSide rows side = .ok s ↔ table.length < UInt64.size ∧ s = SideStats.over columns table := by
  obtain ⟨total, distinct⟩ := s
  rw [Stats.ofSide_eq honce hrow hcounted.side, Stats.ofRow_eq_ok_iff, Stats.holds_of_writes hcounted.total,
    Stats.holds_of_writes hcounted.distinct, SideStats.over, SideStats.mk.injEq]
  constructor
  · rintro ⟨⟨hlt, htotal⟩, -, hdistinct⟩
    exact ⟨hlt, htotal, hdistinct⟩
  · rintro ⟨hlt, htotal, hdistinct⟩
    exact ⟨⟨hlt, htotal⟩, (keyCount_le columns table).trans_lt hlt, hdistinct⟩

/-- The rows of an answer show the rows that are due, in any order. -/
def AreAnswers (answers rows : List Members) : Prop :=
  ∃ shown, List.Forall₂ Shows answers shown ∧ rows.Perm shown

variable {sourceRows targetRows : List (TableRow V)} {pairs : List KeyPair}

/-- The answers to the queries of the two sides. -/
def Stats.countedRows (sourceRows targetRows : List (TableRow V)) (pairs : List KeyPair) : List Members :=
  [countedRow sourceSide (pairs.map (·.fromColumn)) sourceRows,
    countedRow targetSide (pairs.map (·.toColumn)) targetRows]

theorem exists_counted {rows : List Members} (hrows : AreAnswers (Stats.countedRows sourceRows targetRows pairs) rows) :
    ∃ x y, rows.Perm [x, y] ∧ Counted "source" (pairs.map (·.fromColumn)) sourceRows x ∧
      Counted "target" (pairs.map (·.toColumn)) targetRows y := by
  obtain ⟨shown, hshown, hperm⟩ := hrows
  obtain ⟨x, more, hx, hmore, rfl⟩ := List.forall₂_cons_left_iff.1 hshown
  obtain ⟨y, rest, hy, hrest, rfl⟩ := List.forall₂_cons_left_iff.1 hmore
  obtain rfl := List.forall₂_nil_left_iff.1 hrest
  exact ⟨x, y, hperm, counted_of_shows hx, counted_of_shows hy⟩

/-- The counts of both sides are read back from the answers, if they take no more than 64 bits. -/
theorem ofRows_eq_ok_iff {rows : List Members} (hrows : AreAnswers (Stats.countedRows sourceRows targetRows pairs) rows)
    (found : SideStats × SideStats) :
    Stats.ofRows rows = .ok found ↔ sourceRows.length < UInt64.size ∧ targetRows.length < UInt64.size ∧
      found = (.over (pairs.map (·.fromColumn)) sourceRows, .over (pairs.map (·.toColumn)) targetRows) := by
  obtain ⟨x, y, hperm, hx, hy⟩ := exists_counted hrows
  have hmem : ∀ z ∈ rows, z = x ∨ z = y := fun z hz => by simpa using hperm.mem_iff.1 hz
  have honly (z : Members) (hz : z ∈ rows) : (Stats.RowOf "source" z → z = x) ∧ (Stats.RowOf "target" z → z = y) := by
    rcases hmem z hz with rfl | rfl
    · exact ⟨fun _ => rfl, fun hside => absurd (hx.side.symm.trans hside) (by simp)⟩
    · exact ⟨fun hside => absurd (hy.side.symm.trans hside) (by simp), fun _ => rfl⟩
  have hsource := ofSide_of_counted (hperm.mem_iff.2 (List.mem_cons_self ..)) hx
    fun z hz u hu hz' hu' => ((honly z hz).1 hz').trans ((honly u hu).1 hu').symm
  have htarget := ofSide_of_counted (hperm.mem_iff.2 (List.mem_cons_of_mem _ (List.mem_cons_self ..))) hy
    fun z hz u hu hz' hu' => ((honly z hz).2 hz').trans ((honly u hu).2 hu').symm
  rw [Stats.ofRows_eq_ok_iff_sides, hsource, htarget, Prod.ext_iff]
  tauto

/-! ### Measuring a join -/

/-- The cardinality is the one that many rows on the one side and on the other one give. -/
structure Detects (sourceMany targetMany : Prop) (c : Cardinality) : Prop where
  manyToMany : c = .manyToMany ↔ sourceMany ∧ targetMany
  manyToOne : c = .manyToOne ↔ sourceMany ∧ ¬ targetMany
  oneToMany : c = .oneToMany ↔ ¬ sourceMany ∧ targetMany
  oneToOne : c = .oneToOne ↔ ¬ sourceMany ∧ ¬ targetMany

theorem detects_classify (s t : SideStats) : Detects (s.isMany = true) (t.isMany = true) (classify s t) := by
  unfold classify
  constructor <;> cases s.isMany <;> cases t.isMany <;> decide

/-- The pair with its columns exchanged. -/
def KeyPair.swap (p : KeyPair) : KeyPair :=
  ⟨p.toColumn, p.fromColumn⟩

variable {σ ω : Type} {w : Warehouse σ ω} {tables : String → Option (List (TableRow V))} {source target : Locator}

/-- The warehouse counts the rows and keys of these tables: whenever it completes a union of queries that count, it
answers each of them by one row, in any order. -/
def AnswersUnions (w : Warehouse σ ω) (tables : String → Option (List (TableRow V))) : Prop :=
  ∀ queries answers, queries ≠ [] → Query.Alike queries → queries.mapM (·.answer? tables) = some answers →
    ∀ s r s', Session.Completes w (unionText queries) s r s' → AreAnswers answers r.rows

theorem alike_sides (source target : Locator) (pairs : List KeyPair) :
    Query.Alike (Stats.sides source target pairs) := by
  refine ⟨["side", "total_rows", "distinct_keys"], by decide, fun q hq => ?_⟩
  simp only [Stats.sides, List.mem_cons, List.not_mem_nil, or_false] at hq
  rcases hq with rfl | rfl <;> rfl

theorem answers_sides (hpairs : pairs ≠ []) (hsource : tables source.qualified = some sourceRows)
    (htarget : tables target.qualified = some targetRows) :
    (Stats.sides source target pairs).mapM (·.answer? tables) =
      some (Stats.countedRows sourceRows targetRows pairs) := by
  have hcolumns (f : KeyPair → String) : pairs.map f ≠ [] := fun h => hpairs (List.map_eq_nil_iff.1 h)
  rw [Stats.sides, List.mapM_cons, List.mapM_cons, answer_sideQuery (by decide) hsource (hcolumns (·.fromColumn)),
    answer_sideQuery (by decide) htarget (hcolumns (·.toColumn))]
  rfl

/-- The statistics query of two tables is answered by the counts of both. -/
theorem AnswersUnions.answers_stats (hw : AnswersUnions w tables) (hpairs : pairs ≠ [])
    (hsource : tables source.qualified = some sourceRows) (htarget : tables target.qualified = some targetRows)
    {s s' : Scene σ} {r : QueryResult} (h : Session.Completes w (Stats.query source target pairs) s r s') :
    AreAnswers (Stats.countedRows sourceRows targetRows pairs) r.rows :=
  hw _ _ (List.cons_ne_nil _ _) (alike_sides source target pairs) (answers_sides hpairs hsource htarget) s r s' h

theorem exists_of_validateEdge {connection : Connection} {c c' : Course σ ω} {v : EdgeValidation}
    (h : Validator.validateEdge w connection source target pairs c = (.returned v, c')) :
    pairs ≠ [] ∧ ∃ s r s', Session.Completes w (Stats.query source target pairs) s r s' ∧
      Stats.ofRows r.rows = .ok (v.source, v.target) := by
  rw [Validator.validateEdge] at h
  by_cases hpairs : pairs = []
  · subst hpairs
    exact absurd (congrArg Prod.fst h) nofun
  refine ⟨hpairs, ?_⟩
  rw [if_neg (by rwa [List.isEmpty_iff])] at h
  obtain ⟨stats, c₁, hsession, h⟩ := Work.bind_eq_returned_iff.1 h
  obtain rfl := Outcome.returned.inj (Prod.mk.inj h).1
  obtain ⟨c₂, c₃, hmeasure⟩ := Validator.exists_of_inSession w hsession
  obtain ⟨r, c₄, hquery, hread⟩ := Work.bind_eq_returned_iff.1 hmeasure
  exact ⟨c₂.scene, r, c₄.scene, Session.query_returns_iff.1 ⟨c₄, hquery, rfl⟩,
    (Work.ofExcept_eq_returned_iff.1 hread).1⟩

theorem validateEdge_over (hw : AnswersUnions w tables) (hsource : tables source.qualified = some sourceRows)
    (htarget : tables target.qualified = some targetRows) {connection : Connection} {c c' : Course σ ω}
    {v : EdgeValidation} (h : Validator.validateEdge w connection source target pairs c = (.returned v, c')) :
    v.source = .over (pairs.map (·.fromColumn)) sourceRows ∧ v.target = .over (pairs.map (·.toColumn)) targetRows := by
  obtain ⟨hpairs, s, r, s', hcompletes, hread⟩ := exists_of_validateEdge h
  obtain ⟨-, -, hfound⟩ := (ofRows_eq_ok_iff (hw.answers_stats hpairs hsource htarget hcompletes) _).1 hread
  exact Prod.mk.inj hfound

/-- A join that is measured over two tables by a warehouse that counts their rows and keys.  The counts are read from its
answer if they take no more than 64 bits.  A side is many exactly when two of its rows share a key or a row has a NULL in
a column of the key; the cardinality that is detected is the one that this gives, and it is read from the other end when
the tables and the columns are exchanged. -/
theorem validateEdge_detects (hpairs : pairs ≠ []) (hw : AnswersUnions w tables)
    (hsource : tables source.qualified = some sourceRows) (htarget : tables target.qualified = some targetRows) :
    let sourceMany := Many (pairs.map (·.fromColumn)) sourceRows
    let targetMany := Many (pairs.map (·.toColumn)) targetRows
    (∀ s r s', Session.Completes w (Stats.query source target pairs) s r s' →
      ((∃ found, Stats.ofRows r.rows = .ok found) ↔
        sourceRows.length < UInt64.size ∧ targetRows.length < UInt64.size)) ∧
    ∀ connection c c' v, Validator.validateEdge w connection source target pairs c = (.returned v, c') →
      (v.source.isMany = true ↔ sourceMany) ∧ (v.target.isMany = true ↔ targetMany) ∧
      Detects sourceMany targetMany v.detected ∧
      ∀ connection c c' v', Validator.validateEdge w connection target source (pairs.map KeyPair.swap) c =
        (.returned v', c') → v'.detected = v.detected.swap := by
  intro sourceMany targetMany
  refine ⟨fun s r s' hcompletes => ?_, fun connection c c' v h => ?_⟩
  · have hread := ofRows_eq_ok_iff (hw.answers_stats hpairs hsource htarget hcompletes)
    constructor
    · rintro ⟨found, hfound⟩
      obtain ⟨hsource, htarget, -⟩ := (hread found).1 hfound
      exact ⟨hsource, htarget⟩
    · rintro ⟨hsource, htarget⟩
      exact ⟨_, (hread _).2 ⟨hsource, htarget, rfl⟩⟩
  · obtain ⟨hover₁, hover₂⟩ := validateEdge_over hw hsource htarget h
    have hmany₁ : v.source.isMany = true ↔ sourceMany := by rw [hover₁, isMany_over]
    have hmany₂ : v.target.isMany = true ↔ targetMany := by rw [hover₂, isMany_over]
    have hdetects := detects_classify v.source v.target
    rw [hmany₁, hmany₂] at hdetects
    refine ⟨hmany₁, hmany₂, hdetects, fun connection' c₁ c₁' v' h' => ?_⟩
    obtain ⟨hover₁', hover₂'⟩ := validateEdge_over hw htarget hsource h'
    have hswap₁ : v'.source = v.target := by
      rw [hover₁', hover₂, List.map_map]
      rfl
    have hswap₂ : v'.target = v.source := by
      rw [hover₂', hover₁, List.map_map]
      rfl
    rw [EdgeValidation.detected, hswap₁, hswap₂, classify_swap]
    rfl

/-! ### A warehouse that counts -/

theorem exists_of_mapM {α β : Type} {f : α → Option β} {l : List α} {bs : List β} (h : l.mapM f = some bs) :
    ∀ a ∈ l, ∃ b, f a = some b := by
  induction l generalizing bs with
  | nil => exact fun a ha => absurd ha List.not_mem_nil
  | cons a l ih =>
    rw [List.mapM_cons] at h
    obtain ⟨b, hb, h⟩ := Option.bind_eq_some_iff.1 h
    obtain ⟨bs', hbs, -⟩ := Option.bind_eq_some_iff.1 h
    exact List.forall_mem_cons.2 ⟨⟨b, hb⟩, ih hbs⟩

theorem exists_eq_map_column {es : List Expr} (h : ∀ e ∈ es, ∃ name, e.columnName? = some name) :
    ∃ columns : List String, es = columns.map (.column none) := by
  induction es with
  | nil => exact ⟨[], rfl⟩
  | cons e es ih =>
    obtain ⟨⟨name, hname⟩, hes⟩ := List.forall_mem_cons.1 h
    obtain ⟨columns, rfl⟩ := ih hes
    unfold Expr.columnName? at hname
    split at hname
    · exact ⟨_ :: columns, rfl⟩
    · cases hname

theorem isCount_of_over {e : Expr} {rows : List (TableRow V)} {v : Value} (h : e.over? rows = some v) : e.IsCount := by
  unfold Expr.over? at h
  split at h
  · exact .label _
  · exact .rows
  · obtain ⟨names, hnames, -⟩ := Option.bind_eq_some_iff.1 h
    obtain ⟨columns, hcolumns⟩ := exists_eq_map_column (exists_of_mapM hnames)
    rw [hcolumns]
    refine .keys ?_
    rintro rfl
    cases hcolumns
  · cases h

/-- A query that has an answer over tables with names is one that counts. -/
theorem isTally_of_answer (hnamed : ∀ table rows, tables table = some rows → ∃ names ≠ [], table = fullName names)
    {q : Query} {answer : Members} (h : q.answer? tables = some answer) : q.IsTally := by
  obtain ⟨items, ⟨table, alias?⟩, joins, filters, groupByAll⟩ := q
  rw [Query.answer?, ite_eq_iff] at h
  obtain ⟨hshape, h⟩ | ⟨-, h⟩ := h
  · simp only [Bool.and_eq_true, Option.isNone_iff_eq_none, List.isEmpty_iff, Bool.not_eq_true'] at hshape
    obtain ⟨⟨⟨⟨rfl, rfl⟩, rfl⟩, rfl⟩, hany⟩ := hshape
    obtain ⟨rows, hrows, h⟩ := Option.bind_eq_some_iff.1 h
    obtain ⟨members, hmembers, -⟩ := Option.bind_eq_some_iff.1 h
    obtain ⟨names, hnames, rfl⟩ := hnamed table rows hrows
    refine .of hnames ?_ fun i hi => ?_
    · rintro rfl
      cases hany
    · obtain ⟨member, hm⟩ := exists_of_mapM hmembers i hi
      obtain ⟨name, hname, hm⟩ := Option.bind_eq_some_iff.1 hm
      obtain ⟨v, hv, -⟩ := Option.bind_eq_some_iff.1 hm
      exact ⟨isCount_of_over hv, Option.isSome_of_eq_some hname⟩
  · cases h

end

/-- A warehouse that knows the answer to one text, and gives its rows in the other order. -/
def knowing (sql : String) (rows : List Members) : Warehouse Unit Unit where
  connect _ := return ()
  openSession := return ()
  execute text := if text = sql then return () else Task.fail (.execution "unknown statement")
  fetch _ := return rows.reverse
  schema _ := return ["side", "total_rows", "distinct_keys"]
  closeOperation _ := return ()
  closeSession := return ()
  closeClient := return ()

/-- A warehouse that knows the answer to one union counts the rows and keys of the tables: it completes no other text,
and the text is no other union. -/
theorem answersUnions_knowing {V : Type} [DecidableEq V] {tables : String → Option (List (TableRow V))}
    (hnamed : ∀ table rows, tables table = some rows → ∃ names ≠ [], table = fullName names) {queries : List Query}
    {answers : List Members} (hne : queries ≠ []) (hanswers : queries.mapM (·.answer? tables) = some answers) :
    AnswersUnions (knowing (unionText queries) answers) tables := by
  have htally {queries : List Query} {answers : List Members} (h : queries.mapM (·.answer? tables) = some answers) :
      ∀ q ∈ queries, q.IsTally := fun q hq => by
    obtain ⟨answer, hanswer⟩ := exists_of_mapM h q hq
    exact isTally_of_answer hnamed hanswer
  intro queries' answers' hne' _ hanswers' s r s' hcompletes
  obtain ⟨operation, s₁, s₂, hexecute, hreads, -⟩ := hcompletes
  have htext : unionText queries' = unionText queries := by
    by_contra hother
    have hfails : (knowing (unionText queries) answers).execute (unionText queries') =
        Task.fail (.execution "unknown statement") := if_neg hother
    rw [hfails] at hexecute
    cases hexecute
  obtain rfl := unionText_inj hne' hne (htally hanswers') (htally hanswers) htext
  obtain rfl := Option.some.inj (hanswers.symm.trans hanswers')
  have hrows : r.rows = answers.reverse := by
    cases hreads with
    | read hfetch => exact (Outcome.returned.inj (Prod.mk.inj hfetch).1).symm
  rw [hrows]
  exact ⟨_, List.forall₂_same.2 fun _ _ key v h => ⟨v, h, Or.inl rfl⟩, List.reverse_perm _⟩

/-- An order of each of two customers, and an order of nobody. -/
def orderRows : List (TableRow Nat) :=
  [fun _ => some 1, fun _ => some 2, fun _ => none]

/-- Two customers. -/
def customerRows : List (TableRow Nat) :=
  [fun _ => some 1, fun _ => some 2]

/-- The tables of the orders and of the customers. -/
def ordersAndCustomers (table : String) : Option (List (TableRow Nat)) :=
  if table = fullName ["shop", "orders"] then some orderRows
  else if table = fullName ["customers"] then some customerRows
  else none

theorem exists_names_of_ordersAndCustomers {table : String} {rows : List (TableRow Nat)}
    (h : ordersAndCustomers table = some rows) : ∃ names ≠ [], table = fullName names := by
  unfold ordersAndCustomers at h
  split at h
  · exact ⟨_, List.cons_ne_nil _ _, ‹_›⟩
  · split at h
    · exact ⟨_, List.cons_ne_nil _ _, ‹_›⟩
    · cases h

/-- The theorem at these tables. -/
theorem validateEdge_detects_orders :
    let pairs : List KeyPair := [⟨"customer_id", "id"⟩]
    let orders : Locator := ⟨"orders", some "shop"⟩
    let customers : Locator := ⟨"customers", none⟩
    let w := knowing (Stats.query orders customers pairs) (Stats.countedRows orderRows customerRows pairs)
    pairs ≠ [] ∧ AnswersUnions w ordersAndCustomers ∧ ordersAndCustomers orders.qualified = some orderRows ∧
      ordersAndCustomers customers.qualified = some customerRows ∧
      ∃ c' v, Validator.validateEdge w ⟨"c", "", "", ""⟩ orders customers pairs { scene := { world := () } } =
        (.returned v, c') ∧ v.detected = .manyToOne := by
  intro pairs orders customers w
  have hpairs : pairs ≠ [] := List.cons_ne_nil _ _
  have horders : ordersAndCustomers orders.qualified = some orderRows := if_pos (by decide +kernel)
  have hcustomers : ordersAndCustomers customers.qualified = some customerRows :=
    (if_neg (by decide +kernel)).trans (if_pos (by decide +kernel))
  have hw : AnswersUnions w ordersAndCustomers :=
    answersUnions_knowing (fun _ _ => exists_names_of_ordersAndCustomers) (List.cons_ne_nil _ _)
      (answers_sides hpairs horders hcustomers)
  refine ⟨hpairs, hw, horders, hcustomers, ?_⟩
  have hreturned : (Validator.validateEdge w ⟨"c", "", "", ""⟩ orders customers pairs
      { scene := { world := () } }).1.isReturned = true := by
    decide +kernel
  obtain ⟨v, c', h⟩ := exists_of_isReturned hreturned
  obtain ⟨-, hall⟩ := validateEdge_detects hpairs hw horders hcustomers
  obtain ⟨-, -, hdetects, -⟩ := hall _ _ _ _ h
  have hmany : Many (pairs.map (·.fromColumn)) orderRows := (keyCount_lt_iff _ _).1 (by decide +kernel)
  have hone : ¬ Many (pairs.map (·.toColumn)) customerRows :=
    fun hmany => absurd ((keyCount_lt_iff _ _).2 hmany) (by decide +kernel)
  exact ⟨c', v, h, hdetects.manyToOne.2 ⟨hmany, hone⟩⟩

end JoinCanvas
