import JoinCanvas.Proofs.Sync.Completeness
import JoinCanvas.Proofs.Sync.Selections
import Mathlib.Data.List.Induction

/-!
# What is recorded of a query

A part of a query that is read completely is recorded without loss.  The selected items stand in groups, one for each
table that they select of, and every condition of the `WHERE` clause has its own place.

* `groups_push`: one more item goes to the end of its group, or starts one.
* `conjuncts_eq_leaves`: parentheses that hide a conjunction make a query unreadable.
* `ofText_complete`: items and conditions, one by one.
-/

namespace JoinCanvas

open JoinCanvas.Statement

namespace Statement

/-- The column that an expression names, in any parentheses: the last part of the name. -/
def Expr.columnName? (e : Expr) : Option String :=
  e.path?.map fun path => (path.getLast?.map (·.value)).getD ""

/-- The column that an item selects, with the aggregate function over it. -/
def SelectItem.selects? : SelectItem → Option (String × Aggregation)
  | .wildcard _ => none
  | .expr (.call function argument _ _ _) _ =>
    argument.columnName?.bind fun column => (Aggregation.ofFunctionName? function).map (column, ·)
  | .expr e _ => e.columnName?.map (·, .none)

/-- The name that is chosen for an item, unless it is empty. -/
def SelectItem.name? : SelectItem → Option String
  | .wildcard _ => none
  | .expr _ alias? => (alias?.map (·.value)).filter (· ≠ "")

/-- The column that a condition is about. -/
def Expr.testedColumn? : Expr → Option String
  | .binary _ left _ => left.columnName?
  | .like e _ _ _ _ => e.columnName?
  | .isIn e _ _ => e.columnName?
  | .isNull e _ => e.columnName?
  | _ => none

/-- Whether an expression is a conjunction, in any parentheses. -/
def Expr.joinsConditions : Expr → Bool
  | .binary operator _ _ => operator == "AND"
  | .nested e => e.joinsConditions
  | _ => false

/-- The leaves of a tree of conjunctions, from left to right, whatever parentheses stand around its branches. -/
def Expr.leaves : Expr → List Expr
  | .binary operator left right =>
    if operator = "AND" then left.leaves ++ right.leaves else [.binary operator left right]
  | .nested e => if e.joinsConditions then e.leaves else [.nested e]
  | e => [e]

/-- The leaves of the `WHERE` clause. -/
def Select.leaves (s : Select) : List Expr :=
  (s.condition?.map Expr.leaves).getD []

end Statement

/-- Selections in groups, one for each table in the order of first appearance; a group keeps the order. -/
structure Groups (ss : List TableSelection) (picked : List (String × Selection)) : Prop where
  tables : ss.map (·.table) = (picked.map (·.1)).eraseDups
  nodup : (ss.map (·.table)).Nodup
  columns : ∀ s ∈ ss, s.columns = (picked.filter (·.1 = s.table)).map (·.2)

/-- What an item is recorded as: the column and the aggregate that it selects, under its name if it has one, as a
visible selection of a table. -/
structure RecordedAs (s : Scope) (i : SelectItem) (id : String) (x : Selection) : Prop where
  read : s.Selects i id x
  table : id ∈ s.tables.map (·.id)
  selects : i.selects? = some (x.column, x.aggregation)
  visible : x.hidden = false
  name : x.outputAlias? = i.name?.or x.defaultAlias?

/-- What a condition is recorded as: its column, operator and value on a table. -/
structure TestedAs (s : Scope) (e : Statement.Expr) (c : Condition) : Prop where
  read : s.Tests e c
  table : c.table ∈ s.tables.map (·.id)
  column : e.testedColumn? = some c.column

/-! ### Groups -/

theorem tables_push (table : String) (column : Selection) (ss : List TableSelection) :
    (pushSelection table column ss).map (·.table) =
      if table ∈ ss.map (·.table) then ss.map (·.table) else ss.map (·.table) ++ [table] := by
  induction ss with
  | nil => rfl
  | cons s ss ih =>
    unfold pushSelection
    by_cases h : s.table = table
    · simp [h]
    · have hne : ¬ table = s.table := fun e => h e.symm
      rw [if_neg h, List.map_cons, ih]
      by_cases hmem : table ∈ ss.map (·.table)
      · rw [if_pos hmem, if_pos (by simp only [List.map_cons, List.mem_cons, hmem, or_true])]
        rfl
      · rw [if_neg hmem, if_neg (by simp only [List.map_cons, List.mem_cons, hmem, hne, or_self, not_false_eq_true])]
        rfl

theorem columnsAt_of_mem {ss : List TableSelection} (h : (ss.map (·.table)).Nodup) {s : TableSelection}
    (hs : s ∈ ss) : columnsAt ss s.table = s.columns := by
  induction ss with
  | nil => exact absurd hs List.not_mem_nil
  | cons t ss ih =>
    obtain ⟨ht, hnodup⟩ := List.nodup_cons.1 h
    rw [columnsAt_cons]
    rcases List.mem_cons.1 hs with rfl | hs
    · rw [if_pos rfl]
    · have hne : t.table ≠ s.table := fun he => ht (List.mem_map.2 ⟨s, hs, he.symm⟩)
      rw [if_neg hne, ih hnodup hs]

/-- The columns of a table among grouped selections. -/
theorem Groups.columnsAt_eq {ss : List TableSelection} {picked : List (String × Selection)} (h : Groups ss picked)
    (id : String) : columnsAt ss id = (picked.filter (·.1 = id)).map (·.2) := by
  by_cases hid : id ∈ ss.map (·.table)
  · obtain ⟨s, hs, rfl⟩ := List.mem_map.1 hid
    rw [columnsAt_of_mem h.nodup hs, h.columns s hs]
  · have hnone : ss.find? (·.table = id) = none := by
      refine List.find?_eq_none.2 fun s hs he => ?_
      exact hid (of_decide_eq_true he ▸ List.mem_map_of_mem hs)
    have hpicked : picked.filter (·.1 = id) = [] := by
      refine List.filter_eq_nil_iff.2 fun x hx he => ?_
      have hx : x.1 ∈ (picked.map (·.1)).eraseDups := List.mem_eraseDups.2 (List.mem_map_of_mem hx)
      rw [← h.tables, of_decide_eq_true he] at hx
      exact hid hx
    rw [columnsAt, hnone, hpicked]
    rfl

theorem groups_nil : Groups [] [] :=
  ⟨rfl, List.nodup_nil, nofun⟩

/-- One more selection goes to the end of the group of its table, or starts one. -/
theorem groups_push {ss : List TableSelection} {picked : List (String × Selection)} (h : Groups ss picked)
    (x : String × Selection) : Groups (pushSelection x.1 x.2 ss) (picked ++ [x]) := by
  have htables := tables_push x.1 x.2 ss
  have hnodup : ((pushSelection x.1 x.2 ss).map (·.table)).Nodup := by
    rw [htables]
    split
    · exact h.nodup
    · next hx => exact h.nodup.append (List.nodup_singleton _) (List.disjoint_singleton.2 hx)
  refine ⟨?_, hnodup, fun s hs => ?_⟩
  · have hmem : x.1 ∈ ss.map (·.table) ↔ x.1 ∈ picked.map (·.1) := by rw [h.tables, List.mem_eraseDups]
    have hnew : [x.1].removeAll (picked.map (·.1)) = if x.1 ∈ ss.map (·.table) then [] else [x.1] := by
      rw [List.removeAll, List.filter_singleton]
      by_cases hx : x.1 ∈ ss.map (·.table) <;> simp only [List.elem_eq_mem, ← hmem, hx] <;> rfl
    rw [htables, List.map_append, List.eraseDups_append, ← h.tables, List.map_singleton, hnew]
    by_cases hx : x.1 ∈ ss.map (·.table)
    · rw [if_pos hx, if_pos hx, List.eraseDups_nil, List.append_nil]
    · rw [if_neg hx, if_neg hx]
      rfl
  · rw [← columnsAt_of_mem hnodup hs, columnsAt_push, h.columnsAt_eq, List.filter_append, List.map_append]
    by_cases hx : x.1 = s.table <;> simp [hx]

/-- Selections that are recorded one after another stand in groups. -/
theorem groups_foldl (picked : List (String × Selection)) :
    Groups (picked.foldl (fun ss x => pushSelection x.1 x.2 ss) []) picked := by
  induction picked using List.reverseRecOn with
  | nil => exact groups_nil
  | append_singleton picked x ih =>
    rw [List.foldl_concat]
    exact groups_push ih x

/-! ### Items -/

namespace Scope

variable {s : Scope} {e : Statement.Expr} {i : SelectItem} {id column : String} {x : Selection}

theorem Names.columnName (h : s.Names e id column) : e.columnName? = some column := by
  obtain ⟨path, hpath, hcolumn, -⟩ := h.exists_path
  rw [Expr.columnName?, hpath, Option.map_some, hcolumn]

/-- The name of a selection that is read: the chosen one, or the default. -/
theorem outputAlias_withAlias (column : String) (aggregation : Aggregation) (alias? : Option String) :
    let x := withAlias { column, aggregation } alias?
    x.outputAlias? = (alias?.filter (· ≠ "")).or x.defaultAlias? := by
  intro x
  cases alias? with
  | none => rfl
  | some a =>
    by_cases hdefault : ({ column, aggregation } : Selection).outputAlias? = some a
    · have hx : x = { column, aggregation } := if_pos hdefault
      have hsame : x.outputAlias? = x.defaultAlias? := by rw [hx]; rfl
      have ha : x.defaultAlias? = some a := by rw [← hsame, hx, hdefault]
      rw [hsame, ha]
      by_cases hempty : a = ""
      · rw [Option.filter_some_neg (by simp [hempty]), Option.none_or]
      · rw [Option.filter_some_pos (by simp [hempty]), Option.some_or]
    · have hx : x = { column, aggregation, alias? := some a } := if_neg hdefault
      rw [hx, Selection.outputAlias?]
      by_cases hempty : a = ""
      · rw [Option.filter_some_neg (by simp [hempty]), Option.none_or]
        exact if_pos hempty
      · rw [Option.filter_some_pos (by simp [hempty]), Option.some_or]
        exact if_neg hempty

theorem selects_of_names (h : s.Names e id column) (alias? : Option Ident) :
    (SelectItem.expr e alias?).selects? = some (column, .none) := by
  have hselects : (SelectItem.expr e alias?).selects? = e.columnName?.map (·, .none) := by
    obtain ⟨path, hpath, -⟩ := h
    cases e with
    | name path | nested e => rfl
    | _ => simp [Expr.path?] at hpath
  rw [hselects, h.columnName]
  rfl

theorem withAlias_column (x : Selection) (alias? : Option String) :
    (withAlias x alias?).column = x.column ∧ (withAlias x alias?).aggregation = x.aggregation ∧
      (withAlias x alias?).hidden = x.hidden := by
  unfold withAlias
  split
  · split <;> exact ⟨rfl, rfl, rfl⟩
  · exact ⟨rfl, rfl, rfl⟩

/-- An item that is read is recorded for what it selects. -/
theorem Selects.recordedAs (h : s.Selects i id x) (hs : s.Founded) : RecordedAs s i id x := by
  refine ⟨h, hs.selects_mem h, ?_, ?_, ?_⟩
  · cases h with
    | plain hnames =>
      obtain ⟨hcolumn, haggregation, -⟩ := withAlias_column { column := _ } _
      rw [selects_of_names hnames, hcolumn, haggregation]
    | aggregate hfunction hnames =>
      obtain ⟨hcolumn, haggregation, -⟩ := withAlias_column { column := _, aggregation := _ } _
      rw [SelectItem.selects?, hnames.columnName, hfunction, hcolumn, haggregation]
      rfl
  · cases h with
    | plain hnames => exact (withAlias_column { column := _ } _).2.2
    | aggregate hfunction hnames => exact (withAlias_column { column := _, aggregation := _ } _).2.2
  · cases h with
    | plain hnames => exact outputAlias_withAlias _ .none _
    | aggregate hfunction hnames => exact outputAlias_withAlias _ _ _

/-- A condition that is read is recorded for what it says. -/
theorem Tests.testedAs {c : Condition} (h : s.Tests e c) (hs : s.Founded) : TestedAs s e c := by
  refine ⟨h, hs.tests_mem h, ?_⟩
  cases h with
  | compare hop hvalue hnames => exact hnames.columnName
  | like hvalue hnames => exact hnames.columnName
  | isIn hvalues hnames => exact hnames.columnName
  | isNull hnames => exact hnames.columnName
  | isNotNull hnames => exact hnames.columnName

end Scope

/-! ### Conditions -/

theorem Statement.Expr.joinsConditions_of_isAnd {e : Statement.Expr} (h : e.isAnd = true) :
    e.joinsConditions = true := by
  cases e with
  | binary operator left right => exact h
  | _ => cases h

/-- When no conjunct stands in parentheses, the conjuncts are the leaves. -/
theorem conjuncts_eq_leaves {e : Statement.Expr} (h : ∀ d, .nested d ∉ e.conjuncts) : e.conjuncts = e.leaves := by
  fun_induction Expr.conjuncts e with
  | case1 left right ihl ihr =>
    have hl := ihl fun d hd => h d (List.mem_append_left _ hd)
    have hr := ihr fun d hd => h d (List.mem_append_right _ hd)
    rw [Expr.leaves, if_pos rfl, hl, hr]
  | case2 operator left right hne => rw [Expr.leaves, if_neg hne]
  | case3 e hand ih => rw [Expr.leaves, if_pos (Expr.joinsConditions_of_isAnd hand), ih h]
  | case4 e hnot => exact absurd List.mem_cons_self (h e)
  | case5 e hbinary hnested =>
    rw [Expr.leaves]
    · exact hbinary
    · exact hnested

namespace Sync

variable {tables : List Table} {q : Query} {s : Select}

theorem items_complete (h : (ofSelect tables q s).selectionsComplete = true) :
    ∃ picked : List (String × Selection),
      List.Forall₂ (fun i x => RecordedAs (Scope.ofTables tables s.tables).1 i x.1 x.2) s.items picked ∧
        Groups (ofSelect tables q s).selections picked := by
  obtain ⟨hfounded, -, -⟩ := Scope.founded_ofTables tables s.tables
  rw [ofSelect_eq] at h ⊢
  generalize (Scope.ofTables tables s.tables).1 = scope at hfounded h ⊢
  have hpicks : List.Forall₂ (fun i x => scope.pick? i = some x) s.items (s.items.filterMap scope.pick?) :=
    forall₂_filterMap fun i hi => Option.isSome_iff_exists.1 (List.all_eq_true.1 h i hi)
  refine ⟨_, hpicks.imp fun i x hx => ?_, groups_foldl _⟩
  exact (Scope.pick_eq_some_iff.1 hx).recordedAs hfounded

theorem conditions_complete (h : (ofSelect tables q s).filtersComplete = true) :
    List.Forall₂ (TestedAs (Scope.ofTables tables s.tables).1) s.leaves (ofSelect tables q s).conditions := by
  obtain ⟨hfounded, -, -⟩ := Scope.founded_ofTables tables s.tables
  rw [ofSelect_eq] at h ⊢
  generalize (Scope.ofTables tables s.tables).1 = scope at hfounded h ⊢
  have hread : ∀ e ∈ s.conjuncts, ∃ c, scope.condition e = .ok c := fun e he => by
    have hok := List.all_eq_true.1 h e he
    cases hcondition : scope.condition e with
    | error u => simp [hcondition, Except.isOk, Except.toBool] at hok
    | ok c => exact ⟨c, rfl⟩
  have hleaves : s.conjuncts = s.leaves := by
    unfold Select.conjuncts Select.leaves
    cases hwhere : s.condition? with
    | none => rfl
    | some e =>
      refine conjuncts_eq_leaves fun d hd => ?_
      -- a condition in parentheses of its own is no condition that is read
      obtain ⟨c, hc⟩ := hread (.nested d) (by rw [Select.conjuncts, hwhere]; exact hd)
      cases Scope.condition_eq_ok_iff.1 hc
  have hconditions : List.Forall₂ (fun e c => (scope.condition e).toOption = some c) s.conjuncts
      (s.conjuncts.filterMap fun e => (scope.condition e).toOption) :=
    forall₂_filterMap fun e he => (hread e he).imp fun c hc => toOption_eq_some_iff.2 hc
  rw [← hleaves]
  refine hconditions.imp fun e c hc => ?_
  exact (Scope.condition_eq_ok_iff.1 (toOption_eq_some_iff.1 hc)).testedAs hfounded

end Sync

open Sync

/-- What is understood completely of a text is recorded one by one, whichever texts `read` accepts.  Every selected item
has its column and aggregate in the group of its table, visible and under its name, and every leaf of the `WHERE` clause
has its column, operator and value, in order. -/
theorem ofText_complete {read : Reader} {m : Model} {sql : String} {y : Sync} (hy : ofText read sql m = .ok y) :
    ∃ q s, read sql = some [.query q] ∧ q.body = .select s ∧
      let scope := (Scope.ofTables m.tables s.tables).1
      scope.tables = m.tables ∧
      (y.selectionsComplete = true → ∃ picked : List (String × Selection),
        List.Forall₂ (fun i x => RecordedAs scope i x.1 x.2) s.items picked ∧ Groups y.selections picked) ∧
      (y.filtersComplete = true → List.Forall₂ (TestedAs scope) s.leaves y.conditions) := by
  obtain ⟨q, s, hread, hbody, rfl⟩ := ofText_eq_ok_iff.1 hy
  obtain ⟨-, htables, -⟩ := Scope.founded_ofTables m.tables s.tables
  exact ⟨q, s, hread, hbody, htables, items_complete, conditions_complete⟩

/-- A hand-written query with two columns of one table around an aggregate of another under its default name, and a
conjunction in parentheses. -/
def tradeSql : String :=
  "SELECT \x60o\x60.\x60x\x60 AS \x60n\x60, SUM(\x60p\x60.\x60y\x60) AS \x60sum_y\x60, " ++
    "\x60o\x60.\x60z\x60 AS \x60z\x60 FROM \x60orders\x60 AS \x60o\x60, \x60parts\x60 AS \x60p\x60 " ++
    "WHERE (\x60o\x60.\x60x\x60 = 1 AND \x60p\x60.\x60y\x60 IS NULL)"

/-- A model with that query, in which an identifier is repeated and some selections are hidden. -/
def tradeModel : Model where
  id := "trade"
  tables :=
    [{ id := "a", name := "orders", selections := [⟨"id", .none, none, true⟩, ⟨"state", .none, none, false⟩] },
      { id := "b", name := "parts" }, { id := "a", name := "orders_old", selections := [⟨"old", .none, none, true⟩] }]
  filters := .manual tradeSql

theorem ofSql_trade : ∃ y, ofSql tradeSql tradeModel = .ok y ∧ y.selectionsComplete = true ∧
    y.filtersComplete = true := by
  have hparts : ((ofSql tradeSql tradeModel).toOption.map fun y => (y.selectionsComplete, y.filtersComplete)) =
      some (true, true) := by decide +kernel
  obtain ⟨y, hy, hcomplete⟩ := Option.map_eq_some_iff.1 hparts
  exact ⟨y, toOption_eq_some_iff.1 hy, Prod.mk.inj hcomplete⟩

/-- The theorem at that query, which is read completely. -/
theorem ofText_complete_trade : ∃ y, ofSql tradeSql tradeModel = .ok y ∧ y.selectionsComplete = true ∧
    y.filtersComplete = true ∧
    ∃ q s, Statement.read tradeSql = some [.query q] ∧ q.body = .select s ∧
      let scope := (Scope.ofTables tradeModel.tables s.tables).1
      scope.tables = tradeModel.tables ∧
      (y.selectionsComplete = true → ∃ picked : List (String × Selection),
        List.Forall₂ (fun i x => RecordedAs scope i x.1 x.2) s.items picked ∧ Groups y.selections picked) ∧
      (y.filtersComplete = true → List.Forall₂ (TestedAs scope) s.leaves y.conditions) := by
  obtain ⟨y, hy, hselections, hfilters⟩ := ofSql_trade
  exact ⟨y, hy, hselections, hfilters, ofText_complete hy⟩

end JoinCanvas
