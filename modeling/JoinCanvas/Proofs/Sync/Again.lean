import JoinCanvas.Proofs.Sync.Recorded

/-!
# Reading a query again

The names of a query are looked up among the identifiers, names, schemas and columns of the tables, never among their
selections.  A sync changes selections only, so on the canvas that it leaves every query is read as before; and what it
records is visible, so that putting it on the canvas again finds the same hidden selections to keep.

* `ofSelect_unselected`: a query is read without a look at the selections.
* `ofText_apply`: a sync changes the reading of no query.
* `apply_apply`: a sync that is put on a canvas again changes nothing.
* `sync_again`: both for the same text, and what a sync leaves alone.
-/

namespace JoinCanvas

open JoinCanvas.Statement

/-- The table without its selections. -/
def Table.unselected (t : Table) : Table :=
  { t with selections := [] }

/-- The table with only its hidden selections. -/
def Table.withoutVisible (t : Table) : Table :=
  { t with selections := t.hiddenSelections }

/-! ### Names -/

theorem tableOfAlias_go_map (f : Table → Table) (tables : List Table) (name : String) (place : Nat) :
    tableOfAlias?.go name place (tables.map f) = (tableOfAlias?.go name place tables).map f := by
  induction tables generalizing place with
  | nil => rfl
  | cons t tables ih =>
    rw [List.map_cons, tableOfAlias?.go, tableOfAlias?.go]
    split
    · rfl
    · exact ih (place + 1)

theorem matchTable_unselected (tables : List Table) (path : List String) (alias? : Option String) :
    matchTable? (tables.map Table.unselected) path alias? = (matchTable? tables path alias?).map Table.unselected := by
  have halias : alias?.bind (tableOfAlias? (tables.map Table.unselected)) =
      (alias?.bind (tableOfAlias? tables)).map Table.unselected := by
    cases alias? with
    | none => rfl
    | some name => exact tableOfAlias_go_map Table.unselected tables name 0
  unfold matchTable?
  rw [halias]
  cases alias?.bind (tableOfAlias? tables) with
  | some t => rfl
  | none =>
    cases path.getLast? with
    | none => rfl
    | some name => exact List.find?_map

namespace Scope

variable (s : Scope)

/-- The scope over the tables without their selections. -/
def unselected : Scope :=
  { s with tables := s.tables.map Table.unselected }

theorem relation_unselected (r : Relation) : s.unselected.relation r = (s.relation r).map unselected := by
  cases r with
  | table path arguments alias? after =>
    simp only [relation, unselected, matchTable_unselected]
    cases matchTable? s.tables (path.map (·.value)) (alias?.map (·.value)) <;> rfl
  | derived text => rfl
  | nested text => rfl
  | other text => rfl

theorem relations_unselected (rs : List Relation) :
    s.unselected.relations rs = ((s.relations rs).1.unselected, (s.relations rs).2) := by
  induction rs generalizing s with
  | nil => rfl
  | cons r rs ih =>
    rw [relations, relations, relation_unselected]
    cases s.relation r with
    | ok s' => exact ih s'
    | error u =>
      simp only [Except.map]
      rw [ih]

theorem ofTables_unselected (tables : List Table) (items : List FromItem) :
    ofTables (tables.map Table.unselected) items =
      ((ofTables tables items).1.unselected, (ofTables tables items).2) :=
  relations_unselected { tables } _

theorem hasColumn_unselected (id column : String) : s.unselected.hasColumn id column = s.hasColumn id column := by
  have hfind : s.unselected.tables.find? (·.id = id) = (s.tables.find? (·.id = id)).map Table.unselected :=
    List.find?_map
  rw [hasColumn, hasColumn, hfind, Option.any_map]
  rfl

theorem bare_unselected (column : String) : s.unselected.bare column = s.bare column := by
  unfold bare
  simp only [hasColumn_unselected]
  rfl

theorem column_unselected (e : Statement.Expr) : s.unselected.column e = s.column e := by
  fun_induction Scope.column s e with
  | case1 i => exact s.bare_unselected i.value
  | case2 path hpath column qualifier id hid =>
    have hid' : s.unselected.qualifier? qualifier = some id := hid
    rw [Scope.column.eq_2 _ _ hpath, hid']
  | case3 path hpath column qualifier hnone =>
    have hnone' : s.unselected.qualifier? qualifier = none := hnone
    rw [Scope.column.eq_2 _ _ hpath, hnone']
  | case4 e ih => exact ih
  | case5 e hbare hname hnested => rw [Scope.column.eq_4 _ _ hbare hname hnested]

theorem pick_unselected (i : SelectItem) :
    s.unselected.pick? i = s.pick? i ∧ s.unselected.itemReason? i = s.itemReason? i := by
  have hselection (e : Statement.Expr) (alias? : Option String) :
      s.unselected.selection e alias? = s.selection e alias? := by
    simp only [selection, selected, column_unselected]
  cases i with
  | wildcard text => exact ⟨rfl, rfl⟩
  | expr e alias? => simp only [pick?, itemReason?, hselection, and_self]

theorem condition_unselected (e : Statement.Expr) : s.unselected.condition e = s.condition e := by
  have hon : s.unselected.conditionOn = s.conditionOn := by
    funext e op value
    simp only [conditionOn, column_unselected]
  unfold condition
  rw [hon]

end Scope

namespace Sync

/-- A query is read without a look at the selections of a canvas. -/
theorem ofSelect_unselected (tables : List Table) (q : Query) (s : Select) :
    ofSelect (tables.map Table.unselected) q s = ofSelect tables q s := by
  simp only [ofSelect_eq, reports, Scope.ofTables_unselected, Scope.condition_unselected]
  generalize (Scope.ofTables tables s.tables).1 = scope
  have hpick : scope.unselected.pick? = scope.pick? := funext fun i => (scope.pick_unselected i).1
  have hreason : scope.unselected.itemReason? = scope.itemReason? := funext fun i => (scope.pick_unselected i).2
  rw [hpick, hreason]

theorem ofText_congr {m m' : Model} (h : m.tables.map Table.unselected = m'.tables.map Table.unselected)
    (read : Reader) (sql : String) : ofText read sql m = ofText read sql m' := by
  have hsame : ofSelect m.tables = ofSelect m'.tables := by
    funext q s
    rw [← ofSelect_unselected m.tables, h, ofSelect_unselected]
  unfold ofText
  rw [hsame]

theorem unselected_apply (y : Sync) (m : Model) :
    (y.apply m).tables.map Table.unselected = m.tables.map Table.unselected := by
  unfold apply
  split
  · exact List.map_map
  · rfl

/-- A sync changes the reading of no query. -/
theorem ofText_apply (y : Sync) (read : Reader) (sql : String) (m : Model) :
    ofText read sql (y.apply m) = ofText read sql m :=
  ofText_congr (y.unselected_apply m) read sql

/-! ### What is recorded is visible -/

/-- No recorded column is hidden. -/
def AllVisible (y : Sync) : Prop :=
  ∀ id, ∀ x ∈ y.columnsOf id, x.hidden = false

theorem allVisible_ofSelect (tables : List Table) (q : Query) (s : Select) : (ofSelect tables q s).AllVisible := by
  intro id x hx
  obtain ⟨hfounded, -, -⟩ := Scope.founded_ofTables tables s.tables
  have hcolumns := (groups_foldl (s.items.filterMap (Scope.ofTables tables s.tables).1.pick?)).columnsAt_eq id
  rw [columnsOf, ofSelect_eq, ← columnsAt, hcolumns] at hx
  obtain ⟨⟨id', x'⟩, hpicked, rfl⟩ := List.mem_map.1 hx
  obtain ⟨i, -, hpick⟩ := List.mem_filterMap.1 (List.mem_of_mem_filter hpicked)
  exact ((Scope.pick_eq_some_iff.1 hpick).recordedAs hfounded).visible

variable {y : Sync}

theorem hiddenSelections_table (h : y.AllVisible) (t : Table) : (y.table t).hiddenSelections = t.hiddenSelections := by
  have hhidden : t.hiddenSelections.filter (·.hidden) = t.hiddenSelections := by
    simp only [Table.hiddenSelections, List.filter_filter, Bool.and_self]
  have hrecorded : (y.columnsOf t.id).filter (·.hidden) = [] :=
    List.filter_eq_nil_iff.2 fun x hx => by simp [h t.id x hx]
  calc (y.table t).hiddenSelections
      = t.hiddenSelections.filter (·.hidden) ++ (y.columnsOf t.id).filter (·.hidden) := List.filter_append ..
    _ = t.hiddenSelections := by rw [hhidden, hrecorded, List.append_nil]

theorem table_table (h : y.AllVisible) (t : Table) : y.table (y.table t) = y.table t := by
  rw [table, hiddenSelections_table h]
  rfl

/-- A sync that is put on a canvas again changes nothing. -/
theorem apply_apply (h : y.AllVisible) (m : Model) : y.apply (y.apply m) = y.apply m := by
  have htables : (y.apply (y.apply m)).tables = (y.apply m).tables := by
    by_cases hcomplete : y.selectionsComplete = true
    · simp only [apply, if_pos hcomplete, List.map_map]
      exact List.map_congr_left fun t _ => table_table h t
    · simp only [apply, if_neg hcomplete]
  have hfilters : (y.apply (y.apply m)).filters = (y.apply m).filters := by
    by_cases hcomplete : y.filtersComplete = true
    · simp only [apply, if_pos hcomplete]
    · simp only [apply, if_neg hcomplete, Filters.list]
  exact congrArg₂ (fun tables filters => { m with tables, filters, groupByAll := y.groupByAll }) htables hfilters

theorem withoutVisible_apply (h : y.AllVisible) (m : Model) :
    (y.apply m).tables.map Table.withoutVisible = m.tables.map Table.withoutVisible := by
  have htable (t : Table) : (y.table t).withoutVisible = t.withoutVisible := by
    rw [Table.withoutVisible, hiddenSelections_table h]
    rfl
  unfold apply
  split
  · rw [List.map_map]
    exact List.map_congr_left fun t _ => htable t
  · rfl

end Sync

open Sync

/-- A text that is read of a canvas is read the same of the canvas that its sync leaves, and changes nothing there,
whichever texts `read` accepts.  A sync changes at most the visible selections, the filters and the grouping. -/
theorem sync_again {read : Reader} {m : Model} {sql : String} {y : Sync} (hy : ofText read sql m = .ok y) :
    ofText read sql (y.apply m) = .ok y ∧ y.apply (y.apply m) = y.apply m ∧
      ∃ tables filters groupByAll, y.apply m = { m with tables, filters, groupByAll } ∧
        tables.map Table.withoutVisible = m.tables.map Table.withoutVisible := by
  obtain ⟨q, s, hread, hbody, rfl⟩ := ofText_eq_ok_iff.1 hy
  have hvisible := allVisible_ofSelect m.tables q s
  exact ⟨(ofText_apply _ read sql m).trans hy, apply_apply hvisible m, _, _, _, rfl, withoutVisible_apply hvisible m⟩

/-- The theorem at a model with a hand-written query and hidden selections, in which an identifier is repeated. -/
theorem sync_again_trade : ∃ y, ofSql tradeSql tradeModel = .ok y ∧
    ofSql tradeSql (y.apply tradeModel) = .ok y ∧ y.apply (y.apply tradeModel) = y.apply tradeModel ∧
      ∃ tables filters groupByAll, y.apply tradeModel = { tradeModel with tables, filters, groupByAll } ∧
        tables.map Table.withoutVisible = tradeModel.tables.map Table.withoutVisible := by
  obtain ⟨y, hy, -⟩ := ofSql_trade
  exact ⟨y, hy, sync_again hy⟩

end JoinCanvas
