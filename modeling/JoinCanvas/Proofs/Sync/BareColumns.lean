import JoinCanvas.Proofs.Sync.Recorded

/-!
# Columns without a qualifier

A column that is named without a table is that of the only relation of the `FROM` clause, or of the only table there
that has such a column.  A scope holds tables of the canvas and nothing of the other relations.  So a table that is the
only one of the canvas in a `FROM` clause takes every name without a qualifier, also one that belongs to a subquery or
to a table that the canvas does not have.

* `inFrom_relations`: what a scope holds of a `FROM` clause.
* `bare_eq_ok_iff`: which table a name is taken to belong to.
* `ofText_bare`: every item and every condition of a query.
* `ofSql_derivedTotal`: a column of a subquery that is recorded for a table.
-/

namespace JoinCanvas

open JoinCanvas.Statement

namespace Statement

/-- The name that an expression is, in any parentheses, when it has no qualifier. -/
def Expr.bareName? (e : Expr) : Option String :=
  match e.path? with
  | some [i] => some i.value
  | _ => none

/-- The column that an item selects: the item itself, or the argument of its call. -/
def SelectItem.column? : SelectItem → Option Expr
  | .wildcard _ => none
  | .expr (.call _ argument _ _ _) _ => some argument
  | .expr e _ => some e

/-- The column that a condition is about. -/
def Expr.tested? : Expr → Option Expr
  | .binary _ left _ => some left
  | .like e _ _ _ _ => some e
  | .isIn e _ _ => some e
  | .isNull e _ => some e
  | _ => none

/-- The table of the canvas that a relation is. -/
def Relation.tableId? (tables : List Table) : Relation → Option String
  | .table path _ alias? _ => (matchTable? tables (path.map (·.value)) (alias?.map (·.value))).map (·.id)
  | .derived _ | .nested _ | .other _ => none

end Statement

/-- The table is the single relation, or the only one of the canvas among them that has the column. -/
def Owns (tables : List Table) (rs : List Relation) (name id : String) : Prop :=
  (∃ r, rs = [r] ∧ r.tableId? tables = some id) ∨
    (rs.filterMap (·.tableId? tables)).filter (({ tables } : Scope).hasColumn · name) = [id]

/-- The table is the only one of the canvas among the relations, and others stand beside it. -/
def StandsOut (tables : List Table) (rs : List Relation) (id : String) : Prop :=
  rs.filterMap (·.tableId? tables) = [id] ∧ ∃ r ∈ rs, r.tableId? tables = none

namespace Scope

variable {s : Scope} {e : Statement.Expr} {id column : String}

/-! ### The tables of a scope -/

private theorem relation_of_tableId {r : Relation} (h : r.tableId? s.tables = some id) :
    ∃ s', s.relation r = .ok s' ∧ s'.tables = s.tables ∧ s'.inFrom = s.inFrom ++ [id] := by
  cases r with
  | table path arguments alias? after =>
    obtain ⟨t, ht, rfl⟩ := Option.map_eq_some_iff.1 h
    exact ⟨_, relation_eq_ok_iff.2 ⟨path, arguments, alias?, after, t, rfl, ht, rfl⟩, rfl, rfl⟩
  | _ => cases h

private theorem relation_of_tableId_none {r : Relation} (h : r.tableId? s.tables = none) :
    ∃ u, s.relation r = .error u := by
  cases hr : s.relation r with
  | error u => exact ⟨u, rfl⟩
  | ok s' =>
    obtain ⟨path, arguments, alias?, after, t, rfl, ht, -⟩ := relation_eq_ok_iff.1 hr
    simp [Relation.tableId?, ht] at h

/-- The tables in scope are those that the relations are, in order. -/
theorem inFrom_relations (s : Scope) (rs : List Relation) :
    (s.relations rs).1.inFrom = s.inFrom ++ rs.filterMap (·.tableId? s.tables) := by
  induction rs generalizing s with
  | nil => simp [relations]
  | cons r rs ih =>
    rw [relations]
    cases hid : r.tableId? s.tables with
    | none =>
      obtain ⟨u, hu⟩ := relation_of_tableId_none hid
      rw [hu, List.filterMap_cons_none hid]
      exact ih s
    | some id =>
      obtain ⟨s', hs', htables, hinFrom⟩ := relation_of_tableId hid
      rw [hs', List.filterMap_cons_some hid]
      show (s'.relations rs).1.inFrom = _
      rw [ih s', hinFrom, htables, List.append_assoc, List.singleton_append]

/-! ### The table of a name -/

theorem bare_eq_ok_iff {name : String} : s.bare name = .ok (id, column) ↔
    column = name ∧ (s.inFrom = [id] ∨ s.inFrom.filter (s.hasColumn · name) = [id]) := by
  unfold bare
  split
  · next only honly =>
    rw [honly]
    by_cases hcolumn : s.hasColumn only name = true
    · simp [hcolumn, eq_comm, and_comm]
    · simp [hcolumn, eq_comm, and_comm]
  · next hids =>
    have hne : s.inFrom ≠ [id] := fun h => hids id h
    split
    · next owner howner => simp [howner, hne, eq_comm, and_comm]
    · next hnone => simp [hnone, hne]
    · next hone hnone =>
      have hne' : s.inFrom.filter (s.hasColumn · name) ≠ [id] := fun h => hone id h
      simp [hne, hne']

theorem bare_reasons {name : String} {u : Unsupported} (h : s.bare name = .error u) :
    u = .noOwner name ∨ u = .ambiguous name := by
  unfold bare at h
  split at h
  · cases h
  · split at h
    · cases h
    · exact Or.inl (Except.error.inj h).symm
    · exact Or.inr (Except.error.inj h).symm

/-- One table is left among relations when it is the single one, or when the others are none of the canvas. -/
private theorem filterMap_eq_singleton_iff {tables : List Table} {rs : List Relation} :
    rs.filterMap (·.tableId? tables) = [id] ↔
      (∃ r, rs = [r] ∧ r.tableId? tables = some id) ∨ StandsOut tables rs id := by
  constructor
  · intro h
    by_cases hall : ∃ r ∈ rs, r.tableId? tables = none
    · exact Or.inr ⟨h, hall⟩
    · -- then every relation leaves its table
      have hsome : ∀ r ∈ rs, (r.tableId? tables).isSome = true := fun r hr =>
        Option.isSome_iff_ne_none.2 fun hnone => hall ⟨r, hr, hnone⟩
      have hlength : rs.length = 1 := by
        rw [← List.filterMap_length_eq_length.2 hsome, h, List.length_singleton]
      obtain ⟨r, rfl⟩ := List.length_eq_one_iff.1 hlength
      refine Or.inl ⟨r, rfl, ?_⟩
      obtain ⟨id', hid'⟩ := Option.isSome_iff_exists.1 (hsome r (List.mem_singleton_self r))
      rw [List.filterMap_cons_some hid'] at h
      rw [hid', (List.cons.inj h).1]
  · rintro (⟨r, rfl, hr⟩ | ⟨h, -⟩)
    · simp [hr]
    · exact h

/-- A name without a qualifier belongs to the table that owns it, and also to one that stands out. -/
theorem bare_ofTables_iff {tables : List Table} {items : List FromItem} {name : String} :
    let rs := items.flatMap FromItem.relations
    (ofTables tables items).1.bare name = .ok (id, column) ↔
      column = name ∧ (Owns tables rs name id ∨ StandsOut tables rs id) := by
  intro rs
  have hinFrom : (ofTables tables items).1.inFrom = rs.filterMap (·.tableId? tables) := inFrom_relations { tables } rs
  have hhas : (ofTables tables items).1.hasColumn = ({ tables } : Scope).hasColumn := by
    funext i c
    simp only [hasColumn, (founded_ofTables tables items).2.1]
  rw [bare_eq_ok_iff, hinFrom, hhas, filterMap_eq_singleton_iff, Owns, or_right_comm]

theorem Names.bare (h : s.Names e id column) {name : String} (hname : e.bareName? = some name) :
    s.bare name = .ok (id, column) := by
  obtain ⟨path, hpath, hcolumn⟩ := h
  rw [Expr.bareName?, hpath] at hname
  split at hname
  · next i hi =>
    obtain rfl := Option.some.inj hi
    obtain rfl := Option.some.inj hname
    exact hcolumn
  · cases hname

theorem Selects.bare {i : SelectItem} {x : Selection} (h : s.Selects i id x) (hitem : i.column? = some e)
    {name : String} (hname : e.bareName? = some name) : s.bare name = .ok (id, x.column) := by
  cases h with
  | @plain e' alias? id column hnames =>
    have hsame : (SelectItem.expr e' alias?).column? = some e' := by
      obtain ⟨path, hpath, -⟩ := hnames
      cases e' with
      | name path | nested e' => rfl
      | _ => simp [Expr.path?] at hpath
    obtain rfl := Option.some.inj (hsame.symm.trans hitem)
    rw [(withAlias_column { column } _).1]
    exact hnames.bare hname
  | @aggregate function argument inside after alias? aggregation id column hfunction hnames =>
    obtain rfl := Option.some.inj hitem
    rw [(withAlias_column { column, aggregation } _).1]
    exact hnames.bare hname

theorem Tests.bare {c : Condition} {d : Statement.Expr} (h : s.Tests d c) (htested : d.tested? = some e)
    {name : String} (hname : e.bareName? = some name) : s.bare name = .ok (c.table, c.column) := by
  cases h with
  | compare _ _ hnames | like _ hnames | isIn _ hnames | isNull hnames | isNotNull hnames =>
    obtain rfl := Option.some.inj htested
    exact hnames.bare hname

/-- An item that is no wildcard is read, or there is a reason why not. -/
theorem pick_or_reason {i : SelectItem} (h : i.column? = some e) :
    (∃ id x, s.pick? i = some (id, x)) ∨ s.pick? i = none ∧ ∃ u, s.itemReason? i = some u := by
  cases i with
  | wildcard text => cases h
  | expr d alias? =>
    rw [pick?, itemReason?]
    cases s.selection d (alias?.map (·.value)) with
    | ok x => exact Or.inl ⟨x.1, x.2, rfl⟩
    | error u => exact Or.inr ⟨rfl, u, rfl⟩

end Scope

namespace Sync

variable {tables : List Table} {q : Query} {s : Select}

theorem mem_columnsOf_of_pick {i : SelectItem} (hi : i ∈ s.items) {id : String} {x : Selection}
    (hpick : (Scope.ofTables tables s.tables).1.pick? i = some (id, x)) :
    x ∈ (ofSelect tables q s).columnsOf id := by
  have hcolumns : (ofSelect tables q s).columnsOf id =
      ((s.items.filterMap (Scope.ofTables tables s.tables).1.pick?).filter (·.1 = id)).map (·.2) := by
    rw [ofSelect_eq]
    exact (groups_foldl _).columnsAt_eq id
  rw [hcolumns]
  exact List.mem_map.2 ⟨(id, x), List.mem_filter.2 ⟨List.mem_filterMap.2 ⟨i, hi, hpick⟩, by simp⟩, rfl⟩

/-- Where nothing is reported, no table stands out. -/
theorem not_standsOut {id : String} (h : (ofSelect tables q s).unsupported = []) :
    ¬ StandsOut tables (s.tables.flatMap FromItem.relations) id := by
  rw [ofSelect_eq] at h
  obtain ⟨-, -, hmissing, -⟩ := reports_eq_nil_iff.1 h
  rintro ⟨-, r, hr, hnone⟩
  obtain ⟨path, arguments, alias?, after, t, -, rfl, ht⟩ :=
    (Scope.founded_ofTables tables s.tables).2.2.1 hmissing r hr
  simp [Relation.tableId?, ht] at hnone

end Sync

open Sync

/-- A column without a qualifier is recorded for the table that owns it, or for one that stands out among relations
that the canvas does not have.  Every other one is reported, and its part of the record is not complete.  No reader of
SQL can change this, for whatever clauses it accepts. -/
theorem ofText_bare {read : Reader} {m : Model} {sql : String} {y : Sync} (hy : ofText read sql m = .ok y) :
    ∃ q s, read sql = some [.query q] ∧ q.body = .select s ∧
      let scope := (Scope.ofTables m.tables s.tables).1
      let rs := s.tables.flatMap FromItem.relations
      (∀ i ∈ s.items, ∀ e, i.column? = some e →
        (∃ id x, scope.Selects i id x ∧ x ∈ y.columnsOf id ∧ ∀ name, e.bareName? = some name →
          x.column = name ∧ (Owns m.tables rs name id ∨ StandsOut m.tables rs id)) ∨
        y.selectionsComplete = false ∧ ∃ u ∈ y.unsupported, scope.itemReason? i = some u) ∧
      (∀ e ∈ s.conjuncts,
        (∃ c ∈ y.conditions, scope.Tests e c ∧ ∀ tested name, e.tested? = some tested → tested.bareName? = some name →
          c.column = name ∧ (Owns m.tables rs name c.table ∨ StandsOut m.tables rs c.table)) ∨
        y.filtersComplete = false ∧ ∃ u ∈ y.unsupported, scope.condition e = .error u) ∧
      (∀ name, (∃ id, scope.bare name = .ok (id, name) ∧ (Owns m.tables rs name id ∨ StandsOut m.tables rs id)) ∨
        (scope.bare name = .error (.noOwner name) ∨ scope.bare name = .error (.ambiguous name)) ∧
          ∀ id, ¬ Owns m.tables rs name id ∧ ¬ StandsOut m.tables rs id) ∧
      (y.unsupported = [] → ∀ id, ¬ StandsOut m.tables rs id) := by
  obtain ⟨q, s, hread, hbody, rfl⟩ := ofText_eq_ok_iff.1 hy
  refine ⟨q, s, hread, hbody, fun i hi e he => ?_, fun e he => ?_, fun name => ?_, fun h id => not_standsOut h⟩
  · rcases Scope.pick_or_reason he with ⟨id, x, hpick⟩ | ⟨hnone, u, hu⟩
    · have hselects := Scope.pick_eq_some_iff.1 hpick
      refine Or.inl ⟨id, x, hselects, mem_columnsOf_of_pick hi hpick, fun name hname => ?_⟩
      exact Scope.bare_ofTables_iff.1 (hselects.bare he hname)
    · exact Or.inr ⟨selectionsComplete_of_pick_none hi hnone, u, mem_unsupported_of_item hi hu, hu⟩
  · cases hcondition : (Scope.ofTables m.tables s.tables).1.condition e with
    | ok c =>
      have htests := Scope.condition_eq_ok_iff.1 hcondition
      have hmem : c ∈ (ofSelect m.tables q s).conditions := by
        rw [ofSelect_eq]
        exact List.mem_filterMap.2 ⟨e, he, toOption_eq_some_iff.2 hcondition⟩
      refine Or.inl ⟨c, hmem, htests, fun tested name htested hname => ?_⟩
      exact Scope.bare_ofTables_iff.1 (htests.bare htested hname)
    | error u =>
      exact Or.inr ⟨filtersComplete_of_error he hcondition, u, mem_unsupported_of_conjunct he hcondition, rfl⟩
  · cases hbare : (Scope.ofTables m.tables s.tables).1.bare name with
    | ok x =>
      obtain ⟨hname, howner⟩ := Scope.bare_ofTables_iff.1 hbare
      exact Or.inl ⟨x.1, by rw [← hname], howner⟩
    | error u =>
      refine Or.inr ⟨(Scope.bare_reasons hbare).imp (congrArg _) (congrArg _), fun id => not_or.1 fun howner => ?_⟩
      have hok := Scope.bare_ofTables_iff.2 ⟨rfl, howner⟩
      cases hbare.symm.trans hok

/-- A model of a single table with one column. -/
def keyedOrders : Model where
  id := "m"
  tables := [{ id := "a", name := "orders", columns := [⟨"id", "bigint"⟩] }]

/-- A query for a column that a subquery has and the table has not. -/
def derivedTotalSql : String :=
  "SELECT total FROM orders AS o CROSS JOIN (SELECT 1 AS total) AS s"

theorem read_derivedTotal : ∃ q s, Statement.read derivedTotalSql = some [.query q] ∧ q.body = .select s ∧
    let rs := s.tables.flatMap FromItem.relations
    rs.length = 2 ∧ rs.filterMap (·.tableId? keyedOrders.tables) = ["a"] ∧
      (ofSelect keyedOrders.tables q s).selections = [⟨"a", [{ column := "total" }]⟩] ∧
      (ofSelect keyedOrders.tables q s).selectionsComplete = true := by
  have hparts : ((Statement.read derivedTotalSql).bind onlySelect?).any (fun p =>
      let rs := p.2.tables.flatMap FromItem.relations
      rs.length = 2 ∧ rs.filterMap (·.tableId? keyedOrders.tables) = ["a"] ∧
        (ofSelect keyedOrders.tables p.1 p.2).selections = [⟨"a", [{ column := "total" }]⟩] ∧
        (ofSelect keyedOrders.tables p.1 p.2).selectionsComplete = true) = true := by
    decide +kernel
  obtain ⟨⟨q, s⟩, hselect, hparts⟩ := (Option.any_eq_true _ _).1 hparts
  obtain ⟨xs, hread, honly⟩ := Option.bind_eq_some_iff.1 hselect
  obtain ⟨rfl, hbody⟩ := onlySelect_eq_some_iff.1 honly
  exact ⟨q, s, hread, hbody, of_decide_eq_true hparts⟩

/-- The theorem at that query. -/
theorem ofText_bare_derivedTotal : ∃ y, ofSql derivedTotalSql keyedOrders = .ok y ∧
    ∃ q s, Statement.read derivedTotalSql = some [.query q] ∧ q.body = .select s ∧
      let scope := (Scope.ofTables keyedOrders.tables s.tables).1
      let rs := s.tables.flatMap FromItem.relations
      (∀ i ∈ s.items, ∀ e, i.column? = some e →
        (∃ id x, scope.Selects i id x ∧ x ∈ y.columnsOf id ∧ ∀ name, e.bareName? = some name →
          x.column = name ∧ (Owns keyedOrders.tables rs name id ∨ StandsOut keyedOrders.tables rs id)) ∨
        y.selectionsComplete = false ∧ ∃ u ∈ y.unsupported, scope.itemReason? i = some u) ∧
      (∀ e ∈ s.conjuncts,
        (∃ c ∈ y.conditions, scope.Tests e c ∧ ∀ tested name, e.tested? = some tested → tested.bareName? = some name →
          c.column = name ∧
            (Owns keyedOrders.tables rs name c.table ∨ StandsOut keyedOrders.tables rs c.table)) ∨
        y.filtersComplete = false ∧ ∃ u ∈ y.unsupported, scope.condition e = .error u) ∧
      (∀ name, (∃ id, scope.bare name = .ok (id, name) ∧
          (Owns keyedOrders.tables rs name id ∨ StandsOut keyedOrders.tables rs id)) ∨
        (scope.bare name = .error (.noOwner name) ∨ scope.bare name = .error (.ambiguous name)) ∧
          ∀ id, ¬ Owns keyedOrders.tables rs name id ∧ ¬ StandsOut keyedOrders.tables rs id) ∧
      (y.unsupported = [] → ∀ id, ¬ StandsOut keyedOrders.tables rs id) := by
  obtain ⟨q, s, hread, hbody, -⟩ := read_derivedTotal
  have hy : ofSql derivedTotalSql keyedOrders = .ok (ofSelect keyedOrders.tables q s) :=
    ofText_eq_ok_iff.2 ⟨q, s, hread, hbody, rfl⟩
  exact ⟨_, hy, ofText_bare hy⟩

/-- The column of the subquery is recorded for the table, which does not own it, and all selections count as read. -/
theorem ofSql_derivedTotal : ∃ q s y, Statement.read derivedTotalSql = some [.query q] ∧ q.body = .select s ∧
    ofSql derivedTotalSql keyedOrders = .ok y ∧ y.columnsOf "a" = [{ column := "total" }] ∧
    y.selectionsComplete = true ∧ ¬ Owns keyedOrders.tables (s.tables.flatMap FromItem.relations) "total" "a" := by
  obtain ⟨q, s, hread, hbody, hlength, htables, hselections, hcomplete⟩ := read_derivedTotal
  refine ⟨q, s, _, hread, hbody, ofText_eq_ok_iff.2 ⟨q, s, hread, hbody, rfl⟩, ?_, hcomplete, ?_⟩
  · rw [columnsOf, hselections]
    rfl
  · rintro (⟨r, hr, -⟩ | howner)
    · rw [hr] at hlength
      cases hlength
    · rw [htables] at howner
      revert howner
      decide

end JoinCanvas
