import JoinCanvas.Sync.Basic

/-!
# What is reported of a query

Each part of a query is read by itself: it is recorded as far as a canvas can say it, and reported otherwise.  So the
record of a query is known from its parts, and a canvas on which it is put changes in the parts that were read.

* `addItems_eq`, `addConjuncts_eq`: what all items and all conjuncts add to a record.
* `ofSelect_eq`: the record of a query, part by part.
* `mem_reports_iff`: which clauses are reported.
* `apply_keeps_unread`: what is not read stays on the canvas, but for the grouping.
* `apply_regroups`: a canvas that groups by all columns loses that to a grouping that is reported.
-/

namespace JoinCanvas

open JoinCanvas.Statement

variable {α : Type}

/-- The conditions of a `SELECT` that all must hold. -/
def Statement.Select.conjuncts (s : Select) : List Statement.Expr :=
  (s.condition?.map Expr.conjuncts).getD []

/-- Why a part of a query was not read. -/
def reason? : Except Unsupported α → Option Unsupported
  | .ok _ => none
  | .error u => some u

theorem toOption_eq_some_iff {ε : Type} {x : Except ε α} {a : α} : x.toOption = some a ↔ x = .ok a := by
  cases x <;> simp [Except.toOption]

namespace Scope

/-- The selection that is read of an item, with its table. -/
def pick? (s : Scope) : SelectItem → Option (String × Selection)
  | .wildcard _ => none
  | .expr e alias? => (s.selection e (alias?.map (·.value))).toOption

/-- What is reported of an item; a wildcard is passed over. -/
def itemReason? (s : Scope) : SelectItem → Option Unsupported
  | .wildcard _ => none
  | .expr e alias? => reason? (s.selection e (alias?.map (·.value)))

end Scope

namespace Sync

variable {s : Scope} {y : Sync}

/-- What is reported of a grouping. -/
def groupingReason? : Grouping → Option Unsupported
  | .expressions _ => some .groupExpressions
  | _ => none

/-- All that is reported of a query, in order. -/
def reports (tables : List Table) (q : Query) (s : Select) : List Unsupported :=
  let scope := (Scope.ofTables tables s.tables).1
  (if q.with?.isSome then [.definitions] else []) ++ (if q.order?.isSome then [.order] else []) ++
    (Scope.ofTables tables s.tables).2 ++ s.items.filterMap scope.itemReason? ++
    s.conjuncts.filterMap (fun e => reason? (scope.condition e)) ++ (groupingReason? s.grouping).toList ++
    (if s.having?.isSome then [.having] else [])

/-! ### The record of a query -/

private theorem addItem_eq (s : Scope) (y : Sync) (i : SelectItem) :
    y.addItem s i =
      { y with
        selections := (s.pick? i).toList.foldl (fun ss x => pushSelection x.1 x.2 ss) y.selections
        selectionsComplete := y.selectionsComplete && (s.pick? i).isSome
        unsupported := y.unsupported ++ (s.itemReason? i).toList } := by
  cases i with
  | wildcard text => simp [addItem, Scope.pick?, Scope.itemReason?]
  | expr e alias? =>
    rw [addItem, Scope.pick?, Scope.itemReason?]
    cases s.selection e (alias?.map (·.value)) <;> simp [reason?, reject, Except.toOption]

private theorem addConjunct_eq (s : Scope) (y : Sync) (e : Statement.Expr) :
    y.addConjunct s e =
      { y with
        conditions := y.conditions ++ (s.condition e).toOption.toList
        filtersComplete := y.filtersComplete && (s.condition e).isOk
        unsupported := y.unsupported ++ (reason? (s.condition e)).toList } := by
  rw [addConjunct]
  cases s.condition e <;> simp [reason?, reject, Except.toOption, Except.isOk, Except.toBool]

/-- The items add what is read of them, in order, and the reasons of the others. -/
theorem addItems_eq (s : Scope) (items : List SelectItem) (y : Sync) :
    items.foldl (addItem s) y =
      { y with
        selections := (items.filterMap s.pick?).foldl (fun ss x => pushSelection x.1 x.2 ss) y.selections
        selectionsComplete := y.selectionsComplete && items.all fun i => (s.pick? i).isSome
        unsupported := y.unsupported ++ items.filterMap s.itemReason? } := by
  induction items generalizing y with
  | nil => simp
  | cons i items ih =>
    rw [List.foldl_cons, ih, addItem_eq]
    cases hpick : s.pick? i <;> cases hreason : s.itemReason? i <;> simp [hpick, hreason]

/-- The conjuncts add what is read of them, in order, and the reasons of the others. -/
theorem addConjuncts_eq (s : Scope) (es : List Statement.Expr) (y : Sync) :
    es.foldl (addConjunct s) y =
      { y with
        conditions := y.conditions ++ es.filterMap fun e => (s.condition e).toOption
        filtersComplete := y.filtersComplete && es.all fun e => (s.condition e).isOk
        unsupported := y.unsupported ++ es.filterMap fun e => reason? (s.condition e) } := by
  induction es generalizing y with
  | nil => simp
  | cons e es ih =>
    rw [List.foldl_cons, ih, addConjunct_eq]
    cases hcondition : s.condition e <;> simp [hcondition, reason?, Except.toOption, Except.isOk, Except.toBool]

theorem foldl_reject (us : List Unsupported) (y : Sync) :
    us.foldl reject y = { y with unsupported := y.unsupported ++ us } := by
  induction us generalizing y with
  | nil => simp
  | cons u us ih => rw [List.foldl_cons, ih, reject, List.append_assoc, List.singleton_append]

theorem addGrouping_eq (y : Sync) (g : Grouping) :
    y.addGrouping g =
      { y with
        groupByAll := y.groupByAll || decide (g = .all)
        unsupported := y.unsupported ++ (groupingReason? g).toList } := by
  cases g <;> simp [addGrouping, groupingReason?, reject]

/-- The record of a query: each part of it is read by itself. -/
theorem ofSelect_eq (tables : List Table) (q : Query) (s : Select) :
    let scope := (Scope.ofTables tables s.tables).1
    ofSelect tables q s =
      { selections := (s.items.filterMap scope.pick?).foldl (fun ss x => pushSelection x.1 x.2 ss) []
        selectionsComplete := s.items.all fun i => (scope.pick? i).isSome
        conditions := s.conjuncts.filterMap fun e => (scope.condition e).toOption
        filtersComplete := s.conjuncts.all fun e => (scope.condition e).isOk
        groupByAll := decide (s.grouping = .all)
        unsupported := reports tables q s } := by
  intro scope
  -- what is reported before any relation is looked at
  have hheads : (if q.order?.isSome then
      (if q.with?.isSome then ({} : Sync).reject .definitions else {}).reject .order
      else if q.with?.isSome then ({} : Sync).reject .definitions else {}) =
      { unsupported :=
          (if q.with?.isSome then [.definitions] else []) ++ if q.order?.isSome then [.order] else [] } := by
    cases q.with?.isSome <;> cases q.order?.isSome <;> rfl
  simp only [ofSelect, hheads, foldl_reject, addItems_eq, addConjuncts_eq, addGrouping_eq, reports]
  cases s.having?.isSome <;> simp [reject, Select.conjuncts, scope]

/-- The texts that have a record are those of a single `SELECT`, whichever reader reads them. -/
theorem ofText_eq_ok_iff {read : Reader} {sql : String} {m : Model} {y : Sync} :
    ofText read sql m = .ok y ↔
      ∃ q s, read sql = some [.query q] ∧ q.body = .select s ∧ ofSelect m.tables q s = y := by
  constructor
  · intro hy
    unfold ofText at hy
    split at hy
    · exact absurd hy nofun
    · next q hread =>
      split at hy
      · next s hbody => exact ⟨q, s, hread, hbody, Except.ok.inj hy⟩
      · exact absurd hy nofun
    · exact absurd hy nofun
    · exact absurd hy nofun
  · rintro ⟨q, s, hread, hbody, rfl⟩
    simp only [ofText, hread, hbody]

end Sync

/-! ### Reasons -/

theorem reason_eq_some_iff {r : Except Unsupported α} {u : Unsupported} : reason? r = some u ↔ r = .error u := by
  cases r <;> simp [reason?]

theorem reason_map {β : Type} (f : α → β) (r : Except Unsupported α) : reason? (r.map f) = reason? r := by
  cases r <;> rfl

/-- The report is about a clause of a query as a whole. -/
def Unsupported.isClause : Unsupported → Bool
  | definitions | order | groupExpressions | having => true
  | _ => false

private theorem isClause_of_error {u v : Unsupported} (hv : v.isClause = false)
    (h : (.error v : Except Unsupported α) = .error u) : u.isClause = false :=
  Except.error.inj h ▸ hv

namespace Scope

variable {s : Scope} {u : Unsupported}

theorem pick_eq_none_of_reason {i : SelectItem} (h : s.itemReason? i = some u) : s.pick? i = none := by
  cases i with
  | wildcard text => rfl
  | expr e alias? =>
    rw [pick?, reason_eq_some_iff.1 h]
    rfl

private theorem bare_reason {column : String} (h : s.bare column = .error u) : u.isClause = false := by
  unfold bare at h
  split at h
  · exact absurd h nofun
  · split at h
    · exact absurd h nofun
    all_goals exact isClause_of_error rfl h

private theorem column_reason {e : Statement.Expr} (h : s.column e = .error u) : u.isClause = false := by
  fun_induction s.column e with
  | case1 i => exact bare_reason h
  | case2 path hpath column qualifier id hid => exact absurd h nofun
  | case3 path hpath column qualifier hnone => exact isClause_of_error rfl h
  | case4 e ih => exact ih h
  | case5 e => exact isClause_of_error rfl h

private theorem column_map_reason {e : Statement.Expr} {f : String × String → α}
    (h : (s.column e).map f = .error u) : u.isClause = false := by
  rw [← reason_eq_some_iff, reason_map, reason_eq_some_iff] at h
  exact column_reason h

/-- What is reported of an item is about an expression. -/
theorem itemReason_isClause {i : SelectItem} (h : s.itemReason? i = some u) : u.isClause = false := by
  cases i with
  | wildcard text => exact absurd h nofun
  | expr e alias? =>
    rw [itemReason?, selection, reason_map, reason_eq_some_iff] at h
    unfold selected at h
    split at h
    · split at h
      · exact isClause_of_error rfl h
      · split at h
        · exact isClause_of_error rfl h
        · exact column_map_reason h
    · split at h
      · exact isClause_of_error rfl h
      · split at h <;> exact isClause_of_error rfl h
    · exact isClause_of_error rfl h
    · exact column_map_reason h

/-- What is reported of a conjunct is about an expression. -/
theorem condition_isClause {e : Statement.Expr} (h : s.condition e = .error u) : u.isClause = false := by
  unfold condition conditionOn at h
  split at h
  · split at h
    · exact isClause_of_error rfl h
    · split at h
      · exact isClause_of_error rfl h
      · split at h
        · exact isClause_of_error rfl h
        · exact column_map_reason h
  · split at h
    · exact isClause_of_error rfl h
    · exact column_map_reason h
  · split at h
    · exact isClause_of_error rfl h
    · exact column_map_reason h
  · exact column_map_reason h
  · exact column_map_reason h
  all_goals exact isClause_of_error rfl h

private theorem relation_isClause {r : Relation} (h : s.relation r = .error u) : u.isClause = false := by
  unfold relation at h
  split at h
  · dsimp only at h
    split at h
    · exact absurd h nofun
    · exact isClause_of_error rfl h
  all_goals exact isClause_of_error rfl h

/-- What is reported of the relations is about relations. -/
theorem relations_isClause {rs : List Relation} (h : u ∈ (s.relations rs).2) : u.isClause = false := by
  induction rs generalizing s with
  | nil => exact absurd h List.not_mem_nil
  | cons r rs ih =>
    unfold relations at h
    split at h
    · exact ih h
    · next v hr =>
      rcases List.mem_cons.1 h with rfl | h
      · exact relation_isClause hr
      · exact ih h

end Scope

namespace Sync

theorem mem_reports_iff {tables : List Table} {q : Query} {s : Select} {u : Unsupported} (hu : u.isClause = true) :
    u ∈ reports tables q s ↔
      u = .definitions ∧ q.with?.isSome ∨ u = .order ∧ q.order?.isSome ∨ groupingReason? s.grouping = some u ∨
        u = .having ∧ s.having?.isSome := by
  let scope := (Scope.ofTables tables s.tables).1
  have hrelations : u ∉ (Scope.ofTables tables s.tables).2 := fun h => by
    simp [Scope.relations_isClause h] at hu
  have hitems : u ∉ s.items.filterMap scope.itemReason? := fun h => by
    obtain ⟨i, -, hi⟩ := List.mem_filterMap.1 h
    simp [Scope.itemReason_isClause hi] at hu
  have hconjuncts : u ∉ s.conjuncts.filterMap fun e => reason? (scope.condition e) := fun h => by
    obtain ⟨e, -, he⟩ := List.mem_filterMap.1 h
    simp [Scope.condition_isClause (reason_eq_some_iff.1 he)] at hu
  simp only [reports, List.mem_append, hrelations, hitems, hconjuncts, Option.mem_toList, or_false, or_assoc,
    List.mem_ite_nil_right, List.mem_singleton, and_comm, scope]

/-! ### What is not read -/

variable {tables : List Table} {q : Query} {s : Select}

theorem mem_unsupported_of_item {i : SelectItem} (hi : i ∈ s.items) {u : Unsupported}
    (hu : (Scope.ofTables tables s.tables).1.itemReason? i = some u) : u ∈ (ofSelect tables q s).unsupported := by
  have hmem : u ∈ s.items.filterMap (Scope.ofTables tables s.tables).1.itemReason? :=
    List.mem_filterMap.2 ⟨i, hi, hu⟩
  rw [ofSelect_eq]
  simp only [reports, List.mem_append, hmem, or_true, true_or]

theorem mem_unsupported_of_conjunct {e : Statement.Expr} (he : e ∈ s.conjuncts) {u : Unsupported}
    (hu : (Scope.ofTables tables s.tables).1.condition e = .error u) : u ∈ (ofSelect tables q s).unsupported := by
  have hmem : u ∈ s.conjuncts.filterMap fun e => reason? ((Scope.ofTables tables s.tables).1.condition e) :=
    List.mem_filterMap.2 ⟨e, he, reason_eq_some_iff.2 hu⟩
  rw [ofSelect_eq]
  simp only [reports, List.mem_append, hmem, or_true, true_or]

theorem selectionsComplete_of_pick_none {i : SelectItem} (hi : i ∈ s.items)
    (hpick : (Scope.ofTables tables s.tables).1.pick? i = none) : (ofSelect tables q s).selectionsComplete = false := by
  rw [ofSelect_eq]
  exact List.all_eq_false.2 ⟨i, hi, by simp [hpick]⟩

theorem filtersComplete_of_error {e : Statement.Expr} (he : e ∈ s.conjuncts) {u : Unsupported}
    (hu : (Scope.ofTables tables s.tables).1.condition e = .error u) :
    (ofSelect tables q s).filtersComplete = false := by
  rw [ofSelect_eq]
  exact List.all_eq_false.2 ⟨e, he, by simp [hu, Except.isOk, Except.toBool]⟩

/-! ### What stays on the canvas -/

theorem tables_apply_of_pick_none {m : Model} {i : SelectItem} (hi : i ∈ s.items)
    (hpick : (Scope.ofTables m.tables s.tables).1.pick? i = none) :
    ((ofSelect m.tables q s).apply m).tables = m.tables := by
  simp [apply, selectionsComplete_of_pick_none hi hpick]

theorem filters_apply_of_error {m : Model} (hmanual : m.filters.manual? = none) {e : Statement.Expr}
    (he : e ∈ s.conjuncts) {u : Unsupported} (hu : (Scope.ofTables m.tables s.tables).1.condition e = .error u) :
    ((ofSelect m.tables q s).apply m).filters = m.filters := by
  have hcomplete : (ofSelect m.tables q s).filtersComplete = false := filtersComplete_of_error he hu
  cases hfilters : m.filters with
  | conditions cs => simp [apply, hcomplete, hfilters, Filters.list]
  | manual sql => simp [hfilters, Filters.manual?] at hmanual

end Sync

open Sync

/-- What is not understood of a query is reported and stays as it was on the canvas, whichever texts `read` accepts: no
selection changes when an item is not understood, and no condition when a conjunct is not.  A grouping stays only by
chance: the canvas groups by all columns afterwards exactly when the query does, so that a grouping that is reported
turns this off. -/
theorem apply_keeps_unread {read : Reader} {m : Model} {sql : String} {y : Sync} (hmanual : m.filters.manual? = none)
    (hy : ofText read sql m = .ok y) :
    ∃ q s, read sql = some [.query q] ∧ q.body = .select s ∧
      let scope := (Scope.ofTables m.tables s.tables).1
      (∀ i ∈ s.items, scope.pick? i = none → (y.apply m).tables = m.tables) ∧
      (∀ i ∈ s.items, ∀ u, scope.itemReason? i = some u → u ∈ y.unsupported ∧ (y.apply m).tables = m.tables) ∧
      (∀ e ∈ s.conjuncts, ∀ u, scope.condition e = .error u → u ∈ y.unsupported ∧ (y.apply m).filters = m.filters) ∧
      (.groupExpressions ∈ y.unsupported ↔ ∃ text, s.grouping = .expressions text) ∧
      ((y.apply m).groupByAll = true ↔ s.grouping = .all) ∧
      (.groupExpressions ∈ y.unsupported → ((y.apply m).groupByAll = m.groupByAll ↔ m.groupByAll = false)) := by
  obtain ⟨q, s, hread, hbody, rfl⟩ := ofText_eq_ok_iff.1 hy
  have hreports : (ofSelect m.tables q s).unsupported = reports m.tables q s := by rw [ofSelect_eq]
  have hgroup : ((ofSelect m.tables q s).apply m).groupByAll = true ↔ s.grouping = .all := by
    rw [apply, ofSelect_eq]
    simp
  have hgrouping : .groupExpressions ∈ (ofSelect m.tables q s).unsupported ↔
      ∃ text, s.grouping = .expressions text := by
    rw [hreports, mem_reports_iff rfl]
    cases s.grouping <;> simp [groupingReason?]
  refine ⟨q, s, hread, hbody, fun i hi => tables_apply_of_pick_none hi, fun i hi u hu => ⟨?_, ?_⟩,
    fun e he u hu => ⟨?_, filters_apply_of_error hmanual he hu⟩, hgrouping, hgroup, fun h => ?_⟩
  · exact mem_unsupported_of_item hi hu
  · exact tables_apply_of_pick_none hi (Scope.pick_eq_none_of_reason hu)
  · exact mem_unsupported_of_conjunct he hu
  · obtain ⟨text, htext⟩ := hgrouping.1 h
    have hoff : ((ofSelect m.tables q s).apply m).groupByAll = false :=
      Bool.eq_false_iff.2 fun hon => absurd (htext.symm.trans (hgroup.1 hon)) nofun
    rw [hoff, eq_comm]

/-- A model that groups by all plain columns. -/
def groupedModel : Model where
  id := "m"
  tables := [{ id := "a", name := "orders" }]
  groupByAll := true

/-- A query that groups by the place of a column. -/
def placeGroupedSql : String :=
  "SELECT \x60status\x60 AS \x60s\x60 FROM \x60orders\x60 AS \x60o\x60 GROUP BY 1"

theorem ofSql_placeGrouped : ∃ y, ofSql placeGroupedSql groupedModel = .ok y ∧ y.unsupported = [.groupExpressions] ∧
    y.groupByAll = false := by
  have hparts : ((ofSql placeGroupedSql groupedModel).toOption.map fun y => (y.unsupported, y.groupByAll)) =
      some ([.groupExpressions], false) := by decide +kernel
  cases hy : ofSql placeGroupedSql groupedModel with
  | error e => simp [hy, Except.toOption] at hparts
  | ok y =>
    simp only [hy, Except.toOption, Option.map_some, Option.some.injEq, Prod.mk.injEq] at hparts
    exact ⟨y, rfl, hparts⟩

/-- The theorem at that query. -/
theorem apply_keeps_unread_placeGrouped : groupedModel.filters.manual? = none ∧
    ∃ y, ofSql placeGroupedSql groupedModel = .ok y ∧
      ∃ q s, Statement.read placeGroupedSql = some [.query q] ∧ q.body = .select s ∧
        let scope := (Scope.ofTables groupedModel.tables s.tables).1
        (∀ i ∈ s.items, scope.pick? i = none → (y.apply groupedModel).tables = groupedModel.tables) ∧
        (∀ i ∈ s.items, ∀ u, scope.itemReason? i = some u →
          u ∈ y.unsupported ∧ (y.apply groupedModel).tables = groupedModel.tables) ∧
        (∀ e ∈ s.conjuncts, ∀ u, scope.condition e = .error u →
          u ∈ y.unsupported ∧ (y.apply groupedModel).filters = groupedModel.filters) ∧
        (.groupExpressions ∈ y.unsupported ↔ ∃ text, s.grouping = .expressions text) ∧
        ((y.apply groupedModel).groupByAll = true ↔ s.grouping = .all) ∧
        (.groupExpressions ∈ y.unsupported →
          ((y.apply groupedModel).groupByAll = groupedModel.groupByAll ↔ groupedModel.groupByAll = false)) := by
  obtain ⟨y, hy, -⟩ := ofSql_placeGrouped
  exact ⟨rfl, y, hy, apply_keeps_unread rfl hy⟩

/-- The grouping is reported, and yet the canvas no longer groups by all columns. -/
theorem apply_regroups : ∃ y, ofSql placeGroupedSql groupedModel = .ok y ∧ .groupExpressions ∈ y.unsupported ∧
    groupedModel.groupByAll = true ∧ (y.apply groupedModel).groupByAll = false := by
  obtain ⟨y, hy, hunsupported, hgroup⟩ := ofSql_placeGrouped
  exact ⟨y, hy, by simp [hunsupported], rfl, hgroup⟩

end JoinCanvas
