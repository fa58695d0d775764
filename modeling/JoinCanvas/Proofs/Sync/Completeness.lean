import JoinCanvas.Proofs.Sync.Report

/-!
# Which queries are recorded completely

The record of a query is complete when nothing is reported and no selection or condition is left out.  This holds of a
fragment of the queries that is given by their shape: plain and singly aggregated columns, relations that are tables of
the canvas, simple conditions that all must hold, and no grouping but by all columns.  The fragment says nothing of the
parts of a query that are never looked at, such as `DISTINCT` or a limit; these have no effect on the record at all.

* `pick_eq_some_iff`, `condition_eq_ok_iff`, `relation_eq_ok_iff`: the shapes that are read.
* `founded_relations`: the names of a query only ever lead to tables of the canvas.
* `ofSelect_isComplete_iff`: the fragment.
* `ofSelect_congr`: what is not looked at has no effect.
-/

namespace JoinCanvas

open JoinCanvas.Statement

namespace Statement

/-- The qualified name that an expression is, in any parentheses. -/
def Expr.path? : Expr → Option (List Ident)
  | .name path => some path
  | .nested e => e.path?
  | _ => none

/-- The relation is a table of the canvas. -/
def Relation.IsTable (r : Relation) (tables : List Table) : Prop :=
  ∃ path arguments alias? after, ∃ t ∈ tables, r = .table path arguments alias? after ∧
    matchTable? tables (path.map (·.value)) (alias?.map (·.value)) = some t

/-! ### What is looked at -/

def Relation.seen : Relation → Relation
  | .table path _ alias? _ => .table path "" alias? ""
  | .derived _ => .derived ""
  | .nested _ => .nested ""
  | .other _ => .nested ""

def SelectItem.seen : SelectItem → SelectItem
  | .wildcard _ => .wildcard ""
  | .expr (.call function argument _ _ window) alias? => .expr (.call function argument "" "" window) alias?
  | .expr (.callOther function _ _ window) alias? => .expr (.callOther function "" "" window) alias?
  | .expr (.subquery _) alias? => .expr (.subquery "") alias?
  | .expr e alias? => .expr e alias?

/-- The rest of a pattern match is only looked at to report it. -/
def Expr.seen : Expr → Expr
  | .like e false any pattern escape? =>
    if (literalValue? pattern).isSome then .like e false false pattern none else .like e false any pattern escape?
  | e => e

end Statement

/-- All that is looked at of a query. -/
structure Seen where
  hasDefinitions : Bool
  hasOrder : Bool
  relations : List Relation
  items : List SelectItem
  conjuncts : List Statement.Expr
  grouping : Grouping
  hasHaving : Bool

def Seen.of (q : Query) (s : Select) : Seen where
  hasDefinitions := q.with?.isSome
  hasOrder := q.order?.isSome
  relations := (s.tables.flatMap FromItem.relations).map Relation.seen
  items := s.items.map SelectItem.seen
  conjuncts := s.conjuncts.map Expr.seen
  grouping := s.grouping
  hasHaving := s.having?.isSome

/-! ### The shapes that are read -/

namespace Scope

variable {s s' : Scope} {e : Statement.Expr} {id column : String}

/-- The expression is a column by its name. -/
def Names (s : Scope) (e : Statement.Expr) (id column : String) : Prop :=
  ∃ path, e.path? = some path ∧ s.column (.name path) = .ok (id, column)

/-- An item that selects a column, plainly or under one aggregate function. -/
inductive Selects (s : Scope) : SelectItem → String → Selection → Prop
  | plain {e alias? id column} (h : s.Names e id column) :
    Selects s (.expr e alias?) id (withAlias { column } (alias?.map (·.value)))
  | aggregate {function argument inside after alias? aggregation id column}
    (hfunction : Aggregation.ofFunctionName? function = some aggregation) (h : s.Names argument id column) :
    Selects s (.expr (.call function argument inside after false) alias?) id
      (withAlias { column, aggregation } (alias?.map (·.value)))

/-- A simple condition on a column. -/
inductive Tests (s : Scope) : Statement.Expr → Condition → Prop
  | compare {operator : String} {left right : Statement.Expr} {op : FilterOp} {value : Json.Value} {id column : String}
    (hop : comparisonOf? operator = some op) (hvalue : literalValue? right = some value) (h : s.Names left id column) :
    Tests s (.binary operator left right) ⟨id, column, op, value⟩
  | like {e pattern : Statement.Expr} {any : Bool} {escape? : Option String} {value : Json.Value} {id column : String}
    (hvalue : literalValue? pattern = some value) (h : s.Names e id column) :
    Tests s (.like e false any pattern escape?) ⟨id, column, .like, value⟩
  | isIn {e : Statement.Expr} {list : List Statement.Expr} {values : List Json.Value} {id column : String}
    (hvalues : list.mapM memberValue? = some values) (h : s.Names e id column) :
    Tests s (.isIn e false list) ⟨id, column, .isIn, .array values⟩
  | isNull {e : Statement.Expr} {id column : String} (h : s.Names e id column) :
    Tests s (.isNull e false) ⟨id, column, .isNull, .null⟩
  | isNotNull {e : Statement.Expr} {id column : String} (h : s.Names e id column) :
    Tests s (.isNull e true) ⟨id, column, .isNotNull, .null⟩

theorem column_eq_ok_iff : s.column e = .ok (id, column) ↔ s.Names e id column := by
  unfold Names
  fun_induction Expr.path? e with
  | case1 path => simp
  | case2 e ih => rw [← ih, Scope.column]
  | case3 e hname hnested =>
    rw [Scope.column]
    · simp
    all_goals grind

theorem map_column_eq_ok_iff {α : Type} {f : String × String → α} {a : α} :
    (s.column e).map f = .ok a ↔ ∃ id column, s.Names e id column ∧ f (id, column) = a := by
  simp only [← column_eq_ok_iff]
  rcases s.column e with u | ⟨id, column⟩
  · simp [Except.map]
  · simp [Except.map, and_assoc]

theorem selection_eq_ok_iff {alias? : Option String} {x : Selection} :
    s.selection e alias? = .ok (id, x) ↔ ∃ column, s.selected e = .ok (id, column) ∧ withAlias column alias? = x := by
  rw [selection]
  rcases s.selected e with u | ⟨i, c⟩
  · simp [Except.map]
  · simp only [Except.map]
    grind

theorem selected_of_names (h : s.Names e id column) : s.selected e = .ok (id, { column }) := by
  have hselected : s.selected e = (s.column e).map fun place => (place.1, { column := place.2 }) := by
    obtain ⟨path, hpath, -⟩ := h
    cases e with
    | name path | nested e => rfl
    | _ => simp [Expr.path?] at hpath
  rw [hselected, column_eq_ok_iff.2 h]
  rfl

theorem pick_eq_some_iff {i : SelectItem} {x : Selection} : s.pick? i = some (id, x) ↔ s.Selects i id x := by
  constructor
  · intro h
    cases i with
    | wildcard text => cases h
    | expr e alias? =>
      have hselection : s.selection e (alias?.map (·.value)) = .ok (id, x) := by
        rw [pick?] at h
        revert h
        cases s.selection e (alias?.map (·.value)) <;> simp [Except.toOption]
      obtain ⟨selected, hselected, rfl⟩ := selection_eq_ok_iff.1 hselection
      unfold Scope.selected at hselected
      split at hselected
      · split at hselected
        · cases hselected
        · next window hwindow =>
          split at hselected
          · cases hselected
          · next a ha =>
            obtain ⟨id', column, hnames, heq⟩ := map_column_eq_ok_iff.1 hselected
            obtain ⟨rfl, rfl⟩ := Prod.mk.inj heq
            obtain rfl := eq_false_of_ne_true hwindow
            exact .aggregate ha hnames
      · split at hselected
        · cases hselected
        · split at hselected <;> cases hselected
      · cases hselected
      · obtain ⟨id', column, hnames, heq⟩ := map_column_eq_ok_iff.1 hselected
        obtain ⟨rfl, rfl⟩ := Prod.mk.inj heq
        exact .plain hnames
  · intro h
    cases h with
    | plain hnames => rw [pick?, selection, selected_of_names hnames]; rfl
    | aggregate hfunction hnames =>
      simp only [pick?, selection, selected, Bool.false_eq_true, if_false, hfunction, column_eq_ok_iff.2 hnames]
      rfl

theorem condition_eq_ok_iff {c : Condition} : s.condition e = .ok c ↔ s.Tests e c := by
  constructor
  · intro h
    unfold condition conditionOn at h
    split at h
    · split at h
      · cases h
      · split at h
        · cases h
        · next op hop =>
          split at h
          · cases h
          · next v hv =>
            obtain ⟨id, column, hnames, rfl⟩ := map_column_eq_ok_iff.1 h
            exact .compare hop hv hnames
    · split at h
      · cases h
      · next v hv =>
        obtain ⟨id, column, hnames, rfl⟩ := map_column_eq_ok_iff.1 h
        exact .like hv hnames
    · split at h
      · cases h
      · next vs hvs =>
        obtain ⟨id, column, hnames, rfl⟩ := map_column_eq_ok_iff.1 h
        exact .isIn hvs hnames
    · obtain ⟨id, column, hnames, rfl⟩ := map_column_eq_ok_iff.1 h
      exact .isNull hnames
    · obtain ⟨id, column, hnames, rfl⟩ := map_column_eq_ok_iff.1 h
      exact .isNotNull hnames
    all_goals cases h
  · intro h
    have hon {e : Statement.Expr} {id column : String} (op : FilterOp) (v : Json.Value) (h : s.Names e id column) :
        s.conditionOn e op v = .ok ⟨id, column, op, v⟩ :=
      map_column_eq_ok_iff.2 ⟨id, column, h, rfl⟩
    cases h with
    | @compare operator left right op value id column hop hvalue hnames =>
      have hor : operator ≠ "OR" := by
        rintro rfl
        cases hop
      simp only [condition, hor, if_false, hop, hvalue, hon op value hnames]
    | like hvalue hnames => simp only [condition, hvalue, hon _ _ hnames]
    | isIn hvalues hnames => simp only [condition, hvalues, hon _ _ hnames]
    | isNull hnames => simp only [condition, hon _ _ hnames]
    | isNotNull hnames => simp only [condition, hon _ _ hnames]

/-- A relation is read exactly when it is a table of the canvas. -/
theorem relation_eq_ok_iff {r : Relation} :
    s.relation r = .ok s' ↔ ∃ path arguments alias? after t, r = .table path arguments alias? after ∧
      matchTable? s.tables (path.map (·.value)) (alias?.map (·.value)) = some t ∧
      s' = s.add ((path.map (·.value)).getLast?.getD "") (alias?.map (·.value)) t.id := by
  constructor
  · intro h
    unfold relation at h
    split at h
    · next path arguments alias? after =>
      dsimp only at h
      split at h
      · next t ht => exact ⟨path, arguments, alias?, after, t, rfl, ht, (Except.ok.inj h).symm⟩
      · cases h
    all_goals cases h
  · rintro ⟨path, arguments, alias?, after, t, rfl, ht, rfl⟩
    simp only [relation, ht]

/-- Every name leads to a table of the canvas. -/
structure Founded (s : Scope) : Prop where
  qualifiers : ∀ x ∈ s.qualifiers, x.2 ∈ s.tables.map (·.id)
  inFrom : ∀ id ∈ s.inFrom, id ∈ s.tables.map (·.id)

/-- One relation keeps the names on the canvas. -/
theorem founded_relation {r : Relation} (hs : s.Founded) (h : s.relation r = .ok s') :
    s'.Founded ∧ s'.tables = s.tables := by
  obtain ⟨path, arguments, alias?, after, t, -, ht, rfl⟩ := relation_eq_ok_iff.1 h
  have hid : t.id ∈ s.tables.map (·.id) := List.mem_map_of_mem (matched_mem ht)
  refine ⟨⟨fun x hx => ?_, fun i hi => ?_⟩, rfl⟩
  · simp only [add, List.mem_append, List.mem_map, Option.mem_toList, List.mem_cons] at hx
    rcases hx with ⟨a, -, rfl⟩ | rfl | hx
    · exact hid
    · exact hid
    · exact hs.qualifiers x hx
  · simp only [add, List.mem_append, List.mem_singleton] at hi
    rcases hi with hi | rfl
    · exact hs.inFrom i hi
    · exact hid

/-- All relations keep the names on the canvas, and nothing is reported exactly when all are tables of it. -/
theorem founded_relations {rs : List Relation} (hs : s.Founded) :
    (s.relations rs).1.Founded ∧ (s.relations rs).1.tables = s.tables ∧
      ((s.relations rs).2 = [] ↔ ∀ r ∈ rs, r.IsTable s.tables) := by
  induction rs generalizing s with
  | nil => exact ⟨hs, rfl, by simp [relations]⟩
  | cons r rs ih =>
    rw [relations]
    cases hr : s.relation r with
    | ok s' =>
      obtain ⟨hs', htables⟩ := founded_relation hs hr
      obtain ⟨hfounded, hsame, hnone⟩ := ih hs'
      obtain ⟨path, arguments, alias?, after, t, rfl, ht, -⟩ := relation_eq_ok_iff.1 hr
      refine ⟨hfounded, hsame.trans htables, hnone.trans ?_⟩
      rw [htables, List.forall_mem_cons]
      exact (and_iff_right ⟨path, arguments, alias?, after, t, matched_mem ht, rfl, ht⟩).symm
    | error u =>
      obtain ⟨hfounded, hsame, -⟩ := ih hs
      refine ⟨hfounded, hsame, ?_⟩
      simp only [reduceCtorEq, false_iff]
      intro hall
      obtain ⟨path, arguments, alias?, after, t, -, rfl, ht⟩ := hall r List.mem_cons_self
      have hok := relation_eq_ok_iff.2 ⟨path, arguments, alias?, after, t, rfl, ht, rfl⟩
      cases hr.symm.trans hok

theorem founded_ofTables (tables : List Table) (items : List FromItem) :
    (ofTables tables items).1.Founded ∧ (ofTables tables items).1.tables = tables ∧
      ((ofTables tables items).2 = [] ↔ ∀ r ∈ items.flatMap FromItem.relations, r.IsTable tables) :=
  founded_relations ⟨nofun, nofun⟩

theorem bare_eq_ok {name : String} (h : s.bare name = .ok (id, column)) : column = name ∧ id ∈ s.inFrom := by
  unfold bare at h
  split at h
  · next only honly =>
    obtain ⟨rfl, rfl⟩ := Prod.mk.inj (Except.ok.inj h)
    exact ⟨rfl, by simp [honly]⟩
  · split at h
    · next owner howner =>
      obtain ⟨rfl, rfl⟩ := Prod.mk.inj (Except.ok.inj h)
      have hmem : owner ∈ s.inFrom.filter (s.hasColumn · name) := by simp [howner]
      exact ⟨rfl, (List.mem_filter.1 hmem).1⟩
    · cases h
    · cases h

/-- The column of a name is its last part, and its table is that of a relation or of a qualifier. -/
theorem Names.exists_path (h : s.Names e id column) :
    ∃ path, e.path? = some path ∧ column = (path.getLast?.map (·.value)).getD "" ∧
      (id ∈ s.inFrom ∨ ∃ qualifier, s.qualifier? qualifier = some id) := by
  obtain ⟨path, hpath, hcolumn⟩ := h
  refine ⟨path, hpath, ?_⟩
  generalize he : Statement.Expr.name path = e' at hcolumn
  unfold Scope.column at hcolumn
  split at hcolumn
  · next i =>
    obtain rfl := Statement.Expr.name.inj he
    obtain ⟨rfl, hid⟩ := bare_eq_ok hcolumn
    exact ⟨rfl, Or.inl hid⟩
  · next path' _ =>
    obtain rfl := Statement.Expr.name.inj he
    dsimp only at hcolumn
    split at hcolumn
    · next found hfound =>
      obtain ⟨rfl, rfl⟩ := Prod.mk.inj (Except.ok.inj hcolumn)
      exact ⟨rfl, Or.inr ⟨_, hfound⟩⟩
    · cases hcolumn
  · cases he
  · cases hcolumn

/-- A name that is a column leads to a table of the canvas. -/
theorem Founded.id_mem (hs : s.Founded) (h : s.Names e id column) : id ∈ s.tables.map (·.id) := by
  obtain ⟨path, -, -, hid | ⟨qualifier, hqualifier⟩⟩ := h.exists_path
  · exact hs.inFrom id hid
  · obtain ⟨x, hx, rfl⟩ := Option.map_eq_some_iff.1 hqualifier
    exact hs.qualifiers x (List.mem_of_find?_eq_some hx)

theorem Founded.selects_mem (hs : s.Founded) {i : SelectItem} {x : Selection} (h : s.Selects i id x) :
    id ∈ s.tables.map (·.id) := by
  cases h with
  | plain hnames => exact hs.id_mem hnames
  | aggregate hfunction hnames => exact hs.id_mem hnames

theorem Founded.tests_mem (hs : s.Founded) {c : Condition} (h : s.Tests e c) : c.table ∈ s.tables.map (·.id) := by
  cases h with
  | compare hop hvalue hnames => exact hs.id_mem hnames
  | like hvalue hnames => exact hs.id_mem hnames
  | isIn hvalues hnames => exact hs.id_mem hnames
  | isNull hnames => exact hs.id_mem hnames
  | isNotNull hnames => exact hs.id_mem hnames

end Scope

/-! ### The fragment -/

/-- A query with plain and singly aggregated columns of tables of the canvas, simple conditions on such columns, and no
grouping but by all columns. -/
structure Understood (tables : List Table) (q : Query) (s : Select) : Prop where
  definitions : q.with? = none
  order : q.order? = none
  relations : ∀ r ∈ s.tables.flatMap FromItem.relations, r.IsTable tables
  items : ∀ i ∈ s.items, ∃ id x, id ∈ tables.map (·.id) ∧ (Scope.ofTables tables s.tables).1.Selects i id x
  conjuncts : ∀ e ∈ s.conjuncts, ∃ c, c.table ∈ tables.map (·.id) ∧ (Scope.ofTables tables s.tables).1.Tests e c
  grouping : s.grouping = .none ∨ s.grouping = .all
  having : s.having? = none

namespace Sync

/-- Nothing is reported, and no selection or condition is left out. -/
structure IsComplete (y : Sync) : Prop where
  unsupported : y.unsupported = []
  selections : y.selectionsComplete = true
  filters : y.filtersComplete = true

instance (y : Sync) : Decidable y.IsComplete :=
  decidable_of_iff (y.unsupported = [] ∧ y.selectionsComplete = true ∧ y.filtersComplete = true)
    ⟨fun h => ⟨h.1, h.2.1, h.2.2⟩, fun h => ⟨h.unsupported, h.selections, h.filters⟩⟩

theorem reports_eq_nil_iff {tables : List Table} {q : Query} {s : Select} :
    let scope := (Scope.ofTables tables s.tables).1
    reports tables q s = [] ↔ q.with? = none ∧ q.order? = none ∧ (Scope.ofTables tables s.tables).2 = [] ∧
      (∀ i ∈ s.items, scope.itemReason? i = none) ∧ (∀ e ∈ s.conjuncts, reason? (scope.condition e) = none) ∧
      (s.grouping = .none ∨ s.grouping = .all) ∧ s.having? = none := by
  have hgrouping : groupingReason? s.grouping = none ↔ s.grouping = .none ∨ s.grouping = .all := by
    cases s.grouping <;> simp [groupingReason?]
  simp only [reports, List.append_eq_nil_iff, ite_eq_right_iff, imp_false, Bool.not_eq_true,
    Option.isSome_eq_false_iff, Option.isNone_iff_eq_none, List.filterMap_eq_nil_iff, Option.toList_eq_nil_iff,
    hgrouping, and_assoc, List.cons_ne_nil]

/-- The record of a query is complete exactly when the query is in the fragment. -/
theorem ofSelect_isComplete_iff (tables : List Table) (q : Query) (s : Select) :
    (ofSelect tables q s).IsComplete ↔ Understood tables q s := by
  obtain ⟨hfounded, htables, hrelations⟩ := Scope.founded_ofTables tables s.tables
  constructor
  · rintro ⟨hunsupported, hselections, hfilters⟩
    rw [ofSelect_eq] at hunsupported hselections hfilters
    obtain ⟨hwith, horder, hmissing, -, -, hgrouping, hhaving⟩ := reports_eq_nil_iff.1 hunsupported
    refine ⟨hwith, horder, hrelations.1 hmissing, fun i hi => ?_, fun e he => ?_, hgrouping, hhaving⟩
    · obtain ⟨⟨id, x⟩, hpick⟩ := Option.isSome_iff_exists.1 (List.all_eq_true.1 hselections i hi)
      have hselects := Scope.pick_eq_some_iff.1 hpick
      -- the names of the scope lead only to tables that a relation was matched with
      have hid := hfounded.selects_mem hselects
      rw [htables] at hid
      exact ⟨id, x, hid, hselects⟩
    · have hok := List.all_eq_true.1 hfilters e he
      cases hcondition : (Scope.ofTables tables s.tables).1.condition e with
      | error u => simp [hcondition, Except.isOk, Except.toBool] at hok
      | ok c =>
        have htests := Scope.condition_eq_ok_iff.1 hcondition
        have hid := hfounded.tests_mem htests
        rw [htables] at hid
        exact ⟨c, hid, htests⟩
  · intro h
    have hpick : ∀ i ∈ s.items, ∃ x, (Scope.ofTables tables s.tables).1.pick? i = some x := fun i hi => by
      obtain ⟨id, x, -, hselects⟩ := h.items i hi
      exact ⟨(id, x), Scope.pick_eq_some_iff.2 hselects⟩
    have hcondition : ∀ e ∈ s.conjuncts, ∃ c, (Scope.ofTables tables s.tables).1.condition e = .ok c := fun e he => by
      obtain ⟨c, -, htests⟩ := h.conjuncts e he
      exact ⟨c, Scope.condition_eq_ok_iff.2 htests⟩
    rw [ofSelect_eq]
    refine ⟨?_, ?_, ?_⟩
    · refine reports_eq_nil_iff.2 ⟨h.definitions, h.order, hrelations.2 h.relations, fun i hi => ?_, fun e he => ?_,
        h.grouping, h.having⟩
      · obtain ⟨x, hx⟩ := hpick i hi
        refine Option.eq_none_iff_forall_ne_some.2 fun u hu => ?_
        cases hx.symm.trans (Scope.pick_eq_none_of_reason hu)
      · obtain ⟨c, hc⟩ := hcondition e he
        rw [hc, reason?]
    · refine List.all_eq_true.2 fun i hi => ?_
      obtain ⟨x, hx⟩ := hpick i hi
      rw [hx, Option.isSome_some]
    · refine List.all_eq_true.2 fun e he => ?_
      obtain ⟨c, hc⟩ := hcondition e he
      rw [hc]
      rfl

end Sync

/-! ### What is not looked at -/

namespace Scope

variable (s : Scope)

theorem relation_seen (r : Relation) : s.relation r.seen = s.relation r := by
  cases r <;> rfl

theorem relations_seen (rs : List Relation) : s.relations (rs.map Relation.seen) = s.relations rs := by
  induction rs generalizing s with
  | nil => rfl
  | cons r rs ih => simp only [List.map_cons, relations, relation_seen, ih]

theorem selection_seen (i : SelectItem) : s.pick? i.seen = s.pick? i ∧ s.itemReason? i.seen = s.itemReason? i := by
  unfold SelectItem.seen
  split <;> exact ⟨rfl, rfl⟩

theorem condition_seen (e : Statement.Expr) : s.condition e.seen = s.condition e := by
  unfold Expr.seen
  split
  · next e any pattern escape? =>
    split
    · next hvalue =>
      obtain ⟨v, hv⟩ := Option.isSome_iff_exists.1 hvalue
      simp only [condition, hv]
    · rfl
  · rfl

end Scope

section

variable {α β : Type} {g : α → α} {l l' : List α}

theorem filterMap_eq_of_map_eq {f : α → Option β} (hf : ∀ a, f (g a) = f a) (h : l.map g = l'.map g) :
    l.filterMap f = l'.filterMap f := by
  have hcomp : f = f ∘ g := funext fun a => (hf a).symm
  rw [hcomp, ← List.filterMap_map, ← List.filterMap_map, h]

theorem all_eq_of_map_eq {p : α → Bool} (hp : ∀ a, p (g a) = p a) (h : l.map g = l'.map g) : l.all p = l'.all p := by
  have hcomp : p = p ∘ g := funext fun a => (hp a).symm
  rw [hcomp, ← List.all_map, ← List.all_map, h]

end

namespace Sync

/-- Queries that agree in all that is looked at have the same record. -/
theorem ofSelect_congr (tables : List Table) {q q' : Query} {s s' : Select} (h : Seen.of q s = Seen.of q' s') :
    ofSelect tables q s = ofSelect tables q' s' := by
  obtain ⟨hwith, horder, hrelations, hitems, hconjuncts, hgrouping, hhaving⟩ := Seen.mk.inj h
  have hscope : Scope.ofTables tables s.tables = Scope.ofTables tables s'.tables := by
    rw [Scope.ofTables, Scope.ofTables, ← Scope.relations_seen, hrelations, Scope.relations_seen]
  generalize hscope' : (Scope.ofTables tables s'.tables).1 = scope
  have hpick : s.items.filterMap scope.pick? = s'.items.filterMap scope.pick? :=
    filterMap_eq_of_map_eq (fun i => (scope.selection_seen i).1) hitems
  have hreason : s.items.filterMap scope.itemReason? = s'.items.filterMap scope.itemReason? :=
    filterMap_eq_of_map_eq (fun i => (scope.selection_seen i).2) hitems
  have hselections : (s.items.all fun i => (scope.pick? i).isSome) = s'.items.all fun i => (scope.pick? i).isSome :=
    all_eq_of_map_eq (fun i => by rw [(scope.selection_seen i).1]) hitems
  have hconditions : (s.conjuncts.filterMap fun e => (scope.condition e).toOption) =
      s'.conjuncts.filterMap fun e => (scope.condition e).toOption :=
    filterMap_eq_of_map_eq (fun e => by rw [scope.condition_seen]) hconjuncts
  have hreasons : (s.conjuncts.filterMap fun e => reason? (scope.condition e)) =
      s'.conjuncts.filterMap fun e => reason? (scope.condition e) :=
    filterMap_eq_of_map_eq (fun e => by rw [scope.condition_seen]) hconjuncts
  have hfilters : (s.conjuncts.all fun e => (scope.condition e).isOk) =
      s'.conjuncts.all fun e => (scope.condition e).isOk :=
    all_eq_of_map_eq (fun e => by rw [scope.condition_seen]) hconjuncts
  simp only [ofSelect_eq, reports, hscope, hscope', hwith, horder, hhaving, hgrouping, hpick, hreason, hselections,
    hconditions, hreasons, hfilters]

end Sync

open Sync

/-- A text with a complete record is a query of the fragment, as far as it is looked at.  What is not looked at has no
effect: every query that agrees with it in the rest has the same record.  This holds of all texts that any reader
accepts. -/
theorem ofText_isComplete_iff {read : Reader} {m : Model} {sql : String} {y : Sync} (hy : ofText read sql m = .ok y) :
    ∃ q s, read sql = some [.query q] ∧ q.body = .select s ∧
      (y.IsComplete ↔ Understood m.tables q s) ∧
      ∀ other q' s', read other = some [.query q'] → q'.body = .select s' → Seen.of q' s' = Seen.of q s →
        ofText read other m = .ok y := by
  obtain ⟨q, s, hread, hbody, rfl⟩ := ofText_eq_ok_iff.1 hy
  refine ⟨q, s, hread, hbody, ofSelect_isComplete_iff m.tables q s, fun other q' s' hread' hbody' hseen => ?_⟩
  exact ofText_eq_ok_iff.2 ⟨q', s', hread', hbody', ofSelect_congr m.tables hseen⟩

/-- The query of a text that is a single `SELECT`. -/
def onlySelect? : List Sentence → Option (Query × Select)
  | [.query q] =>
    match q.body with
    | .select s => some (q, s)
    | .other _ => none
  | _ => none

theorem onlySelect_eq_some_iff {xs : List Sentence} {q : Query} {s : Select} :
    onlySelect? xs = some (q, s) ↔ xs = [.query q] ∧ q.body = .select s := by
  constructor
  · intro h
    unfold onlySelect? at h
    split at h
    · split at h
      · next hbody =>
        obtain ⟨rfl, rfl⟩ := Prod.mk.inj (Option.some.inj h)
        exact ⟨rfl, hbody⟩
      · cases h
    · cases h
  · rintro ⟨rfl, hbody⟩
    simp only [onlySelect?, hbody]

/-- A model of a single table. -/
def ordersModel : Model where
  id := "m"
  tables := [{ id := "a", name := "orders" }]

/-- A query of which two parts are not looked at. -/
def firstDistinctSql : String :=
  "SELECT DISTINCT \x60id\x60 AS \x60x\x60 FROM \x60orders\x60 AS \x60o\x60 LIMIT 5"

theorem read_firstDistinct : ∃ q s, Statement.read firstDistinctSql = some [.query q] ∧ q.body = .select s ∧
    s.quantifier = " DISTINCT" ∧ q.limits = " LIMIT 5" ∧ (ofSelect ordersModel.tables q s).IsComplete := by
  have hseen : ((Statement.read firstDistinctSql).bind onlySelect?).any (fun p =>
      p.2.quantifier = " DISTINCT" ∧ p.1.limits = " LIMIT 5" ∧
        (ofSelect ordersModel.tables p.1 p.2).IsComplete) = true := by
    decide +kernel
  obtain ⟨⟨q, s⟩, hselect, hseen⟩ := (Option.any_eq_true _ _).1 hseen
  obtain ⟨xs, hread, honly⟩ := Option.bind_eq_some_iff.1 hselect
  obtain ⟨rfl, hbody⟩ := onlySelect_eq_some_iff.1 honly
  exact ⟨q, s, hread, hbody, of_decide_eq_true hseen⟩

/-- The theorem at that query. -/
theorem ofText_isComplete_iff_firstDistinct : ∃ y, ofSql firstDistinctSql ordersModel = .ok y ∧
    ∃ q s, Statement.read firstDistinctSql = some [.query q] ∧ q.body = .select s ∧
      (y.IsComplete ↔ Understood ordersModel.tables q s) ∧
      ∀ other q' s', Statement.read other = some [.query q'] → q'.body = .select s' → Seen.of q' s' = Seen.of q s →
        ofSql other ordersModel = .ok y := by
  obtain ⟨q, s, hread, hbody, -⟩ := read_firstDistinct
  have hy : ofSql firstDistinctSql ordersModel = .ok (ofSelect ordersModel.tables q s) :=
    ofText_eq_ok_iff.2 ⟨q, s, hread, hbody, rfl⟩
  exact ⟨_, hy, ofText_isComplete_iff hy⟩

/-- The record is complete, and neither `DISTINCT` nor the limit is reported. -/
theorem ofSql_firstDistinct : ∃ q s y, Statement.read firstDistinctSql = some [.query q] ∧ q.body = .select s ∧
    s.quantifier = " DISTINCT" ∧ q.limits = " LIMIT 5" ∧ ofSql firstDistinctSql ordersModel = .ok y ∧
    y.IsComplete := by
  obtain ⟨q, s, hread, hbody, hquantifier, hlimits, hcomplete⟩ := read_firstDistinct
  exact ⟨q, s, _, hread, hbody, hquantifier, hlimits, ofText_eq_ok_iff.2 ⟨q, s, hread, hbody, rfl⟩, hcomplete⟩

end JoinCanvas
