import JoinCanvas.Proofs.Statement.Opening
import JoinCanvas.Proofs.Sync.Report
import JoinCanvas.Proofs.Sync.RoundTrip

/-!
# Where the columns of a compiled query are attributed

A query that is read back attributes every column to the table that its qualifier leads to.  In a compiled query the
qualifier is the alias of a table of the canvas; it leads to that table, unless a table that the query names later has
the alias as its name.

* `scope_compiled`: where the aliases lead, whatever the conditions are.
* `selections_compiled`: to which tables the selected columns are attributed.
* `sync_attributes`: both, with the conditions where they can be read.
-/

namespace JoinCanvas

open JoinCanvas.Sql JoinCanvas.Statement JoinCanvas.Text JoinCanvas.Skeleton

theorem findTable_of_nodup {tables : List Table} (h : (tables.map (·.id)).Nodup) {place : Nat} {t : Table}
    (ht : tables[place]? = some t) : findTable? tables t.id = some (place, t) := by
  refine findTable_eq_some_iff.2 ⟨ht, rfl, fun k hk u hu he => ?_⟩
  have hlength : k < (tables.map (·.id)).length := by
    simpa using (List.getElem?_eq_some_iff.1 hu).1
  have hsame : (tables.map (·.id))[k]? = (tables.map (·.id))[place]? := by
    simp [hu, ht, he]
  exact absurd ((List.getElem?_inj hlength h).1 hsame) (by omega)

/-- The selections of a query come from its items. -/
theorem Sync.selections_ofSelect (tables : List Table) (q : Statement.Query) (s : Select) :
    (ofSelect tables q s).selections =
      (s.items.foldl (addItem (Scope.ofTables tables s.tables).1) {}).selections := by
  rw [ofSelect_eq, addItems_eq]

/-! ### Compiled queries -/

variable {m : Model} {c : Compiled}

/-- The aliases of a compiled query that is read as a single `SELECT`, whatever its conditions are. -/
theorem scope_compiled (hmanual : m.filters.manual? = none) (hm : m.tables ≠ []) (hc : m.compile? = some c)
    {q : Statement.Query} {s : Select} (hq : Statement.read c.sql = some [.query q]) (hs : q.body = .select s) :
    ∃ scope, Scope.ofTables m.tables s.tables = (scope, []) ∧ scope.Leads m.tables (leadsTo m.tables m.edges) := by
  obtain ⟨base, others, htables⟩ := List.exists_cons_of_ne_nil hm
  obtain ⟨-, hfrom⟩ := read_opening hmanual htables hc hq hs
  rw [hfrom, htables]
  exact exists_scope base others m.edges

/-- The selected columns of a compiled query are attributed to the tables that the aliases lead to. -/
theorem selections_compiled (hmanual : m.filters.manual? = none) (hm : m.tables ≠ []) (hc : m.compile? = some c)
    {y : Sync} (hy : Sync.ofSql c.sql m = .ok y) :
    y.selections = record ((picks m.tables).map fun x => (leadsTo m.tables m.edges x.1, x.2)) [] := by
  obtain ⟨base, others, htables⟩ := List.exists_cons_of_ne_nil hm
  obtain ⟨q, s, hq, hs, rfl⟩ := Sync.ofText_eq_ok_iff.1 hy
  obtain ⟨scope, hscope, hleads⟩ := scope_compiled hmanual hm hc hq hs
  rw [Sync.selections_ofSelect, hscope, (read_opening hmanual htables hc hq hs).1, foldl_addItem_selectedItems hleads]

/-- What is read of a compiled query with conditions that can be read. -/
theorem ofSql_compiled (hmanual : m.filters.manual? = none) (hm : m.tables ≠ []) (hc : m.compile? = some c)
    (hcs : ∀ d ∈ m.filters.list, d.Readable) :
    Sync.ofSql c.sql m = .ok (Sync.ofCanvasThrough (leadsTo m.tables m.edges) m) := by
  obtain ⟨c', hc', hread⟩ := read_compiled hmanual hm hcs
  obtain rfl := Option.some.inj (hc.symm.trans hc')
  rw [Sync.ofSql, Sync.ofText, hread]
  simp only [ofSelect_through hm hcs]

/-- In the compiled query of a canvas the alias of every table leads to a table of the canvas, and every column that is
read is attributed there: the selected columns whatever the conditions are, and the conditions where they can be read.
It is the table itself exactly when no table that is named later in the query has the alias as its name. -/
theorem sync_attributes (hmanual : m.filters.manual? = none) (hm : m.tables ≠ [])
    (hids : (m.tables.map (·.id)).Nodup) :
    ∃ c, m.compile? = some c ∧
      (∀ q s, Statement.read c.sql = some [.query q] → q.body = .select s →
        ∃ scope, Scope.ofTables m.tables s.tables = (scope, []) ∧ ∀ place t, m.tables[place]? = some t →
          scope.qualifier? (tableAlias place) = some (leadsTo m.tables m.edges t.id)) ∧
      (∀ y, Sync.ofSql c.sql m = .ok y →
        y.selections = record ((picks m.tables).map fun x => (leadsTo m.tables m.edges x.1, x.2)) []) ∧
      ((∀ d ∈ m.filters.list, d.Readable) → ∃ y, Sync.ofSql c.sql m = .ok y ∧ y.unsupported = [] ∧
        y.conditions = (m.filters.list.filter (·.isWritten m.tables)).map fun d =>
          d.restored.on (leadsTo m.tables m.edges d.table)) ∧
      ∀ place t, m.tables[place]? = some t →
        (leadsTo m.tables m.edges t.id = t.id ↔ ∀ u ∈ m.tables, NamedBefore m.tables m.edges t.id u.id →
          sameLetters u.name (tableAlias place) = false) := by
  obtain ⟨base, others, htables⟩ := List.exists_cons_of_ne_nil hm
  obtain ⟨query, hquery, -⟩ := exists_query htables
  have hc := compile_eq_of_query hmanual hquery
  refine ⟨_, hc, fun q s hq hs => ?_, fun y hy => selections_compiled hmanual hm hc hy, fun hcs => ?_,
    fun place t ht => ?_⟩
  · obtain ⟨scope, hscope, hleads⟩ := scope_compiled hmanual hm hc hq hs
    exact ⟨scope, hscope, fun place t ht => hleads t.id place t (findTable_of_nodup hids ht)⟩
  · exact ⟨_, ofSql_compiled hmanual hm hc hcs, rfl, rfl⟩
  · have hfind := findTable_of_nodup hids ht
    rw [htables] at hfind hids ⊢
    rw [leadsTo_eq_self_iff hfind]
    constructor
    · intro h u hu hlater
      obtain ⟨k, hk⟩ := List.getElem?_of_mem hu
      exact h u.id k u (findTable_of_nodup hids hk) hlater
    · intro h other k u hu hlater
      obtain ⟨hk, rfl, -⟩ := findTable_eq_some_iff.1 hu
      exact h u (List.mem_of_getElem? hk) hlater

/-- A model whose second table is named like the alias of the first one. -/
def shadowedModel : Model where
  id := "shadowed"
  tables := [{ id := "a", name := "orders", selections := [⟨"x", .none, none, false⟩] }, { id := "b", name := "t1" }]
  filters := .conditions [⟨"a", "y", .isNull, .null⟩]

theorem plan_shadowed : Plan.ofCanvas shadowedModel.tables shadowedModel.edges =
    { base? := some ⟨"a", "\x60orders\x60", "t1"⟩
      joins := [⟨none, .cross, ⟨"b", "\x60t1\x60", "t2"⟩, []⟩]
      unjoined := ["b"]
      warnings := [.crossJoinedTable "b"] } := by
  simp only [shadowedModel, Plan.ofCanvas]
  rw [Progress.settle_of_pass (by rfl)]
  rfl

/-- The theorem at that model, where the alias of the first table leads to the second one. -/
theorem sync_attributes_shadowed : shadowedModel.filters.manual? = none ∧ shadowedModel.tables ≠ [] ∧
    (shadowedModel.tables.map (·.id)).Nodup ∧
    ∃ c, shadowedModel.compile? = some c ∧
      (∀ q s, Statement.read c.sql = some [.query q] → q.body = .select s →
        ∃ scope, Scope.ofTables shadowedModel.tables s.tables = (scope, []) ∧
          ∀ place t, shadowedModel.tables[place]? = some t → scope.qualifier? (tableAlias place) =
            some (leadsTo shadowedModel.tables shadowedModel.edges t.id)) ∧
      (∀ y, Sync.ofSql c.sql shadowedModel = .ok y → y.selections =
        record ((picks shadowedModel.tables).map fun x =>
          (leadsTo shadowedModel.tables shadowedModel.edges x.1, x.2)) []) ∧
      ((∀ d ∈ shadowedModel.filters.list, d.Readable) → ∃ y, Sync.ofSql c.sql shadowedModel = .ok y ∧
        y.unsupported = [] ∧
        y.conditions = (shadowedModel.filters.list.filter (·.isWritten shadowedModel.tables)).map fun d =>
          d.restored.on (leadsTo shadowedModel.tables shadowedModel.edges d.table)) ∧
      ∀ place t, shadowedModel.tables[place]? = some t →
        (leadsTo shadowedModel.tables shadowedModel.edges t.id = t.id ↔ ∀ u ∈ shadowedModel.tables,
          NamedBefore shadowedModel.tables shadowedModel.edges t.id u.id →
            sameLetters u.name (tableAlias place) = false) :=
  ⟨rfl, by decide, by decide, sync_attributes rfl (by decide) (by decide)⟩

/-- The selected column and the condition of the first table are attributed to the second one. -/
theorem ofSql_shadowed : ∃ c y, shadowedModel.compile? = some c ∧
    c.sql = "SELECT t1.\x60x\x60 FROM \x60orders\x60 AS t1 CROSS JOIN \x60t1\x60 AS t2 WHERE t1.\x60y\x60 IS NULL" ∧
    Sync.ofSql c.sql shadowedModel = .ok y ∧ y.selections = [⟨"b", [⟨"x", .none, none, false⟩]⟩] ∧
    y.conditions = [⟨"b", "y", .isNull, .null⟩] := by
  have hsql : shadowedModel.compile?.map (·.sql) =
      some "SELECT t1.\x60x\x60 FROM \x60orders\x60 AS t1 CROSS JOIN \x60t1\x60 AS t2 WHERE t1.\x60y\x60 IS NULL" := by
    simp only [Model.compile?, Model.query?, plan_shadowed]
    rfl
  obtain ⟨c, hc, hsql⟩ := Option.map_eq_some_iff.1 hsql
  have hcs : ∀ d ∈ shadowedModel.filters.list, d.Readable := by
    intro d hd
    obtain rfl := List.mem_singleton.1 hd
    exact ⟨fun h => absurd h (by decide), fun h => absurd h (by decide)⟩
  have hleads : leadsTo shadowedModel.tables shadowedModel.edges "a" = "b" := by
    rw [leadsTo, plan_shadowed]
    decide
  have hpicks : picks shadowedModel.tables = [("a", ⟨"x", .none, none, false⟩)] := rfl
  have hwritten : shadowedModel.filters.list.filter (·.isWritten shadowedModel.tables) =
      [⟨"a", "y", .isNull, .null⟩] := rfl
  refine ⟨c, _, hc, hsql, ofSql_compiled rfl (by decide) hc hcs, ?_, ?_⟩
  · simp only [Sync.ofCanvasThrough, hpicks, List.map_cons, List.map_nil, hleads]
    rfl
  · simp only [Sync.ofCanvasThrough, hwritten, List.map_cons, List.map_nil, hleads]
    rfl

end JoinCanvas
