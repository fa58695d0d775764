import JoinCanvas.Proofs.Sync.Conditions
import JoinCanvas.Proofs.Sync.Selections

/-!
# A compiled query read back onto its canvas

The compiled query of a canvas says everything about it that a query can say.  Read back it gives the same canvas, up
to aliases that make no difference, and that compiles to the same query.

* `ofSelect_through`, `ofSelect_ofModelRead`: what is read of a compiled query.
* `apply_ofCanvas`: the canvas it gives.
* `query_normalized`: the canvas that is read compiles to the same query.
* `sync_compiled`: both together.
-/

namespace JoinCanvas

open JoinCanvas.Sql JoinCanvas.Statement JoinCanvas.Text JoinCanvas.Skeleton

/-- The model as it comes back from its compiled query: tables with normalized selections, and the conditions that
are written. -/
def Model.normalized (m : Model) : Model :=
  { m with
    tables := m.tables.map Table.normalized
    filters := .conditions ((m.filters.list.filter (·.isWritten m.tables)).map Condition.restored) }

/-! ### Normalized tables -/

namespace Table

private theorem hidden_of_mem_map {t : Table} {s : Selection} (hs : s ∈ t.visible.map Selection.normalized) :
    s.hidden = false := by
  obtain ⟨u, hu, rfl⟩ := List.mem_map.1 hs
  have hhidden : u.hidden = false := hidden_of_mem_visible hu
  exact hhidden

theorem hiddenSelections_normalized (t : Table) : t.normalized.hiddenSelections = t.hiddenSelections := by
  have hvisible : (t.visible.map Selection.normalized).filter (fun s => s.hidden) = [] :=
    List.filter_eq_nil_iff.2 fun s hs => by simp [hidden_of_mem_map hs]
  rw [hiddenSelections, normalized, List.filter_append, hvisible, List.append_nil, hiddenSelections,
    List.filter_filter]
  simp only [Bool.and_self]

theorem visible_normalized (t : Table) : t.normalized.visible = t.visible.map Selection.normalized := by
  have hhidden : t.hiddenSelections.filter (fun s => !s.hidden) = [] := by
    refine List.filter_eq_nil_iff.2 fun s hs => ?_
    simpa [hiddenSelections] using (List.mem_filter.1 hs).2
  have hvisible : (t.visible.map Selection.normalized).filter (fun s => !s.hidden) =
      t.visible.map Selection.normalized :=
    List.filter_eq_self.2 fun s hs => by simp [hidden_of_mem_map hs]
  rw [visible, normalized, List.filter_append, hhidden, hvisible, List.nil_append]

/-- Without visible selections a table is normalized. -/
theorem normalized_of_visible_nil {t : Table} (h : t.visible = []) : t.normalized = t := by
  have hhidden : t.hiddenSelections = t.selections := by
    refine List.filter_eq_self.2 fun s hs => ?_
    have := List.filter_eq_nil_iff.1 h s hs
    simpa using this
  rw [normalized, h, List.map_nil, List.append_nil, hhidden]

end Table

/-! ### The plan and the query of normalized tables -/

variable (tables : List Table)

private theorem findTable_go_normalized (id : String) (start : Nat) :
    findTable?.go id start (tables.map Table.normalized) =
      (findTable?.go id start tables).map fun x => (x.1, x.2.normalized) := by
  induction tables generalizing start with
  | nil => rfl
  | cons t rest ih =>
    rw [List.map_cons, findTable?.go, findTable?.go]
    by_cases h : t.id = id
    · rw [if_pos h, if_pos (show t.normalized.id = id from h)]
      rfl
    · rw [if_neg h, if_neg (show ¬ t.normalized.id = id from h), ih]

theorem findTable_normalized (id : String) :
    findTable? (tables.map Table.normalized) id = (findTable? tables id).map fun x => (x.1, x.2.normalized) :=
  findTable_go_normalized tables id 0

theorem aliasOf_normalized (id : String) : aliasOf? (tables.map Table.normalized) id = aliasOf? tables id := by
  rw [aliasOf?, aliasOf?, findTable_normalized, Option.map_map]
  rfl

theorem planned_normalized (id : String) : planned? (tables.map Table.normalized) id = planned? tables id := by
  rw [planned?, planned?, findTable_normalized, Option.map_map]
  rfl

private theorem unreached_normalized (joined : List String) :
    unreached (tables.map Table.normalized) joined = unreached tables joined := by
  rw [unreached_eq, unreached_eq, List.map_map]
  rfl

private theorem missingEnd_normalized (e : Edge) :
    missingEnd? (tables.map Table.normalized) e = missingEnd? tables e := by
  simp only [missingEnd?, List.any_map]
  rfl

private theorem joinAlong_normalized (e : Edge) (target : String) :
    joinAlong? (tables.map Table.normalized) e target = joinAlong? tables e target := by
  rw [joinAlong?, joinAlong?, planned_normalized, planned_normalized, planned_normalized]

/-- The plan of a canvas does not depend on its selections. -/
theorem ofCanvas_normalized (edges : List Edge) :
    Plan.ofCanvas (tables.map Table.normalized) edges = Plan.ofCanvas tables edges := by
  cases tables with
  | nil => rfl
  | cons base others =>
    have hid : base.normalized.id = base.id := rfl
    simp only [Plan.ofCanvas, List.map_cons]
    simp only [← List.map_cons, hid, planned_normalized, missingEnd_normalized, unreached_normalized,
      joinAlong_normalized]

/-- What a canvas selects does not depend on aliases that make no difference. -/
theorem selectItems_normalized : selectItems (tables.map Table.normalized) = selectItems tables := by
  rw [selectItems, selectItems, List.flatMap_map]
  refine List.flatMap_congr fun t _ => ?_
  rw [aliasOf_normalized, show t.normalized.id = t.id from rfl]
  cases aliasOf? tables t.id with
  | none => rfl
  | some a => simp only [Table.visible_normalized, List.map_map, Function.comp_def, Selection.item_normalized]

theorem filterExprs_normalized (cs : List Condition) :
    filterExprs (tables.map Table.normalized) cs = filterExprs tables cs := by
  simp only [filterExprs, aliasOf_normalized]

/-- The canvas that is read compiles to the same query. -/
theorem query_normalized (m : Model) : m.normalized.query? = m.query? := by
  simp only [Model.query?, Model.normalized, Filters.list, ofCanvas_normalized, selectItems_normalized,
    filterExprs_normalized, filterExprs_restored]

/-! ### Reading a compiled query -/

/-- What is read of the compiled query of a canvas. -/
def Sync.ofCanvas (m : Model) : Sync where
  selections := record (picks m.tables) []
  selectionsComplete := !(picks m.tables).isEmpty
  conditions := (m.filters.list.filter (·.isWritten m.tables)).map Condition.restored
  groupByAll := m.groupByAll

private theorem conjuncts_whereExpr {es : List Statement.Expr} (hes : ∀ e ∈ es, e.conjuncts = [e]) :
    ((whereExpr? es).map Statement.Expr.conjuncts).getD [] = es := by
  unfold whereExpr?
  split
  · next h => rw [List.isEmpty_iff.1 h]; rfl
  · next h => exact conjuncts_conjoinedExpr (by simpa using h) hes

/-- What is read of the compiled query of a canvas whose aliases lead to the tables that `owner` gives. -/
def Sync.ofCanvasThrough (owner : String → String) (m : Model) : Sync where
  selections := record ((picks m.tables).map fun x => (owner x.1, x.2)) []
  selectionsComplete := !(picks m.tables).isEmpty
  conditions := (m.filters.list.filter (·.isWritten m.tables)).map fun c => c.restored.on (owner c.table)
  groupByAll := m.groupByAll

/-- A compiled query says what the canvas says, on the tables that the aliases lead to, and nothing else, where its
conditions are recorded one after another. -/
theorem ofSelect_recorded {m : Model} (hm : m.tables ≠ []) (hcs : ∀ c ∈ m.filters.list, c.Legible)
    {recorded : List Condition}
    (hrecorded : ∀ s : Scope, s.Leads m.tables (leadsTo m.tables m.edges) → ∀ y : Sync,
      (conditionExprs m.tables m.filters.list).foldl (Sync.addConjunct s) y =
        { y with conditions := y.conditions ++ recorded }) :
    Sync.ofSelect m.tables { body := .select (ofModelRead m) } (ofModelRead m) =
      { Sync.ofCanvasThrough (leadsTo m.tables m.edges) m with conditions := recorded } := by
  obtain ⟨base, others, htables⟩ := List.exists_cons_of_ne_nil hm
  obtain ⟨scope, hscope, hleads⟩ := exists_scope base others m.edges
  obtain ⟨l, -, hexprs, hl⟩ := exists_clauses (base :: others) hcs
  have hsingle : ∀ e ∈ conditionExprs (base :: others) m.filters.list, e.conjuncts = [e] := by
    intro e he
    rw [hexprs] at he
    obtain ⟨x, hx, rfl⟩ := List.mem_map.1 he
    exact (hl x hx).2
  have hitems := foldl_addItem_selectedItems hleads {}
  have hgrouping : ∀ y : Sync, y.groupByAll = false →
      y.addGrouping (grouping m.groupByAll) = { y with groupByAll := m.groupByAll } := by
    rintro ⟨⟩ rfl
    cases m.groupByAll <;> rfl
  rw [htables] at hrecorded
  simp only [Sync.ofSelect, ofModelRead, htables, selectOf, Option.isSome_none, Bool.false_eq_true, if_false,
    hscope, List.foldl_nil, hitems, conjuncts_whereExpr hsingle, hrecorded scope hleads]
  rw [hgrouping _ rfl, Sync.ofCanvasThrough, htables]
  rfl

/-- A compiled query with conditions that can be read says what the canvas says, on the tables that the aliases lead
to, and nothing else. -/
theorem ofSelect_through {m : Model} (hm : m.tables ≠ []) (hcs : ∀ c ∈ m.filters.list, c.Readable) :
    Sync.ofSelect m.tables { body := .select (ofModelRead m) } (ofModelRead m) =
      Sync.ofCanvasThrough (leadsTo m.tables m.edges) m :=
  ofSelect_recorded hm (fun c hc => legible_of_readable (hcs c hc)) fun _ hleads y => foldl_addConjunct hleads hcs y

theorem table_mem_of_isWritten {tables : List Table} {c : Condition} (h : c.isWritten tables = true) :
    c.table ∈ tables.map (·.id) := by
  obtain ⟨e, he⟩ := Option.isSome_iff_exists.1 h
  obtain ⟨x, hx, -⟩ := Option.bind_eq_some_iff.1 he
  exact (isSome_findTable_iff tables c.table).1 (by rw [hx]; rfl)

/-- Where the aliases lead to their own tables, what is read is what the canvas says. -/
theorem ofCanvasThrough_eq {m : Model} {owner : String → String} (h : ∀ id ∈ m.tables.map (·.id), owner id = id) :
    Sync.ofCanvasThrough owner m = Sync.ofCanvas m := by
  have hpicks : (picks m.tables).map (fun x => (owner x.1, x.2)) = picks m.tables :=
    (List.map_congr_left fun x hx => congrArg (·, x.2) (h x.1 (mem_picks hx).1)).trans (List.map_id _)
  have hconditions : (m.filters.list.filter (·.isWritten m.tables)).map (fun c => c.restored.on (owner c.table)) =
      (m.filters.list.filter (·.isWritten m.tables)).map Condition.restored := by
    refine List.map_congr_left fun c hc => ?_
    rw [h c.table (table_mem_of_isWritten (List.mem_filter.1 hc).2), ← table_restored c]
    rfl
  rw [Sync.ofCanvasThrough, hpicks, hconditions, Sync.ofCanvas]

/-- A compiled query with conditions that can be read says what the canvas says, and nothing else. -/
theorem ofSelect_ofModelRead {m : Model} (hm : m.tables ≠ []) (hfree : AliasesFree m.tables)
    (hcs : ∀ c ∈ m.filters.list, c.Readable) :
    Sync.ofSelect m.tables { body := .select (ofModelRead m) } (ofModelRead m) = Sync.ofCanvas m := by
  rw [ofSelect_through hm hcs]
  refine ofCanvasThrough_eq fun id hid => ?_
  obtain ⟨base, others, htables⟩ := List.exists_cons_of_ne_nil hm
  rw [htables] at hfree hid ⊢
  exact leadsTo_of_free hfree hid

private theorem columnsOf_ofCanvas {m : Model} (hids : (m.tables.map (·.id)).Nodup) {t : Table} (ht : t ∈ m.tables) :
    (Sync.ofCanvas m).columnsOf t.id = t.visible.map Selection.normalized := by
  have hcolumns := columnsAt_record (picks m.tables) [] t.id
  have hpicks := congrArg (List.map Selection.normalized) (filter_picks hids ht)
  rw [List.map_map] at hpicks
  exact hcolumns.trans hpicks

/-- What is read of a compiled query, put on its canvas. -/
theorem apply_ofCanvas {m : Model} (hids : (m.tables.map (·.id)).Nodup) (sql : String) :
    (Sync.ofCanvas m).apply (m.withManual sql) = m.normalized := by
  have htables : (if (Sync.ofCanvas m).selectionsComplete then m.tables.map (Sync.ofCanvas m).table else m.tables) =
      m.tables.map Table.normalized := by
    by_cases hcomplete : (Sync.ofCanvas m).selectionsComplete = true
    · rw [if_pos hcomplete]
      refine List.map_congr_left fun t ht => ?_
      rw [Sync.table, Table.normalized, columnsOf_ofCanvas hids ht]
    · rw [if_neg hcomplete]
      -- nothing is selected, so no table has a visible selection to replace
      have hpicks : picks m.tables = [] := by simpa [Sync.ofCanvas] using hcomplete
      have hnormalized : ∀ t ∈ m.tables, t.normalized = t := by
        intro t ht
        refine Table.normalized_of_visible_nil ?_
        rw [← filter_picks hids ht, hpicks]
        rfl
      exact ((List.map_congr_left hnormalized).trans (List.map_id _)).symm
  simp only [Sync.apply, Model.withManual, htables]
  rfl

private theorem sql_of_query {m m' : Model} (hmanual : m.filters.manual? = none) {c : Compiled}
    (hc : m.compile? = some c) (hmanual' : m'.filters.manual? = none) (hquery : m'.query? = m.query?) :
    ∃ c', m'.compile? = some c' ∧ c'.sql = c.sql := by
  cases hq : m.query? with
  | none => simp [Model.compile?, hmanual, hq] at hc
  | some q =>
    obtain rfl := Option.some.inj (hc.symm.trans (compile_eq_of_query hmanual hq))
    exact ⟨_, compile_eq_of_query hmanual' (hquery.trans hq), rfl⟩

/-- The compiled query of a canvas, read back and put on the canvas, gives a canvas with the same hidden and visible
selections, up to aliases that make no difference, and with the same compiled query. -/
theorem sync_compiled {m : Model} (hmanual : m.filters.manual? = none) (hm : m.tables ≠ [])
    (hids : (m.tables.map (·.id)).Nodup) (hfree : AliasesFree m.tables) (hcs : ∀ c ∈ m.filters.list, c.Readable) :
    ∃ c y, m.compile? = some c ∧ Sync.ofSql c.sql m = .ok y ∧ y.unsupported = [] ∧ y.filtersComplete = true ∧
      let synced := y.apply (m.withManual c.sql)
      synced.isManual = false ∧ synced.tables.map (·.id) = m.tables.map (·.id) ∧
      synced.tables.map (·.hiddenSelections) = m.tables.map (·.hiddenSelections) ∧
      synced.tables.map (·.visible) = m.tables.map (fun t => t.visible.map Selection.normalized) ∧
      ∃ c', synced.compile? = some c' ∧ c'.sql = c.sql := by
  obtain ⟨c, hc, hread⟩ := read_compiled hmanual hm hcs
  refine ⟨c, Sync.ofCanvas m, hc, ?_, rfl, rfl, ?_⟩
  · rw [Sync.ofSql, Sync.ofText, hread]
    simp only [ofSelect_ofModelRead hm hfree hcs]
  · rw [apply_ofCanvas hids]
    refine ⟨rfl, ?_, ?_, ?_, sql_of_query hmanual hc rfl (query_normalized m)⟩
    · simp only [Model.normalized, List.map_map, Function.comp_def, Table.normalized]
    · simp only [Model.normalized, List.map_map, Function.comp_def, Table.hiddenSelections_normalized]
    · simp only [Model.normalized, List.map_map, Function.comp_def, Table.visible_normalized]

/-- A model with a table named like its own alias, a default alias, a hidden selection and a list of strings. -/
def shopModel : Model where
  id := "shop"
  tables :=
    [{ id := "a", name := "T1", schema? := some "main"
       selections := [⟨"amount", .sum, some "sum_amount", false⟩, ⟨"id", .none, none, true⟩] },
      { id := "b", name := "customers", selections := [⟨"na\x60me", .none, some "", false⟩] }]
  edges := [{ id := "e", fromTable := "b", toTable := "a", key := .simple "id" "customer_id" }]
  filters := .conditions
    [⟨"b", "name", .neq, .string "O\x27Neil"⟩,
      ⟨"a", "state", .isIn, .array [.string (quotedString "it\x27s"), .integer (-3)]⟩,
      ⟨"a", "closed", .isNull, .null⟩]
  groupByAll := true

/-- The theorem at a model with two tables. -/
theorem sync_compiled_shop :
    ∃ c y, shopModel.compile? = some c ∧ Sync.ofSql c.sql shopModel = .ok y ∧ y.unsupported = [] ∧
      y.filtersComplete = true ∧
      let synced := y.apply (shopModel.withManual c.sql)
      synced.isManual = false ∧ synced.tables.map (·.id) = shopModel.tables.map (·.id) ∧
      synced.tables.map (·.hiddenSelections) = shopModel.tables.map (·.hiddenSelections) ∧
      synced.tables.map (·.visible) = shopModel.tables.map (fun t => t.visible.map Selection.normalized) ∧
      ∃ c', synced.compile? = some c' ∧ c'.sql = c.sql := by
  have hfree : ∀ i < 2, ∀ j < 2, i ≠ j → ∀ t ∈ shopModel.tables[i]?, sameLetters t.name (tableAlias j) = false := by
    decide
  refine sync_compiled rfl (by decide) (by decide) ?_ fun c hc => ?_
  · intro i j t ht hj hne
    exact hfree i (List.getElem?_eq_some_iff.1 ht).1 j hj hne t ht
  · simp only [shopModel, Filters.list, List.mem_cons, List.not_mem_nil, or_false] at hc
    rcases hc with rfl | rfl | rfl
    · exact ⟨fun _ => Or.inr ⟨_, rfl⟩, fun h => by simp at h⟩
    · refine ⟨fun h => absurd h (by decide), fun _ v hv => ?_⟩
      simp only [Json.Value.members, List.mem_cons, List.not_mem_nil, or_false] at hv
      rcases hv with rfl | rfl
      · exact Or.inr ⟨_, rfl⟩
      · exact Or.inl (by decide)
    · exact ⟨fun h => absurd h (by decide), fun h => by simp at h⟩

end JoinCanvas
