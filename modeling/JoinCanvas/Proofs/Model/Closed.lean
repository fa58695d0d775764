import JoinCanvas.Cardinality.Validation
import JoinCanvas.Proofs.Join.Accounts
import JoinCanvas.Proofs.Sync.Completeness
import JoinCanvas.Stored.Basic

/-!
# Models without loose ends

A model is closed when its edges and conditions name tables of the canvas only and no identifier of a table repeats.
Whatever is done to a closed model with tables that are on the canvas, it stays closed: no edge of it dangles then, and
a condition is only left out of its query for its own operator or value.

* `Closed.of_frame`: what does not touch identifiers and ends keeps a model closed.
* `Edit.closed`: what one edit does.
* `edits_closed`: what any number of edits does.
-/

namespace JoinCanvas

open JoinCanvas.Sql

/-- The tables that an edge joins. -/
def Edge.ends (e : Edge) : String × String :=
  (e.fromTable, e.toTable)

/-- Whether a condition on a table of the canvas is written in a query. -/
def Condition.canBeWritten (c : Condition) : Bool :=
  match c.operator with
  | .unknown => false
  | .isIn => !(listMembers c.value).isEmpty
  | _ => true

/-- What can be done to a model.  Tables are added under new identifiers, edges and conditions between tables that are
there; a table that is changed, for one by a new name, keeps its identifier; a text is synced when some reader of SQL
takes it for a single `SELECT`. -/
inductive Edit : Model → Model → Prop
  | addTable {m : Model} {t : Table} (fresh : t.id ∉ m.tables.map (·.id)) : Edit m (m.addTable t)
  | addEdge {m : Model} {e : Edge} (source : e.fromTable ∈ m.tables.map (·.id))
      (target : e.toTable ∈ m.tables.map (·.id)) : Edit m (m.addEdge e)
  | addCondition {m : Model} {c : Condition} (table : c.table ∈ m.tables.map (·.id)) : Edit m (m.addCondition c)
  | removeTable (m : Model) (id : String) : Edit m (m.removeTable id)
  | updateTable (m : Model) (id : String) {change : Table → Table} (same : ∀ t, (change t).id = t.id) :
    Edit m (m.updateTable id change)
  | withManual (m : Model) (sql : String) : Edit m (m.withManual sql)
  | group (m : Model) (groupByAll : Bool) : Edit m { m with groupByAll }
  | applyCardinalities (m : Model) (found : List (String × Cardinality)) : Edit m (m.applyCardinalities found).1
  | sync {m : Model} {read : Statement.Reader} {sql : String} {y : Sync} (synced : Sync.ofText read sql m = .ok y) :
    Edit m (y.apply m)
  | reload (m : Model) (complaint : Complaint) : Edit m ((StoredModel.ofModel m).model complaint)

namespace Model

variable {m m' : Model}

/-! ### Identifiers and ends -/

theorem ids_updateTable (m : Model) (id : String) {change : Table → Table} (h : ∀ t, (change t).id = t.id) :
    (m.updateTable id change).tables.map (·.id) = m.tables.map (·.id) := by
  unfold updateTable
  induction m.tables with
  | nil => rfl
  | cons t rest ih =>
    by_cases ht : t.id = id
    · simp [updateTable.go, ht, h]
    · simp [updateTable.go, ht, ih]

theorem ends_setCardinality (id : String) (c : Cardinality) (es : List Edge) :
    (setCardinality id c es).1.map Edge.ends = es.map Edge.ends := by
  induction es with
  | nil => rfl
  | cons e rest ih =>
    by_cases he : e.id = id
    · simp [setCardinality, he, Edge.ends]
    · simp [setCardinality, he, ih]

/-- Cardinalities change nothing but themselves in the edges of a model, and nothing else in the model. -/
theorem applyCardinalities_frame (m : Model) (found : List (String × Cardinality)) :
    ∃ edges, (m.applyCardinalities found).1 = { m with edges } ∧ edges.map Edge.ends = m.edges.map Edge.ends := by
  unfold applyCardinalities
  generalize 0 = n
  induction found generalizing m n with
  | nil => exact ⟨m.edges, rfl, rfl⟩
  | cons x rest ih =>
    obtain ⟨edges, hmodel, hends⟩ := ih { m with edges := (setCardinality x.1 x.2 m.edges).1 }
      (if (setCardinality x.1 x.2 m.edges).2 then n + 1 else n)
    exact ⟨edges, hmodel, hends.trans (ends_setCardinality x.1 x.2 m.edges)⟩

theorem ids_apply (y : Sync) (m : Model) : (y.apply m).tables.map (·.id) = m.tables.map (·.id) := by
  unfold Sync.apply
  by_cases h : y.selectionsComplete
  · simp [h, Sync.table]
  · simp [h]

/-! ### Single edits -/

/-- A change that keeps the identifiers of the tables and the ends of the edges keeps a model closed, as long as its
conditions are on tables of the canvas. -/
theorem Closed.of_frame (hm : m.Closed) (hids : m'.tables.map (·.id) = m.tables.map (·.id))
    (hends : m'.edges.map Edge.ends = m.edges.map Edge.ends)
    (hconditions : ∀ c ∈ m'.filters.list, c.table ∈ m.tables.map (·.id)) : m'.Closed := by
  obtain ⟨hnodup, hedges, -⟩ := hm
  refine ⟨hids ▸ hnodup, fun e he => ?_, fun c hc => hids ▸ hconditions c hc⟩
  have hmem : e.ends ∈ m.edges.map Edge.ends := hends ▸ List.mem_map_of_mem he
  obtain ⟨d, hd, hsame⟩ := List.mem_map.1 hmem
  obtain ⟨hfrom, hto⟩ := Prod.mk.inj hsame
  rw [hids, ← hfrom, ← hto]
  exact hedges d hd

theorem Closed.addTable (hm : m.Closed) {t : Table} (ht : t.id ∉ m.tables.map (·.id)) : (m.addTable t).Closed := by
  obtain ⟨hnodup, hedges, hconditions⟩ := hm
  have hids : (m.addTable t).tables.map (·.id) = m.tables.map (·.id) ++ [t.id] := by simp [Model.addTable]
  unfold Closed
  rw [hids]
  refine ⟨?_, fun e he => ?_, fun c hc => ?_⟩
  · have hlast : (m.tables.map (·.id)).Disjoint [t.id] := List.disjoint_singleton.2 ht
    exact hnodup.append (List.nodup_singleton _) hlast
  · exact ⟨List.mem_append_left _ (hedges e he).1, List.mem_append_left _ (hedges e he).2⟩
  · exact List.mem_append_left _ (hconditions c hc)

theorem Closed.addEdge (hm : m.Closed) {e : Edge} (hfrom : e.fromTable ∈ m.tables.map (·.id))
    (hto : e.toTable ∈ m.tables.map (·.id)) : (m.addEdge e).Closed := by
  obtain ⟨hnodup, hedges, hconditions⟩ := hm
  refine ⟨hnodup, fun d hd => ?_, hconditions⟩
  rcases List.mem_append.1 hd with hd | hd
  · exact hedges d hd
  · rw [List.mem_singleton.1 hd]
    exact ⟨hfrom, hto⟩

theorem Closed.addCondition (hm : m.Closed) {c : Condition} (hc : c.table ∈ m.tables.map (·.id)) :
    (m.addCondition c).Closed := by
  refine hm.of_frame rfl rfl fun d hd => ?_
  rcases List.mem_append.1 hd with hd | hd
  · exact hm.2.2 d hd
  · rw [List.mem_singleton.1 hd]
    exact hc

/-- A table that is removed takes the edges and conditions that name it along, and is the only one of its
identifier. -/
theorem Closed.removeTable (hm : m.Closed) (id : String) : (m.removeTable id).Closed := by
  obtain ⟨hnodup, hedges, hconditions⟩ := hm
  unfold Model.removeTable
  split
  · have hkept : ∀ i ∈ m.tables.map (·.id), i ≠ id → i ∈ (m.tables.eraseP (·.id = id)).map (·.id) := by
      intro i hi hne
      obtain ⟨t, ht, rfl⟩ := List.mem_map.1 hi
      exact List.mem_map_of_mem ((List.mem_eraseP_of_neg (by simpa using hne)).2 ht)
    refine ⟨hnodup.sublist (List.eraseP_sublist.map _), fun e he => ?_, fun c hc => ?_⟩
    · obtain ⟨he, htouches⟩ := List.mem_filter.1 he
      simp only [Edge.touches, Bool.not_eq_true', Bool.or_eq_false_iff, decide_eq_false_iff_not] at htouches
      exact ⟨hkept _ (hedges e he).1 htouches.1, hkept _ (hedges e he).2 htouches.2⟩
    · cases hfilters : m.filters with
      | manual sql => simp [hfilters, Filters.list] at hc
      | conditions list =>
        rw [hfilters] at hc hconditions
        obtain ⟨hc, hne⟩ := List.mem_filter.1 hc
        exact hkept _ (hconditions c hc) (by simpa using hne)
  · exact ⟨hnodup, hedges, hconditions⟩

/-- The conditions that are read of a text are on tables of the canvas. -/
theorem Closed.sync (hm : m.Closed) {read : Statement.Reader} {sql : String} {y : Sync}
    (hy : Sync.ofText read sql m = .ok y) : (y.apply m).Closed := by
  refine hm.of_frame (ids_apply y m) rfl fun c hc => ?_
  change c ∈ (if y.filtersComplete then y.conditions else m.filters.list) at hc
  by_cases hcomplete : y.filtersComplete
  · rw [if_pos hcomplete] at hc
    obtain ⟨q, s, -, -, rfl⟩ := Sync.ofText_eq_ok_iff.1 hy
    rw [Sync.ofSelect_eq] at hc
    obtain ⟨e, -, he⟩ := List.mem_filterMap.1 hc
    obtain ⟨hfounded, htables, -⟩ := Scope.founded_ofTables m.tables s.tables
    have htests := Scope.condition_eq_ok_iff.1 (toOption_eq_some_iff.1 he)
    exact htables ▸ hfounded.tests_mem htests
  · rw [if_neg hcomplete] at hc
    exact hm.2.2 c hc

theorem Closed.reload (hm : m.Closed) (complaint : Complaint) : ((StoredModel.ofModel m).model complaint).Closed := by
  have hends : ((StoredModel.ofModel m).model complaint).edges.map Edge.ends = m.edges.map Edge.ends := by
    simp only [StoredModel.model, StoredModel.ofModel, List.map_map]
    rfl
  have hfilters : ((StoredModel.ofModel m).model complaint).filters = m.filters := by
    simp only [StoredModel.model, StoredModel.ofModel, StoredFilters.filters_ofFilters]
  exact hm.of_frame rfl hends (hfilters ▸ hm.2.2)

end Model

/-- Every edit keeps a model closed. -/
theorem Edit.closed {m m' : Model} (h : Edit m m') (hm : m.Closed) : m'.Closed := by
  cases h with
  | addTable fresh => exact hm.addTable fresh
  | addEdge source target => exact hm.addEdge source target
  | addCondition table => exact hm.addCondition table
  | removeTable id => exact hm.removeTable id
  | updateTable id same => exact hm.of_frame (m.ids_updateTable id same) rfl hm.2.2
  | withManual sql => exact hm.of_frame rfl rfl nofun
  | group groupByAll => exact hm.of_frame rfl rfl hm.2.2
  | applyCardinalities found =>
    obtain ⟨edges, hmodel, hends⟩ := m.applyCardinalities_frame found
    rw [hmodel]
    exact hm.of_frame rfl hends hm.2.2
  | sync synced => exact hm.sync synced
  | reload complaint => exact hm.reload complaint

/-! ### The query of a closed model -/

theorem danglingEdge_notMem {tables : List Table} {edges : List Edge}
    (h : ∀ e ∈ edges, e.fromTable ∈ tables.map (·.id) ∧ e.toTable ∈ tables.map (·.id)) (edge table : String) :
    .danglingEdge edge table ∉ (Plan.ofCanvas tables edges).warnings := by
  cases tables with
  | nil => exact List.not_mem_nil
  | cons base rest =>
    have hdangling : edges.filterMap (danglingWarning? (base :: rest)) = [] :=
      List.filterMap_eq_nil_iff.2 fun e he => (danglingWarning_eq_none_iff _ e).2 (h e he)
    rw [warnings_ofCanvas, hdangling]
    simp

theorem isSome_expr (c : Condition) (column : Expr) : (c.expr? column).isSome = c.canBeWritten := by
  unfold Condition.expr? Condition.canBeWritten
  cases c.operator with
  | isIn => by_cases h : (listMembers c.value).isEmpty <;> simp [h]
  | _ => rfl

/-- The conditions on tables of the canvas that can be written are written, one after another. -/
theorem forall₂_filterExprs {tables : List Table} {cs : List Condition}
    (h : ∀ c ∈ cs, c.table ∈ tables.map (·.id)) :
    List.Forall₂ (fun c e => ∃ name, aliasOf? tables c.table = some name ∧
        c.expr? (.column (some name) c.column) = some e)
      (cs.filter (·.canBeWritten)) (filterExprs tables cs) := by
  induction cs with
  | nil => exact .nil
  | cons c cs ih =>
    have hrest := ih fun d hd => h d (List.mem_cons_of_mem _ hd)
    obtain ⟨p, hp, -⟩ := exists_planned (h c List.mem_cons_self)
    obtain ⟨-, hname⟩ := aliasOf_of_planned hp
    have hwritten := isSome_expr c (.column (some p.shortName) c.column)
    unfold filterExprs at hrest ⊢
    cases he : c.expr? (.column (some p.shortName) c.column) with
    | none =>
      rw [he, Option.isSome_none] at hwritten
      rw [List.filter_cons_of_neg (by simp [← hwritten]), List.filterMap_cons_none (by simp [hname, he])]
      exact hrest
    | some e =>
      rw [he, Option.isSome_some] at hwritten
      rw [List.filter_cons_of_pos hwritten.symm, List.filterMap_cons_some (b := e) (by simp [hname, he])]
      exact .cons ⟨p.shortName, hname, he⟩ hrest

/-- A closed model stays closed under any number of edits.  No edge of it dangles in its plan, and its query leaves out
no condition but those with an unknown operator or an empty list. -/
theorem edits_closed {m m' : Model} (hm : m.Closed) (h : Relation.ReflTransGen Edit m m') :
    m'.Closed ∧ (∀ edge table, .danglingEdge edge table ∉ (Plan.ofCanvas m'.tables m'.edges).warnings) ∧
      List.Forall₂ (fun c e => ∃ name, aliasOf? m'.tables c.table = some name ∧
          c.expr? (.column (some name) c.column) = some e)
        (m'.filters.list.filter (·.canBeWritten)) (filterExprs m'.tables m'.filters.list) := by
  have hclosed : m'.Closed := by
    induction h with
    | refl => exact hm
    | tail _ hedit ih => exact hedit.closed ih
  exact ⟨hclosed, danglingEdge_notMem hclosed.2.1, forall₂_filterExprs hclosed.2.2⟩

/-- A model of two tables, built up from one, with an edge and a condition on the second. -/
def linesModel : Model :=
  ((groupedModel.addTable { id := "b", name := "lines" }).addEdge
    { id := "e", fromTable := "a", toTable := "b" }).addCondition ⟨"b", "state", .isNull, .null⟩

/-- A query that names the two tables under the aliases of each other. -/
def linesSql : String :=
  "SELECT * FROM \x60lines\x60 AS \x60t1\x60, \x60orders\x60 AS \x60t2\x60 WHERE \x60t2\x60.\x60y\x60 = 1"

theorem ofSql_lines : ∃ y, Sync.ofSql linesSql linesModel = .ok y := by
  have hsome : (Sync.ofSql linesSql linesModel).toOption.isSome = true := by decide +kernel
  obtain ⟨y, hy⟩ := Option.isSome_iff_exists.1 hsome
  exact ⟨y, toOption_eq_some_iff.1 hy⟩

theorem edits_lines : Relation.ReflTransGen Edit groupedModel linesModel := by
  let lines : Table := { id := "b", name := "lines" }
  let e : Edge := { id := "e", fromTable := "a", toTable := "b" }
  have htable : Edit groupedModel (groupedModel.addTable lines) := .addTable (by decide)
  have hedge : Edit (groupedModel.addTable lines) ((groupedModel.addTable lines).addEdge e) :=
    .addEdge (by decide) (by decide)
  exact ((Relation.ReflTransGen.single htable).tail hedge).tail (.addCondition (by decide))

/-- The theorem at a model that is built up, synced, and loses a table. -/
theorem edits_closed_lines : ∃ y, Sync.ofSql linesSql linesModel = .ok y ∧ groupedModel.Closed ∧
    let m := (y.apply linesModel).removeTable "a"
    Relation.ReflTransGen Edit groupedModel m ∧
    m.Closed ∧ (∀ edge table, .danglingEdge edge table ∉ (Plan.ofCanvas m.tables m.edges).warnings) ∧
      List.Forall₂ (fun c e => ∃ name, aliasOf? m.tables c.table = some name ∧
          c.expr? (.column (some name) c.column) = some e)
        (m.filters.list.filter (·.canBeWritten)) (filterExprs m.tables m.filters.list) := by
  obtain ⟨y, hy⟩ := ofSql_lines
  have hclosed : groupedModel.Closed := ⟨by decide, nofun, nofun⟩
  have hedits : Relation.ReflTransGen Edit groupedModel ((y.apply linesModel).removeTable "a") :=
    (edits_lines.tail (.sync hy)).tail (.removeTable _ "a")
  exact ⟨y, hy, hclosed, hedits, edits_closed hclosed hedits⟩

end JoinCanvas
