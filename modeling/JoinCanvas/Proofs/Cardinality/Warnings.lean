import JoinCanvas.Proofs.Cardinality.Agreement
import JoinCanvas.Service

/-!
# What comes back of a canvas that is measured

Measuring a canvas ends well in three places: when there are no tables or no edges, when no edge has both ends on the
canvas, and when all edges that have were measured.  The reports and the skipped edges are put together alike in the last
two; the warnings come back from the last one only.

* `accounted_of_returned`, `accounted_of_service`: what comes back, field by field.
* `validateModel_warnings`: the warnings come back as they are wanted, unless no edge could be measured.
-/

namespace JoinCanvas

variable {σ ω : Type}

/-- What comes back when a canvas is measured: a report of each edge with both ends on it, the other edges, unless there
are no tables, and the warnings, if they are wanted and an edge was measured. -/
structure Accounted (wantsWarnings : Bool) (tables : List Table) (edges : List Edge) (warnings : List Warning)
    (v : Validation) : Prop where
  reports : v.reports.map (·.edge) = (edgesOn tables edges).map (·.id)
  skipped : v.skipped = if tables = [] then [] else (edgesOff tables edges).map (·.id)
  warnings : v.warnings = if wantsWarnings ∧ edgesOn tables edges ≠ [] then warnings else []

theorem edgesOn_eq_nil_iff {tables : List Table} {edges : List Edge} :
    edgesOn tables edges = [] ↔ edges.filterMap (Measurable.of? tables) = [] := by
  rw [← map_edge_measurable, List.map_eq_nil_iff]

section

variable {w : Warehouse σ ω} {tables : List Table} {edges : List Edge} {warnings : List Warning} {wantsWarnings : Bool}
  {c c' : Course σ ω} {v : Validation}

theorem accounted_of_returned {connection : Connection}
    (h : Validator.validateModel w connection wantsWarnings tables edges warnings c = (.returned v, c')) :
    Accounted wantsWarnings tables edges warnings v := by
  by_cases htables : tables = []
  · subst htables
    obtain rfl := Outcome.returned.inj (Prod.mk.inj h).1
    have hnone : edgesOn [] edges = [] := by simp [edgesOn]
    exact ⟨by rw [hnone]; rfl, rfl, by rw [if_neg fun hon => hon.2 hnone]⟩
  have hreports := Validator.edges_validateModel w edges connection wantsWarnings warnings htables h
  have hids : (edges.filterMap (Measurable.of? tables)).map (·.edge.id) = (edgesOn tables edges).map (·.id) := by
    rw [← map_edge_measurable, List.map_map]
    rfl
  by_cases hwork : edges.filterMap (Measurable.of? tables) = []
  · rw [validateModel_of_nil htables hwork] at h
    obtain rfl := Outcome.returned.inj (Prod.mk.inj h).1
    exact ⟨hreports.trans hids, by rw [if_neg htables],
      by rw [if_neg fun hon => hon.2 (edgesOn_eq_nil_iff.2 hwork)]⟩
  · have hon : edgesOn tables edges ≠ [] := fun hnone => hwork (edgesOn_eq_nil_iff.1 hnone)
    rw [validateModel_of_ne_nil htables hwork] at h
    obtain ⟨reports, c₁, -, h⟩ := Work.bind_eq_returned_iff.1 h
    obtain rfl := Outcome.returned.inj (Prod.mk.inj h).1
    exact ⟨hreports.trans hids, by rw [if_neg htables], by simp only [hon, ne_eq, not_false_eq_true, and_true]⟩

/-- Stored edges, whose warnings are those of the keys that cannot be read. -/
theorem accounted_of_service {config : Config} {store : Store} {connection : String} {stored : List StoredEdge}
    {complaint : Complaint}
    (h : Service.validateModel w config store connection tables stored complaint c = (.returned v, c')) :
    Accounted (config.settingsFor connection).validation.warnOnUndecodableKeys tables (stored.map (·.edge))
      (stored.filterMap (·.warning? complaint)) v := by
  rw [Service.validateModel] at h
  by_cases hnothing : (tables.isEmpty || stored.isEmpty) = true
  · rw [if_pos hnothing] at h
    -- the validator would have returned the same
    have hsame : Validator.validateModel w ⟨connection, "", "", ""⟩
        (config.settingsFor connection).validation.warnOnUndecodableKeys tables (stored.map (·.edge))
        (stored.filterMap (·.warning? complaint)) c = (.returned v, c') := by
      rw [Validator.validateModel, if_pos (by rwa [List.isEmpty_map])]
      exact h
    exact accounted_of_returned hsame
  · rw [if_neg hnothing] at h
    obtain ⟨record, c₁, -, h⟩ := Work.bind_eq_returned_iff.1 h
    exact accounted_of_returned h

/-- Whenever measuring a canvas returns, it accounts for every edge, and the warnings that were given come back as they
are wanted exactly if an edge has both ends on the canvas, or there is none to come back. -/
theorem validateModel_warnings {connection : Connection}
    (h : Validator.validateModel w connection wantsWarnings tables edges warnings c = (.returned v, c')) :
    Accounted wantsWarnings tables edges warnings v ∧
      (v.warnings = (if wantsWarnings then warnings else []) ↔
        edgesOn tables edges ≠ [] ∨ wantsWarnings = false ∨ warnings = []) := by
  have haccounted := accounted_of_returned h
  refine ⟨haccounted, ?_⟩
  rw [haccounted.warnings]
  by_cases hon : edgesOn tables edges = []
  · rw [if_neg fun hboth => hboth.2 hon]
    cases wantsWarnings <;> simp [hon, eq_comm]
  · simp [hon]

end

/-- A stored edge whose key has no pairs and one of whose ends is nowhere. -/
def pairlessEdge : StoredEdge :=
  { id := "e", fromTable := "a", toTable := "x", fromColumn? := some "__JSON__:[]" }

/-- The theorem at that edge beside one that is measured. -/
theorem validateModel_warnings_pairless :
    let edges := [pairlessEdge.edge, { id := "f", fromTable := "a", toTable := "b" }]
    let script : Script := { replies := [{ rows := [countsRow "source" 3 3, countsRow "target" 5 3] }] }
    let warning : Warning := .unreadableKey "e" "composite key has no column pairs"
    let start : Course Script ScriptedReply := { scene := { world := script } }
    ∃ v c', Validator.validateModel scripted ⟨"c", "", "", ""⟩ true twoTables edges [warning] start = (.returned v, c') ∧
      Accounted true twoTables edges [warning] v ∧ v.warnings = [warning] := by
  intro edges script warning start
  have hreturned : (Validator.validateModel scripted ⟨"c", "", "", ""⟩ true twoTables edges [warning] start).1.isReturned =
      true := by
    decide +kernel
  obtain ⟨v, c', h⟩ := exists_of_isReturned hreturned
  obtain ⟨haccounted, hiff⟩ := validateModel_warnings h
  exact ⟨v, c', h, haccounted, hiff.2 (Or.inl (List.cons_ne_nil _ _))⟩

/-- On its own that edge is skipped, and the warning of it does not come back although it is wanted. -/
theorem pairlessEdge_unwarned :
    let warning : Warning := .unreadableKey "e" "composite key has no column pairs"
    let start : Course Script ScriptedReply := { scene := { world := {} } }
    pairlessEdge.warning? = some warning ∧
      ∃ v c', Validator.validateModel scripted ⟨"c", "", "", ""⟩ true twoTables [pairlessEdge.edge] [warning] start =
        (.returned v, c') ∧ v.skipped = ["e"] ∧ v.warnings = [] :=
  ⟨by decide +kernel, _, _, rfl, rfl, rfl⟩

end JoinCanvas
