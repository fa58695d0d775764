import JoinCanvas.Cardinality.Validation
import JoinCanvas.Proofs.Join.Coverage
import JoinCanvas.Proofs.Warehouse.Answers

/-!
# Measuring a canvas

The edges with both ends on the canvas are measured over one session, one after another, until one of them cannot be
measured.

* `map_edge_measurable`: which edges can be measured.
* `measureAll_measures`: the run over them, from the answers of the warehouse.
* `forall₂_reports`: the report of each edge, by its fields.
* `validateModel_measures`: what is asked of the warehouse, and what comes of it.
-/

namespace JoinCanvas

open Session

variable {σ ω α : Type} {w : Warehouse σ ω}

/-! ### The edges that are measured -/

/-- The tables of a measurable edge are the first ones of their identifiers. -/
def Measurable.On (tables : List Table) (m : Measurable) : Prop :=
  tables.find? (·.id = m.edge.fromTable) = some m.source ∧ tables.find? (·.id = m.edge.toTable) = some m.target

/-- The edges with an end that is not on the canvas. -/
def edgesOff (tables : List Table) (edges : List Edge) : List Edge :=
  edges.filter fun e => e.fromTable ∉ tables.map (·.id) ∨ e.toTable ∉ tables.map (·.id)

theorem of_eq_some {tables : List Table} {e : Edge} {m : Measurable} (h : Measurable.of? tables e = some m) :
    m.edge = e ∧ m.On tables := by
  simp only [Measurable.of?, Option.bind_eq_bind, Option.bind_eq_some_iff] at h
  obtain ⟨source, hsource, target, htarget, hm⟩ := h
  obtain rfl := Option.some.inj hm
  exact ⟨rfl, hsource, htarget⟩

theorem find_isSome_iff (tables : List Table) (id : String) :
    (tables.find? (·.id = id)).isSome ↔ id ∈ tables.map (·.id) := by
  simp [List.find?_isSome]

theorem of_isSome_iff (tables : List Table) (e : Edge) :
    (Measurable.of? tables e).isSome ↔ e.fromTable ∈ tables.map (·.id) ∧ e.toTable ∈ tables.map (·.id) := by
  rw [← find_isSome_iff, ← find_isSome_iff, Measurable.of?]
  cases tables.find? (·.id = e.fromTable) <;> cases tables.find? (·.id = e.toTable) <;> simp

/-- The edges that can be measured are those with both ends on the canvas. -/
theorem map_edge_measurable (tables : List Table) (edges : List Edge) :
    (edges.filterMap (Measurable.of? tables)).map (·.edge) = edgesOn tables edges := by
  rw [List.map_filterMap, edgesOn, ← List.filterMap_eq_filter]
  refine List.filterMap_congr fun e _ => ?_
  have hiff := of_isSome_iff tables e
  rw [Option.guard]
  cases h : Measurable.of? tables e with
  | none =>
    rw [h] at hiff
    rw [if_neg (by rw [decide_eq_true_iff, ← hiff]; exact Bool.false_ne_true), Option.map_none]
  | some m =>
    rw [h] at hiff
    rw [if_pos (by rw [decide_eq_true_iff, ← hiff]; rfl), Option.map_some, (of_eq_some h).1]

theorem on_of_mem_measurable (tables : List Table) (edges : List Edge) :
    ∀ m ∈ edges.filterMap (Measurable.of? tables), m.On tables := by
  intro m hm
  obtain ⟨e, -, he⟩ := List.mem_filterMap.1 hm
  exact (of_eq_some he).2

theorem filter_of_isNone (tables : List Table) (edges : List Edge) :
    (edges.filter fun e => (Measurable.of? tables e).isNone) = edgesOff tables edges := by
  refine List.filter_congr fun e _ => ?_
  rw [Bool.eq_iff_iff, decide_eq_true_iff, ← not_and_or, ← of_isSome_iff]
  cases Measurable.of? tables e <;> simp

/-! ### Runs -/

/-- The counts in the answer to a statistics query, or why there are none. -/
def countsIn (answer : Except Fault QueryResult) : Except Fault (SideStats × SideStats) := do
  Stats.ofRows (← answer).rows

/-- A run over edges from a scene on: what was measured of those before the first that could not be measured, and the
fault of that one. -/
inductive Measures (w : Warehouse σ ω) :
    List Measurable → Scene σ → List (SideStats × SideStats) → Option Fault → Scene σ → Prop where
  | done (s : Scene σ) : Measures w [] s [] none s
  | fails {m : Measurable} {rest : List Measurable} {s s₁ : Scene σ} {answer : Except Fault QueryResult} {f : Fault}
      (answers : Answers w m.query s answer s₁) (counts : countsIn answer = .error f) :
      Measures w (m :: rest) s [] (some f) s₁
  | measured {m : Measurable} {rest : List Measurable} {s s₁ s₂ : Scene σ} {answer : Except Fault QueryResult}
      {stats : SideStats × SideStats} {found : List (SideStats × SideStats)} {fault? : Option Fault}
      (answers : Answers w m.query s answer s₁) (counts : countsIn answer = .ok stats)
      (next : Measures w rest s₁ found fault? s₂) : Measures w (m :: rest) s (stats :: found) fault? s₂

/-- The edges that were queried: those that were measured, and the one that could not be. -/
def attempted (work : List Measurable) (found : List (SideStats × SideStats)) (fault? : Option Fault) :
    List Measurable :=
  work.take (found.length + fault?.toList.length)

/-- What a run returns. -/
def reported (work : List Measurable) (found : List (SideStats × SideStats)) :
    Option Fault → Except Fault (List EdgeReport)
  | some f => .error f
  | none => .ok (List.zipWith Measurable.report work found)

theorem Measures.length_eq {work : List Measurable} {s s' : Scene σ} {found : List (SideStats × SideStats)}
    (h : Measures w work s found none s') : found.length = work.length := by
  generalize hfault : (none : Option Fault) = fault? at h
  induction h with
  | done => rfl
  | fails => exact absurd hfault nofun
  | measured _ _ _ ih => simp [ih hfault]

theorem Measures.length_lt {work : List Measurable} {s s' : Scene σ} {found : List (SideStats × SideStats)} {f : Fault}
    (h : Measures w work s found (some f) s') : found.length < work.length := by
  generalize hfault : some f = fault? at h
  induction h with
  | done => exact absurd hfault nofun
  | fails => simp
  | measured _ _ _ ih => simpa using ih hfault

theorem measure_of_query {sql : String} {c c' : Course σ ω} {answer : Except Fault QueryResult}
    (h : query w sql c = Work.ofExcept answer c') :
    Validator.measure w sql c = Work.ofExcept (countsIn answer) c' := by
  rw [Validator.measure]
  cases answer with
  | ok result => exact Work.bind_returned h
  | error f => exact Work.bind_failed h

/-- Measuring edges in an open session is a run over them, and asks for their queries as far as it gets. -/
theorem measureAll_measures (hw : w.Patient) (work : List Measurable) {c : Course σ ω} (hc : Idle c)
    (hleft : c.scene.left? = none) :
    ∃ found fault? c', Validator.measureAll w work c = Work.ofExcept (reported work found fault?) c' ∧
      Measures w work c.scene found fault? c'.scene ∧
      asked c'.log = asked c.log ++ (attempted work found fault?).map (.execute ·.query) ∧
      Idle c' ∧ c'.scene.left? = none := by
  induction work generalizing c with
  | nil => exact ⟨[], none, c, rfl, .done _, by simp [attempted], hc, hleft⟩
  | cons m rest ih =>
    obtain ⟨answer, c₁, hquery, hanswers, hasked⟩ := query_answers hw m.query hleft
    obtain ⟨hc₁, hleft₁⟩ := idle_of_query hw hc hleft hquery
    have hmeasure := measure_of_query hquery
    rcases hcounts : countsIn answer with f | stats <;> rw [hcounts] at hmeasure
    · exact ⟨[], some f, c₁, Work.bind_failed hmeasure, .fails hanswers hcounts, hasked, hc₁, hleft₁⟩
    · obtain ⟨found, fault?, c', hrest, hrun, hasked', hc', hleft'⟩ := ih hc₁ hleft₁
      refine ⟨stats :: found, fault?, c', ?_, .measured hanswers hcounts hrun, ?_, hc', hleft'⟩
      · rw [Validator.measureAll, Work.bind_returned hmeasure]
        cases fault? with
        | none => exact Work.bind_returned hrest
        | some f => exact Work.bind_failed hrest
      · have htake : attempted (m :: rest) (stats :: found) fault? = m :: attempted rest found fault? := by
          rw [attempted, List.length_cons, Nat.add_right_comm, List.take_succ_cons, attempted]
        rw [hasked', hasked, htake]
        simp

/-! ### Sessions of their own -/

theorem inSession_of_refused (hw : w.Patient) {connection : Connection} {s s' : Scene σ} {f : Fault}
    (hleft : s.left? = none) (h : opening w connection s = (.failed f, s')) (work : Work σ ω α) :
    ∃ c, Validator.inSession w connection work { scene := s } = (.failed f, c) ∧
      asked c.log <+: [.connect connection.id, .openSession] ∧ Over c.log := by
  obtain ⟨c, hstart, hc⟩ := start_of_refused hw hleft h
  exact ⟨c, Work.bind_failed hstart, hc⟩

theorem inSession_of_opening (hw : w.Patient) {connection : Connection} {s s' : Scene σ}
    (h : opening w connection s = (.returned (), s')) {work : Work σ ω α} {outcome : Except Fault α} {c : Course σ ω}
    (hwork : work (opened connection.id s') = Work.ofExcept outcome c) (hc : Idle c) (hleft : c.scene.left? = none) :
    ∃ c', Validator.inSession w connection work { scene := s } =
        Work.ofExcept (outcome >>= firstOf (closingFaults w c.scene)) c' ∧
      asked c'.log = asked c.log ∧ Over c'.log := by
  obtain ⟨c', hfinish, hc'⟩ := finish_closing hw outcome hc hleft
  refine ⟨c', ?_, hc'⟩
  rw [Validator.inSession, Work.bind_returned (start_of_opening h), Work.bind_returned (Work.attempt_ofExcept hwork)]
  exact hfinish

/-! ### Canvases -/

/-- The report of an edge: its identifier and ends, the counts of both sides, and its cardinality on the canvas and by
these counts. -/
structure ReportOf (m : Measurable) (stats : SideStats × SideStats) (r : EdgeReport) : Prop where
  edge : r.edge = m.edge.id
  fromTable : r.fromTable = m.edge.fromTable
  toTable : r.toTable = m.edge.toTable
  source : r.source = stats.1
  target : r.target = stats.2
  current : r.current = m.edge.cardinality
  detected : r.detected = classify stats.1 stats.2

/-- What comes of measuring a canvas, where these edges can be measured. -/
structure Validated (w : Warehouse σ ω) (connection : Connection) (wantsWarnings : Bool) (tables : List Table)
    (edges : List Edge) (warnings : List Warning) (s : Scene σ) (work : List Measurable)
    (x : Option (Except Fault Validation) × Course σ ω) : Prop where
  /-- The edges with both ends on the canvas are measured, with the tables at their ends. -/
  edges_eq : work.map (·.edge) = edgesOn tables edges
  on : ∀ m ∈ work, m.On tables
  closed : Over x.2.log
  /-- Without such edges nothing is called. -/
  unasked : work = [] → x.1 = some (.ok { skipped := (edgesOff tables edges).map (·.id) }) ∧ x.2.log = []
  /-- A session that does not open. -/
  refused : work ≠ [] → ∀ f s', opening w connection s = (.failed f, s') →
    x.1 = some (.error f) ∧ asked x.2.log <+: [.connect connection.id, .openSession]
  /-- A session that opens. -/
  run : work ≠ [] → ∀ s₁, opening w connection s = (.returned (), s₁) →
    ∃ found fault? s₂, Measures w work s₁ found fault? s₂ ∧
      asked x.2.log =
        .connect connection.id :: .openSession :: (attempted work found fault?).map (.execute ·.query) ∧
      (∀ f, fault? = some f → x.1 = some (.error f) ∧ found.length < work.length) ∧
      (fault? = none → ∃ v : Validation, x.1 = some (firstOf (closingFaults w s₂) v) ∧
        found.length = work.length ∧ List.Forall₂ (fun x r => ReportOf x.1 x.2 r) (work.zip found) v.reports ∧
        v.issues = v.reports.filter (fun r => r.source.isMany && r.target.isMany) ∧
        v.skipped = (edgesOff tables edges).map (·.id) ∧ v.warnings = if wantsWarnings then warnings else [])

theorem validateModel_of_nil {tables : List Table} (htables : tables ≠ []) {edges : List Edge}
    (hwork : edges.filterMap (Measurable.of? tables) = []) (connection : Connection) (wantsWarnings : Bool)
    (warnings : List Warning) (c : Course σ ω) :
    Validator.validateModel w connection wantsWarnings tables edges warnings c =
      (.returned { skipped := (edgesOff tables edges).map (·.id) }, c) := by
  obtain ⟨base, rest, rfl⟩ := List.exists_cons_of_ne_nil htables
  cases edges with
  | nil => rfl
  | cons e more =>
    simp only [Validator.validateModel, filter_of_isNone, hwork]
    rfl

theorem validateModel_of_ne_nil {tables : List Table} (htables : tables ≠ []) {edges : List Edge}
    (hwork : edges.filterMap (Measurable.of? tables) ≠ []) (connection : Connection) (wantsWarnings : Bool)
    (warnings : List Warning) :
    (Validator.validateModel w connection wantsWarnings tables edges warnings : Work σ ω Validation) = do
      let reports ← Validator.inSession w connection
        (Validator.measureAll w (edges.filterMap (Measurable.of? tables)))
      return {
        reports
        skipped := (edgesOff tables edges).map (·.id)
        warnings := if wantsWarnings then warnings else [] } := by
  have hedges : edges ≠ [] := fun h => hwork (by rw [h]; rfl)
  simp only [Validator.validateModel, filter_of_isNone, List.isEmpty_eq_false_iff.2 htables,
    List.isEmpty_eq_false_iff.2 hedges, List.isEmpty_eq_false_iff.2 hwork]
  rfl

theorem classify_eq_manyToMany (source target : SideStats) :
    classify source target = .manyToMany ↔ source.isMany = true ∧ target.isMany = true := by
  unfold classify
  cases source.isMany <;> cases target.isMany <;> simp

/-- Every edge has its report, in order. -/
theorem forall₂_reports (work : List Measurable) (found : List (SideStats × SideStats)) :
    List.Forall₂ (fun x r => ReportOf x.1 x.2 r) (work.zip found) (List.zipWith Measurable.report work found) := by
  rw [← List.map_uncurry_zip_eq_zipWith, List.forall₂_map_right_iff]
  exact List.forall₂_same.2 fun x _ => ⟨rfl, rfl, rfl, rfl, rfl, rfl, rfl⟩

theorem detected_of_mem {measured : List (Measurable × (SideStats × SideStats))} {reports : List EdgeReport}
    (h : List.Forall₂ (fun x r => ReportOf x.1 x.2 r) measured reports) :
    ∀ r ∈ reports, r.detected = classify r.source r.target := by
  induction h with
  | nil => exact fun r hr => absurd hr List.not_mem_nil
  | cons hreport _ ih =>
    exact List.forall_mem_cons.2 ⟨by rw [hreport.detected, hreport.source, hreport.target], ih⟩

/-- The issues are the reports of edges along which both sides are many. -/
theorem issues_eq {v : Validation} {measured : List (Measurable × (SideStats × SideStats))}
    (h : List.Forall₂ (fun x r => ReportOf x.1 x.2 r) measured v.reports) :
    v.issues = v.reports.filter fun r => r.source.isMany && r.target.isMany := by
  refine List.filter_congr fun r hr => ?_
  rw [Bool.eq_iff_iff, decide_eq_true_iff, detected_of_mem h r hr, classify_eq_manyToMany, Bool.and_eq_true]

theorem validateModel_of_refused (hw : w.Patient) {tables : List Table} (htables : tables ≠ []) {edges : List Edge}
    (hwork : edges.filterMap (Measurable.of? tables) ≠ []) {connection : Connection} {s s' : Scene σ} {f : Fault}
    (hleft : s.left? = none) (h : opening w connection s = (.failed f, s')) (wantsWarnings : Bool)
    (warnings : List Warning) :
    ∃ c, Validator.validateModel w connection wantsWarnings tables edges warnings { scene := s } = (.failed f, c) ∧
      asked c.log <+: [.connect connection.id, .openSession] ∧ Over c.log := by
  obtain ⟨c, hsession, hc⟩ := inSession_of_refused hw hleft h
    (Validator.measureAll w (edges.filterMap (Measurable.of? tables)))
  refine ⟨c, ?_, hc⟩
  rw [validateModel_of_ne_nil htables hwork, Work.bind_failed hsession]

theorem validateModel_of_opening (hw : w.Patient) {tables : List Table} (htables : tables ≠ []) {edges : List Edge}
    (hwork : edges.filterMap (Measurable.of? tables) ≠ []) {connection : Connection} {s s₁ : Scene σ}
    (hleft : s₁.left? = none) (h : opening w connection s = (.returned (), s₁)) (wantsWarnings : Bool)
    (warnings : List Warning) :
    let work := edges.filterMap (Measurable.of? tables)
    ∃ found fault? s₂ c, Measures w work s₁ found fault? s₂ ∧
      Validator.validateModel w connection wantsWarnings tables edges warnings { scene := s } =
        Work.ofExcept ((reported work found fault? >>= firstOf (closingFaults w s₂)).map fun reports => {
          reports
          skipped := (edgesOff tables edges).map (·.id)
          warnings := if wantsWarnings then warnings else [] }) c ∧
      asked c.log = .connect connection.id :: .openSession :: (attempted work found fault?).map (.execute ·.query) ∧
      Over c.log := by
  intro work
  obtain ⟨found, fault?, c, hall, hrun, hasked, hc, hleft'⟩ :=
    measureAll_measures hw work (idle_opened connection.id s₁) hleft
  obtain ⟨c', hsession, hasked', hover⟩ := inSession_of_opening hw h hall hc hleft'
  refine ⟨found, fault?, c.scene, c', hrun, ?_, ?_, hover⟩
  · rw [validateModel_of_ne_nil htables hwork]
    exact Work.bind_return_ofExcept hsession _
  · rw [hasked', hasked]
    rfl

/-- Two tables. -/
def twoTables : List Table :=
  [{ id := "a", name := "orders" }, { id := "b", name := "items" }]

/-- Three edges between them, and one whose end is nowhere. -/
def fourEdges : List Edge :=
  [{ id := "e1", fromTable := "a", toTable := "b" }, { id := "e2", fromTable := "a", toTable := "x" },
    { id := "e3", fromTable := "b", toTable := "a" }, { id := "e4", fromTable := "a", toTable := "b" }]

/-- The row of a side with so many rows and keys. -/
def countsRow (side : String) (rows keys : Nat) : Json.Members :=
  [("side", .string side), ("total_rows", .number (.integer rows)), ("distinct_keys", .number (.integer keys))]

/-- A warehouse that counts for the first edge and not for the next one. -/
def halfScript : Script :=
  { replies := [{ rows := [countsRow "source" 3 3, countsRow "target" 5 3] }, { fetchError? := some "expired" }] }

/-- Nothing is measured after the edge that fails. -/
example :
    let x := Work.within none (Validator.validateModel scripted ⟨"c", "", "", ""⟩ true twoTables fourEdges [])
      { scene := { world := halfScript } }
    x.1 = some (.error (.warehouse "expired")) ∧ x.2.log.map (·.event.text) =
      ["connect c", "open_session", "execute", "fetch", "schema", "close_operation", "execute", "fetch",
        "close_operation", "close_session", "close_client"] := by
  decide +kernel

end JoinCanvas
