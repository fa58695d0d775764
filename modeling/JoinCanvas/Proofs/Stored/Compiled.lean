import JoinCanvas.Proofs.Join.Bare
import JoinCanvas.Proofs.Join.Passes
import JoinCanvas.Proofs.Stored.RoundTrip

/-!
# Storing a model and compiling it

A stored model is loaded with other keys than it had where a column is blank or a simple key looks like a composite
one.  It compiles to the same query as long as its keys still equate the same columns.

* `JoinKey.Stable`: the keys that still do.
* `compile_reloaded`: a model with such keys, or with a hand-written query, compiles to the same query when it is
  loaded.
-/

namespace JoinCanvas

open JoinCanvas.Text

namespace JoinKey

/-- A key that equates the same columns when it was stored and loaded: a simple one that does not look like a composite
one, or a composite one without blank columns.  The columns of a simple one may be blank and a composite one may be
without pairs, as the default columns stand for both. -/
def Stable : JoinKey → Prop
  | .simple a _ => startsWith compositeMark a = false
  | .composite pairs => ∀ p ∈ pairs, p.Named

/-- What is read of a composite key: its pairs, with the blank columns replaced. -/
theorem ofStored_composite {pairs : List KeyPair} (h : pairs ≠ []) :
    ofStored (some (stored (.composite pairs)).1) (some (stored (.composite pairs)).2) =
      .ok (.composite (pairs.map fun p => KeyPair.of p.fromColumn p.toColumn)) := by
  obtain ⟨p, ps, rfl⟩ := List.exists_cons_of_ne_nil h
  simp only [ofStored, compositeText?, stored, Option.getD_some, after_append, readPairs_pairsText]

theorem ofStored_composite_nil :
    ofStored (some (stored (.composite [])).1) (some (stored (.composite [])).2) = .error .noPairs := by
  simp only [ofStored, compositeText?, stored, Option.getD_some, after_append, readPairs_pairsText]

end JoinKey

theorem StoredEdge.pairs_ofEdge {e : Edge} (h : e.key.Stable) :
    (StoredEdge.ofEdge e).edge.key.pairs = e.key.pairs := by
  change (StoredEdge.ofEdge e).key.pairs = e.key.pairs
  unfold StoredEdge.key StoredEdge.ofEdge
  cases hkey : e.key with
  | simple a b =>
    rw [hkey] at h
    have hnone : after? JoinKey.compositeMark a = none := JoinKey.after_eq_none_iff.2 h
    have hread : JoinKey.ofStored (some a) (some b) = .ok (JoinKey.ofColumns a b) := by
      simp only [JoinKey.ofStored, JoinKey.compositeText?, Option.getD_some, hnone]
    simp only [JoinKey.stored, hread, JoinKey.ofColumns, JoinKey.pairs, KeyPair.of, columnOrDefault_idem]
  | composite pairs =>
    rw [hkey] at h
    by_cases hne : pairs = []
    · subst hne
      simp only [JoinKey.ofStored_composite_nil]
      rfl
    · have hpairs : pairs.map (fun p => KeyPair.of p.fromColumn p.toColumn) = pairs :=
        (List.map_congr_left fun p hp => (h p hp).of_eq).trans (List.map_id _)
      simp only [JoinKey.ofStored_composite hne, hpairs]

theorem StoredEdge.bare_ofEdge {e : Edge} (h : e.key.Stable) : (StoredEdge.ofEdge e).edge.bare = e.bare := by
  have hpairs := StoredEdge.pairs_ofEdge h
  simp only [Edge.bare, hpairs]
  rfl

/-- What a model compiles to, but for its warnings: the query and the tables that are not joined. -/
def Model.compiledQuery? (m : Model) : Option (String × List String) :=
  m.compile?.map fun c => (c.sql, c.unjoined)

theorem compiledQuery_withWarnings (m : Model) (warnings : List Warning) :
    { m with warnings }.compiledQuery? = m.compiledQuery? := by
  have hquery : { m with warnings }.query? = m.query? := rfl
  simp only [Model.compiledQuery?, Model.compile?, hquery]
  cases m.filters.manual? with
  | some sql => rfl
  | none => cases m.query? <;> rfl

/-- A model that was stored and loaded compiles to the same query as before, or to none as before, when its query is
hand-written or its keys are stable. -/
theorem compile_reloaded {m : Model} (h : m.isManual = true ∨ ∀ e ∈ m.edges, e.key.Stable) (complaint : Complaint) :
    ((StoredModel.ofModel m).model complaint).compiledQuery? = m.compiledQuery? := by
  have hmodel : (StoredModel.ofModel m).model complaint =
      { { m with edges := ((StoredModel.ofModel m).model complaint).edges } with
        warnings := ((StoredModel.ofModel m).model complaint).warnings } := by
    simp only [StoredModel.model, StoredModel.ofModel, StoredFilters.filters_ofFilters]
  rw [hmodel, compiledQuery_withWarnings]
  rcases h with h | h
  · obtain ⟨sql, hsql⟩ := Option.isSome_iff_exists.1 h
    simp only [Model.compiledQuery?, Model.compile?, hsql]
  · have hedges : ((StoredModel.ofModel m).model complaint).edges.map Edge.bare = m.edges.map Edge.bare := by
      change ((m.edges.map StoredEdge.ofEdge).map StoredEdge.edge).map Edge.bare = _
      rw [List.map_map, List.map_map]
      exact List.map_congr_left fun e he => StoredEdge.bare_ofEdge (h e he)
    rw [Model.compiledQuery?, compile_of_bare m hedges, Model.compiledQuery?]

/-- A model with keys that are read otherwise than they were stored, but equate the same columns: a simple one with
blank columns, a composite one without pairs, and one whose second column looks like a composite key. -/
def blankKeysModel : Model :=
  { id := "m"
    tables := [{ id := "a", name := "orders" }, { id := "b", name := "lines" }, { id := "c", name := "parts" }]
    edges :=
      [{ id := "e", fromTable := "a", toTable := "b", key := .simple " " "" },
        { id := "f", fromTable := "b", toTable := "c", key := .composite [] },
        { id := "g", fromTable := "c", toTable := "c", key := .simple "id" "__JSON__:[]" }]
    warnings := [.redundantEdge "g"] }

theorem compile_reloaded_blankKeys : (∀ e ∈ blankKeysModel.edges, e.key.Stable) ∧
    (StoredModel.ofModel blankKeysModel).model.compiledQuery? = blankKeysModel.compiledQuery? := by
  have hstable : ∀ e ∈ blankKeysModel.edges, e.key.Stable := by
    intro e he
    simp only [blankKeysModel, List.mem_cons, List.not_mem_nil, or_false] at he
    rcases he with rfl | rfl | rfl
    · exact (by decide : startsWith JoinKey.compositeMark " " = false)
    · exact fun p hp => absurd hp List.not_mem_nil
    · exact (by decide : startsWith JoinKey.compositeMark "id" = false)
  exact ⟨hstable, compile_reloaded (Or.inr hstable) fun _ => none⟩

/-- Two tables that are joined on a pair of columns. -/
def pairModel (p : KeyPair) : Model :=
  { id := "m"
    tables := [{ id := "a", name := "a" }, { id := "b", name := "b" }]
    edges := [{ id := "e", fromTable := "a", toTable := "b", key := .composite [p] }] }

theorem plan_pairModel (p : KeyPair) : Plan.ofCanvas (pairModel p).tables (pairModel p).edges =
    { base? := some ⟨"a", "\x60a\x60", "t1"⟩
      joins := [⟨some "e", .along .left, ⟨"b", "\x60b\x60", "t2"⟩,
        [.binary .eq (.column (some "t1") p.fromColumn) (.column (some "t2") p.toColumn)]⟩] } := by
  simp only [pairModel, Plan.ofCanvas]
  rw [Progress.settle_of_pass (by rfl)]
  rfl

theorem model_ofModel_pairModel (p : KeyPair) : (StoredModel.ofModel (pairModel p)).model =
    pairModel (KeyPair.of p.fromColumn p.toColumn) := by
  have hkey := JoinKey.ofStored_composite (List.cons_ne_nil p [])
  simp only [StoredModel.model, StoredModel.ofModel, pairModel, List.map_cons, List.map_nil, StoredEdge.edge,
    StoredEdge.key, StoredEdge.ofEdge, List.filterMap_cons, StoredEdge.warning?, hkey]
  rfl

/-- A blank column is compiled as it is, and as the default column when the model was stored and loaded. -/
theorem compile_reloaded_blankPair :
    let m := pairModel ⟨"", "order"⟩
    let joined := "SELECT * FROM \x60a\x60 AS t1 LEFT JOIN \x60b\x60 AS t2 ON "
    m.compiledQuery? = some (joined ++ "t1.\x60\x60 = t2.\x60order\x60", []) ∧
      (StoredModel.ofModel m).model.compiledQuery? = some (joined ++ "t1.\x60id\x60 = t2.\x60order\x60", []) ∧
      (StoredModel.ofModel m).model.compiledQuery? ≠ m.compiledQuery? := by
  intro m joined
  have hbefore : m.compiledQuery? = some (joined ++ "t1.\x60\x60 = t2.\x60order\x60", []) := by
    simp only [m, Model.compiledQuery?, Model.compile?, Model.query?, plan_pairModel]
    rfl
  have hafter : (StoredModel.ofModel m).model.compiledQuery? =
      some (joined ++ "t1.\x60id\x60 = t2.\x60order\x60", []) := by
    have hpair : KeyPair.of "" "order" = ⟨"id", "order"⟩ := by decide
    simp only [m, model_ofModel_pairModel, hpair, Model.compiledQuery?, Model.compile?, Model.query?, plan_pairModel]
    rfl
  refine ⟨hbefore, hafter, ?_⟩
  rw [hbefore, hafter]
  decide

end JoinCanvas
