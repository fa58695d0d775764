import JoinCanvas.Proofs.Cardinality.Measuring
import JoinCanvas.Proofs.Join.Accounts
import JoinCanvas.Proofs.Join.Aliases
import JoinCanvas.Proofs.Warehouse.Attempts
import JoinCanvas.Stored.Basic

/-!
# Joins and what is measured of them

A join and the statistics of its edge are written apart.  The join names its tables by the aliases of their places; the
statistics sample the first tables with the identifiers of the ends.  Both are about the same tables and columns,
whatever the keys of the edges and however often identifiers repeat.

* `Work.Sends`: queries that work sends in order, and all of which it sends if it returns.
* `validateModel_sends`: the statistics queries of a canvas.
* `exists_source`: the table behind an alias is the first one of its identifier.
* `joins_sampled`: every join of a query is sampled by the statistics query of its edge.
-/

namespace JoinCanvas

open JoinCanvas.Sql JoinCanvas.Text

variable {σ ω α β : Type}

/-- The tables of a query in the order of its `FROM` clause. -/
def Sql.Query.sources (q : Query) : List Source :=
  q.source :: q.joins.map (·.source)

/-- The text that counts the rows of a table, and the different values in some of its columns. -/
def Stats.sideText (side table : String) (columns : List String) : String :=
  "SELECT " ++ joined ", " [quotedString side ++ " AS \x60side\x60", "COUNT(*) AS \x60total_rows\x60",
    "COUNT(DISTINCT " ++ joined ", " (columns.map quotedName) ++ ") AS \x60distinct_keys\x60"] ++ " FROM " ++ table

/-- A text samples what a join of a query equates by pairs of columns: the table that goes by the alias on the left with
the columns on the left, and the table that goes by the alias on the right with the columns on the right. -/
def Samples (q : Query) (pairs : List KeyPair) (j : Join) (sql : String) : Prop :=
  ∃ left ∈ q.sources, ∃ right ∈ q.sources, ∃ a b, left.alias? = some a ∧ right.alias? = some b ∧
    j.conditions = pairs.map (fun p =>
      .binary .eq (.column (some a) p.fromColumn) (.column (some b) p.toColumn)) ∧
    sql = Stats.sideText "source" left.qualified (pairs.map (·.fromColumn)) ++ " UNION ALL " ++
      Stats.sideText "target" right.qualified (pairs.map (·.toColumn))

/-! ### What is sent -/

namespace Work

/-- The work sends queries in order until it ends, and all of them if it returns. -/
def Sends (queries : List String) (k : Work σ ω α) : Prop :=
  ∀ c, ∃ sent, sent <+: queries ∧ statements (k c).2.log = statements c.log ++ sent ∧
    ∀ a c', k c = (.returned a, c') → sent = queries

variable {k : Work σ ω α} {next : α → Work σ ω β}

theorem Silent.sends (hk : k.Silent) : k.Sends [] := fun c =>
  ⟨[], List.prefix_rfl, by rw [hk c, List.append_nil], fun _ _ _ => rfl⟩

theorem Sends.andThen {first rest : List String} (hk : k.Sends first) (hnext : ∀ a, (next a).Sends rest) :
    (k >>= next).Sends (first ++ rest) := by
  intro c
  obtain ⟨sent, hprefix, hsent, hall⟩ := hk c
  rcases h : k c with ⟨a | f | _, c₁⟩ <;> rw [h] at hsent
  · obtain rfl := hall a c₁ h
    obtain ⟨more, hprefix', hmore, hall'⟩ := hnext a c₁
    refine ⟨sent ++ more, (List.prefix_append_right_inj sent).2 hprefix', ?_, fun b c' hb => ?_⟩
    · rw [bind_returned h, hmore, hsent, List.append_assoc]
    · rw [bind_returned h] at hb
      rw [hall' b c' hb]
  · refine ⟨sent, hprefix.trans (List.prefix_append first rest), by rw [bind_failed h, hsent], fun b c' hb => ?_⟩
    rw [bind_failed h] at hb
    cases hb
  · refine ⟨sent, hprefix.trans (List.prefix_append first rest), by rw [bind_cutOff h, hsent], fun b c' hb => ?_⟩
    rw [bind_cutOff h] at hb
    cases hb

theorem within_eq (limit? : Option Nat) (k : Work σ ω α) (c : Course σ ω) :
    ∃ c₁, c₁.log = c.log ∧ (within limit? k c).2.log = (k c₁).2.log ∧
      ∀ a, (within limit? k c).1 = some (.ok a) → k c₁ = (.returned a, (k c₁).2) := by
  refine ⟨{ c with scene := { c.scene with left? := limit? } }, rfl, ?_⟩
  rcases h : k { c with scene := { c.scene with left? := limit? } } with ⟨a | f | _, c'⟩
  · rw [within_returned h]
    exact ⟨rfl, fun b hb => by rw [Except.ok.inj (Option.some.inj hb)]⟩
  · rw [within_failed h]
    exact ⟨rfl, nofun⟩
  · rw [within_cutOff h]
    exact ⟨rfl, nofun⟩

theorem exists_of_within {limit? : Option Nat} {c : Course σ ω} {a : α}
    (h : (within limit? k c).1 = some (.ok a)) : ∃ c₁ c₂, k c₁ = (.returned a, c₂) := by
  obtain ⟨c₁, -, -, hreturned⟩ := within_eq limit? k c
  exact ⟨c₁, _, hreturned a h⟩

theorem Sends.within {queries : List String} (hk : k.Sends queries) (limit? : Option Nat) (c : Course σ ω) :
    ∃ sent, sent <+: queries ∧ statements (within limit? k c).2.log = statements c.log ++ sent ∧
      ∀ a, (Work.within limit? k c).1 = some (.ok a) → sent = queries := by
  obtain ⟨c₁, hlog, hsnd, hreturned⟩ := within_eq limit? k c
  obtain ⟨sent, hprefix, hsent, hall⟩ := hk c₁
  rw [← hlog, hsnd]
  exact ⟨sent, hprefix, hsent, fun a ha => hall a _ (hreturned a ha)⟩

end Work

namespace Validator

open Work Session

variable (w : Warehouse σ ω)

theorem measure_sends (sql : String) : (measure w sql).Sends [sql] := by
  intro c
  refine ⟨[sql], List.prefix_rfl, ?_, fun _ _ _ => rfl⟩
  exact (statements_bind (fun _ => silent_ofExcept _) c).trans (statements_query w sql c)

theorem measureAll_sends (work : List Measurable) : (measureAll w work).Sends (work.map (·.query)) := by
  induction work with
  | nil => exact (silent_give []).sends
  | cons m rest ih =>
    have hrest (stats : SideStats × SideStats) :
        Work.Sends (σ := σ) (ω := ω) (rest.map (·.query)) (do return m.report stats :: (← measureAll w rest)) := by
      have h := ih.andThen fun reports => (silent_give (m.report stats :: reports)).sends
      rwa [List.append_nil] at h
    exact (measure_sends w m.query).andThen hrest

/-- The reports are those of the edges in order. -/
theorem reports_measureAll {work : List Measurable} {c c' : Course σ ω} {reports : List EdgeReport}
    (h : measureAll w work c = (.returned reports, c')) :
    List.Forall₂ (fun m r => ∃ stats, r = m.report stats) work reports := by
  induction work generalizing c c' reports with
  | nil =>
    obtain rfl := Outcome.returned.inj (Prod.mk.inj h).1
    exact .nil
  | cons m rest ih =>
    obtain ⟨stats, c₁, -, h⟩ := bind_eq_returned_iff.1 h
    obtain ⟨more, c₂, hmore, h⟩ := bind_eq_returned_iff.1 h
    obtain rfl := Outcome.returned.inj (Prod.mk.inj h).1
    exact .cons ⟨stats, rfl⟩ (ih hmore)

/-- Work that returned in a session of its own. -/
theorem exists_of_inSession {connection : Connection} {k : Work σ ω α} {c c' : Course σ ω} {a : α}
    (h : inSession w connection k c = (.returned a, c')) : ∃ c₁ c₂, k c₁ = (.returned a, c₂) := by
  obtain ⟨u, c₁, -, h⟩ := bind_eq_returned_iff.1 h
  obtain ⟨outcome, c₂, hattempt, h⟩ := bind_eq_returned_iff.1 h
  rw [attempt_eq_returned_iff, (finish_eq_returned_iff.1 h).1] at hattempt
  exact ⟨c₁, c₂, hattempt⟩

theorem inSession_sends (connection : Connection) {queries : List String} {k : Work σ ω α} (hk : k.Sends queries) :
    (inSession w connection k).Sends queries := by
  have hwork : (attempt k >>= finish w).Sends queries := by
    intro c
    obtain ⟨sent, hprefix, hsent, hall⟩ := hk c
    refine ⟨sent, hprefix, ?_, fun a c' h => ?_⟩
    · rw [statements_bind (silent_finish w), snd_attempt, hsent]
    · obtain ⟨outcome, c₁, hattempt, h⟩ := bind_eq_returned_iff.1 h
      rw [attempt_eq_returned_iff, (finish_eq_returned_iff.1 h).1] at hattempt
      exact hall a c₁ hattempt
  exact (silent_start w connection).sends.andThen fun _ => hwork

variable {tables : List Table} (edges : List Edge) (connection : Connection) (wantsWarnings : Bool)
  (warnings : List Warning)

/-- Measuring a canvas sends the statistics queries of the edges with both ends there. -/
theorem validateModel_sends (htables : tables ≠ []) :
    (validateModel w connection wantsWarnings tables edges warnings).Sends
      ((edges.filterMap (Measurable.of? tables)).map (·.query)) := by
  by_cases hwork : edges.filterMap (Measurable.of? tables) = []
  · have hnothing : validateModel w connection wantsWarnings tables edges warnings =
        Work.give { skipped := (edgesOff tables edges).map (·.id) } :=
      funext (validateModel_of_nil htables hwork connection wantsWarnings warnings)
    rw [hwork, hnothing]
    exact (silent_give _).sends
  · have h := (inSession_sends w connection (measureAll_sends w (edges.filterMap (Measurable.of? tables)))).andThen
      fun reports => (silent_give ({
        reports
        skipped := (edgesOff tables edges).map (·.id)
        warnings := if wantsWarnings then warnings else [] } : Validation)).sends
    rw [List.append_nil] at h
    rw [validateModel_of_ne_nil htables hwork]
    exact h

/-- There is a report of each edge with both ends there. -/
theorem reports_validateModel (htables : tables ≠ []) {c c' : Course σ ω} {v : Validation}
    (h : validateModel w connection wantsWarnings tables edges warnings c = (.returned v, c')) :
    List.Forall₂ (fun m r => ∃ stats, r = m.report stats) (edges.filterMap (Measurable.of? tables)) v.reports := by
  by_cases hwork : edges.filterMap (Measurable.of? tables) = []
  · rw [validateModel_of_nil htables hwork] at h
    obtain rfl := Outcome.returned.inj (Prod.mk.inj h).1
    rw [hwork]
    exact .nil
  · rw [validateModel_of_ne_nil htables hwork] at h
    obtain ⟨reports, c₁, hsession, h⟩ := bind_eq_returned_iff.1 h
    obtain rfl := Outcome.returned.inj (Prod.mk.inj h).1
    obtain ⟨c₂, c₃, hall⟩ := exists_of_inSession w hsession
    exact reports_measureAll w hall

theorem edges_validateModel (htables : tables ≠ []) {c c' : Course σ ω} {v : Validation}
    (h : validateModel w connection wantsWarnings tables edges warnings c = (.returned v, c')) :
    v.reports.map (·.edge) = (edges.filterMap (Measurable.of? tables)).map (·.edge.id) := by
  have hids : List.Forall₂ (· = ·) (v.reports.map (·.edge))
      ((edges.filterMap (Measurable.of? tables)).map (·.edge.id)) := by
    rw [List.forall₂_map_left_iff, List.forall₂_map_right_iff]
    refine (reports_validateModel w edges connection wantsWarnings warnings htables h).flip.imp ?_
    rintro r m ⟨stats, rfl⟩
    rfl
  exact List.forall₂_eq_eq_eq ▸ hids

end Validator

/-! ### What is sampled -/

theorem Stats.text_sideQuery (side : String) (table : Locator) (columns : List String) :
    (sideQuery side table columns).text = sideText side table.qualified columns := by
  have hside : (Item.mk (.literal (.string side)) (some "side")).text = quotedString side ++ " AS \x60side\x60" :=
    String.append_assoc
  have hkeys : (Item.mk (.countDistinct (columns.map (.column none))) (some "distinct_keys")).text =
      "COUNT(DISTINCT " ++ joined ", " (columns.map quotedName) ++ ") AS \x60distinct_keys\x60" := by
    have hcolumns : exprTexts (columns.map (.column none)) = columns.map quotedName := by
      rw [exprTexts_eq_map, List.map_map]
      rfl
    rw [← hcolumns]
    exact String.append_assoc.trans String.append_assoc
  have hitems : (sideQuery side table columns).itemsText = joined ", " [quotedString side ++ " AS \x60side\x60",
      "COUNT(*) AS \x60total_rows\x60",
      "COUNT(DISTINCT " ++ joined ", " (columns.map quotedName) ++ ") AS \x60distinct_keys\x60"] := by
    rw [← hside, ← hkeys]
    rfl
  have hjoins : (sideQuery side table columns).joinsText = "" := rfl
  have hfilters : (sideQuery side table columns).filtersText = "" := rfl
  have hgroup : (sideQuery side table columns).groupText = "" := rfl
  rw [Query.text, hitems, hjoins, hfilters, hgroup, String.append_empty, String.append_empty, String.append_empty]
  rfl

theorem Stats.query_eq (source target : Locator) (pairs : List KeyPair) :
    Stats.query source target pairs =
      sideText "source" source.qualified (pairs.map (·.fromColumn)) ++ " UNION ALL " ++
        sideText "target" target.qualified (pairs.map (·.toColumn)) := by
  rw [query, sides, unionText, List.map_cons, List.map_singleton, joined_cons_cons, joined_singleton, text_sideQuery,
    text_sideQuery]
  rfl

theorem find_eq_findTable (tables : List Table) (id : String) :
    tables.find? (·.id = id) = (findTable? tables id).map (·.2) := by
  have hgo (place : Nat) : tables.find? (·.id = id) = (findTable?.go id place tables).map (·.2) := by
    induction tables generalizing place with
    | nil => rfl
    | cons t rest ih =>
      unfold findTable?.go
      by_cases ht : t.id = id
      · rw [if_pos ht, List.find?_cons_of_pos (by simpa using ht)]
        rfl
      · rw [if_neg ht, List.find?_cons_of_neg (by simpa using ht)]
        exact ih (place + 1)
  exact hgo 0

variable {base : Table} {rest : List Table}

theorem sources_eq {m : Model} {q : Query} (hcanvas : m.tables = base :: rest) (hq : m.query? = some q) :
    q.sources = (Plan.ofCanvas (base :: rest) m.edges).tables.map PlannedTable.source := by
  obtain ⟨q', hq', -, hsource, hjoins, -⟩ := exists_query hcanvas
  obtain rfl := Option.some.inj (hq.symm.trans hq')
  rw [Query.sources, hsource, hjoins, Plan.tables, base_ofCanvas, List.map_map]
  simp [PlannedJoin.join]

/-- The table behind an alias is the first one of its identifier, under its full name. -/
theorem exists_source (edges : List Edge) {id a : String} (ha : aliasOf? (base :: rest) id = some a) :
    ∃ t, (base :: rest).find? (·.id = id) = some t ∧
      ⟨qualifiedTable t, some a⟩ ∈ (Plan.ofCanvas (base :: rest) edges).tables.map PlannedTable.source := by
  obtain ⟨⟨place, t⟩, hfind, rfl⟩ := Option.map_eq_some_iff.1 ha
  have hid : id ∈ (base :: rest).map (·.id) := (isSome_findTable_iff _ id).1 (by rw [hfind]; rfl)
  have hmem : id ∈ (Plan.ofCanvas (base :: rest) edges).tables.map (·.id) := mem_ids_tables hid
  obtain ⟨p, hp, rfl⟩ := List.mem_map.1 hmem
  refine ⟨t, by rw [find_eq_findTable, hfind]; rfl, List.mem_map.2 ⟨p, hp, ?_⟩⟩
  have hplanned := planned_of_mem_tables hp
  rw [planned?, hfind] at hplanned
  rw [← Option.some.inj hplanned]
  rfl

theorem nodup_sources {m : Model} {q : Query} (hcanvas : m.tables = base :: rest) (hq : m.query? = some q) :
    (q.sources.map (·.alias?)).Nodup := by
  have halias : q.sources.map (·.alias?) =
      ((Plan.ofCanvas (base :: rest) m.edges).tables.map (·.shortName)).map some := by
    rw [sources_eq hcanvas hq, List.map_map, List.map_map]
    rfl
  rw [halias]
  exact nodup_names_tables.map (Option.some_injective String)

/-- The statistics of an edge are about the join along it. -/
theorem samples_of_joinsAlong {m : Model} {q : Query} (hcanvas : m.tables = base :: rest) (hq : m.query? = some q)
    {e : Edge} {j : PlannedJoin} (h : JoinsAlong (base :: rest) e j) :
    ∃ x, Measurable.of? (base :: rest) e = some x ∧ Samples q e.key.pairs j.join x.query := by
  obtain ⟨a, b, ha, hb, hconditions⟩ := h.conditions
  obtain ⟨t, ht, hleft⟩ := exists_source m.edges ha
  obtain ⟨u, hu, hright⟩ := exists_source m.edges hb
  rw [← sources_eq hcanvas hq] at hleft hright
  exact ⟨⟨e, t, u⟩, by rw [Measurable.of?, ht, hu]; rfl, _, hleft, _, hright, a, b, rfl, rfl, hconditions,
    Stats.query_eq _ _ _⟩

/-- The joins of a query along edges are each of another stored edge, and the statistics query of that edge samples what
the join equates by the pairs of its key; the other joins are cross joins. -/
structure Sampled (s : StoredModel) (q : Query) (used : List (Edge × Nat)) (along crosses : List Join) : Prop where
  joins : q.joins = along ++ crosses
  crosses : ∀ j ∈ crosses, j.kind = .cross
  nodup : used.Nodup
  stored : ∀ x ∈ used, s.edges[x.2]?.map StoredEdge.edge = some x.1
  sampled : List.Forall₂ (fun x j => j.kind = .along x.1.joinType ∧
    ∃ m ∈ s.model.edges.filterMap (Measurable.of? s.tables), m.edge = x.1 ∧ Samples q x.1.key.pairs j m.query)
    used along

theorem exists_sampled {s : StoredModel} {q : Query} (hcanvas : s.tables = base :: rest)
    (hq : s.model.query? = some q) : ∃ used along crosses, Sampled s q used along crosses := by
  have hmodel : s.model.tables = base :: rest := hcanvas
  obtain ⟨q', hq', -, -, hjoins, -⟩ := exists_query hmodel
  obtain rfl := Option.some.inj (hq.symm.trans hq')
  obtain ⟨used, redundant, waiting, hn⟩ := exists_numbered base rest s.model.edges
  have hedges : ∀ x ∈ used, x ∈ s.model.edges.zipIdx := fun x hx =>
    ((hn.mem_iff x).1 (List.mem_append_left _ (List.mem_append_left _ hx))).1
  let progress := reachedFrom base.id (base :: rest) s.model.edges
  refine ⟨used, (edgeJoins (base :: rest) progress).map PlannedJoin.join,
    (crossJoins (base :: rest) progress).map PlannedJoin.join, ?_, fun j hj => ?_,
    hn.nodup.of_append_left.of_append_left, fun x hx => ?_, ?_⟩
  · rw [hjoins, joins_ofCanvas, List.map_append]
  · obtain ⟨p, hp, rfl⟩ := List.mem_map.1 hj
    exact (crossJoins_edge hp).2.1
  · rw [← List.getElem?_map]
    exact List.mem_zipIdx_iff_getElem?.1 (hedges x hx)
  · have halong := (List.forall₂_and_left (p := (· ∈ used)) _ _).2 ⟨fun _ hx => hx, forall₂_joinsAlong hn.used⟩
    refine List.forall₂_map_right_iff.2 (halong.imp fun x j hj => ⟨hj.2.kind, ?_⟩)
    obtain ⟨m, hm, hsamples⟩ := samples_of_joinsAlong hmodel hq hj.2
    have hmem : x.1 ∈ s.model.edges := List.fst_mem_of_mem_zipIdx (hedges x hj.1)
    rw [hcanvas]
    exact ⟨m, List.mem_filterMap.2 ⟨x.1, hmem, hm⟩, (of_eq_some hm).1, hsamples⟩

/-- The joins of a compiled query agree with what is measured of their edges.  Measuring the canvas sends the statistics
queries of the edges with both ends on it, in order, and when it returns it has sent them all. -/
theorem joins_sampled (w : Warehouse σ ω) (connection : Connection) (limit? : Option Nat) (wantsWarnings : Bool)
    {s : StoredModel} (htables : s.tables ≠ []) (warnings : List Warning) (world : σ) :
    let work := s.model.edges.filterMap (Measurable.of? s.tables)
    let x := Work.within limit? (Validator.validateModel w connection wantsWarnings s.tables s.model.edges warnings)
      { scene := { world } }
    (∃ q used along crosses, s.model.query? = some q ∧
      (s.model.filters.manual? = none → s.model.compile?.map (·.sql) = some q.text) ∧
      (q.sources.map (·.alias?)).Nodup ∧ Sampled s q used along crosses) ∧
    statements x.2.log <+: work.map (·.query) ∧
    ∀ v, x.1 = some (.ok v) →
      statements x.2.log = work.map (·.query) ∧ v.reports.map (·.edge) = work.map (·.edge.id) := by
  intro work x
  obtain ⟨base, rest, hcanvas⟩ := List.exists_cons_of_ne_nil htables
  have hmodel : s.model.tables = base :: rest := hcanvas
  obtain ⟨q, hq, -⟩ := exists_query hmodel
  obtain ⟨used, along, crosses, hsampled⟩ := exists_sampled hcanvas hq
  obtain ⟨sent, hprefix, hsent, hall⟩ :=
    (Validator.validateModel_sends w s.model.edges connection wantsWarnings warnings htables).within limit?
      { scene := { world } }
  have hlog : statements x.2.log = sent := hsent
  refine ⟨⟨q, used, along, crosses, hq, fun hmanual => ?_, nodup_sources hmodel hq, hsampled⟩, hlog ▸ hprefix,
    fun v hv => ⟨?_, ?_⟩⟩
  · rw [compile_eq_of_query hmanual hq]
    rfl
  · rw [hlog, hall v hv]
  · obtain ⟨c, c', hreturned⟩ := Work.exists_of_within hv
    exact Validator.edges_validateModel w s.model.edges connection wantsWarnings warnings htables hreturned

/-- A stored canvas with a repeated identifier.  The keys of its edges are unreadable, composite with a blank column, and
partly missing; the last edge has an end that is nowhere. -/
def keyedCanvas : StoredModel where
  id := "keyed"
  tables :=
    [{ id := "a", name := "orders", schema? := some " .main." }, { id := "b", name := "lines" },
      { id := "b", name := "lines_old" }, { id := "c", name := "" }, { id := "d", name := "days" }]
  edges :=
    [{ id := "e1", fromTable := "c", toTable := "b", fromColumn? := some "__JSON__:[" },
      { id := "e2", fromTable := "b", toTable := "a"
        fromColumn? := some ("__JSON__:[\x7b\"fromColumn\":\"x\",\"toColumn\":\" \"\x7d," ++
          "\x7b\"fromColumn\":\"y\",\"toColumn\":\"z\"\x7d]") },
      { id := "e3", fromTable := "d", toTable := "a", toColumn? := some "day" },
      { id := "e4", fromTable := "a", toTable := "x" }]

/-- A warehouse that counts for three edges. -/
def threeCounts : Script :=
  { replies := List.replicate 3 { rows := [countsRow "source" 3 3, countsRow "target" 5 3] } }

/-- The theorem at that canvas. -/
theorem joins_sampled_keyed : keyedCanvas.tables ≠ [] ∧
    let work := keyedCanvas.model.edges.filterMap (Measurable.of? keyedCanvas.tables)
    let x := Work.within none
      (Validator.validateModel scripted ⟨"c", "", "", ""⟩ true keyedCanvas.tables keyedCanvas.model.edges [])
      { scene := { world := threeCounts } }
    (∃ q used along crosses, keyedCanvas.model.query? = some q ∧
      (keyedCanvas.model.filters.manual? = none → keyedCanvas.model.compile?.map (·.sql) = some q.text) ∧
      (q.sources.map (·.alias?)).Nodup ∧ Sampled keyedCanvas q used along crosses) ∧
    statements x.2.log <+: work.map (·.query) ∧
    ∀ v, x.1 = some (.ok v) →
      statements x.2.log = work.map (·.query) ∧ v.reports.map (·.edge) = work.map (·.edge.id) :=
  ⟨List.cons_ne_nil _ _, joins_sampled scripted _ none true (List.cons_ne_nil _ _) [] threeCounts⟩

/-- Three of its edges can be measured, and all of them are. -/
example :
    let x := Work.within none
      (Validator.validateModel scripted ⟨"c", "", "", ""⟩ true keyedCanvas.tables keyedCanvas.model.edges [])
      { scene := { world := threeCounts } }
    x.1.map (fun result => result.toOption.map fun v => v.reports.map (·.edge)) = some (some ["e1", "e2", "e3"]) ∧
      (statements x.2.log).length = 3 := by
  decide +kernel

end JoinCanvas
