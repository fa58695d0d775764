import JoinCanvas.Compile
import JoinCanvas.Proofs.Join.Passes
import JoinCanvas.Proofs.Model.Places
import Mathlib.Data.List.Forall2

/-!
# What a plan covers

A plan joins the tables that the edges of the canvas reach from the first table, and cross joins the others.

* `joins_ofCanvas`: the joins of a plan, edge joins before cross joins, by the tables they bring in.
* `exists_query`: the query that the plan of a canvas stands in.
* `ofCanvas_covers`: every identifier of the canvas is joined along an edge or cross joined, once.
-/

namespace JoinCanvas

open JoinCanvas.Sql

/-- The edges with both of their ends on the canvas. -/
def edgesOn (tables : List Table) (edges : List Edge) : List Edge :=
  edges.filter fun e => e.fromTable ∈ tables.map (·.id) ∧ e.toTable ∈ tables.map (·.id)

theorem mem_edgesOn {tables : List Table} {edges : List Edge} {e : Edge} :
    e ∈ edgesOn tables edges ↔
      e ∈ edges ∧ e.fromTable ∈ tables.map (·.id) ∧ e.toTable ∈ tables.map (·.id) := by
  simp [edgesOn]

theorem missingEnd_eq_none_iff (tables : List Table) (e : Edge) :
    missingEnd? tables e = none ↔ e.fromTable ∈ tables.map (·.id) ∧ e.toTable ∈ tables.map (·.id) := by
  simp [missingEnd?]

/-- The edges that are not dangling are those with both ends on the canvas. -/
theorem filter_missingEnd (tables : List Table) (edges : List Edge) :
    (edges.filter fun e => (missingEnd? tables e).isNone) = edgesOn tables edges := by
  refine List.filter_congr fun e _ => ?_
  rw [Bool.eq_iff_iff, Option.isNone_iff_eq_none, missingEnd_eq_none_iff, decide_eq_true_iff]

/-- How far the passes get from a table. -/
def reachedFrom (base : String) (tables : List Table) (edges : List Edge) : Progress :=
  Progress.settle ⟨[base], edgesOn tables edges, [], []⟩

theorem reachedFrom_kept (base : String) (tables : List Table) (edges : List Edge) :
    Progress.Kept base (edgesOn tables edges) (reachedFrom base tables edges) :=
  (Progress.Kept.start base (edgesOn tables edges)).settle

/-- The unreached tables are the identifiers that are not joined, each once, in the order of first occurrence. -/
theorem unreached_eq (tables : List Table) (joined : List String) :
    unreached tables joined = ((tables.map (·.id)).filter (· ∉ joined)).eraseDups := by
  induction tables generalizing joined with
  | nil => rfl
  | cons t rest ih =>
    unfold unreached
    split
    · next h => simp [ih, h]
    · next h =>
      -- dropping the later occurrences of an identifier is the same as counting it as joined
      have hfilter : ((rest.map (·.id)).filter (· ∉ joined)).filter (fun id => !id == t.id) =
          (rest.map (·.id)).filter (· ∉ t.id :: joined) := by
        rw [List.filter_filter]
        refine List.filter_congr fun id _ => ?_
        by_cases hid : id = t.id <;> simp [hid]
      rw [ih, List.map_cons, List.filter_cons_of_pos (by simpa using h), List.eraseDups_cons, hfilter]

theorem mem_unreached {tables : List Table} {joined : List String} {id : String} :
    id ∈ unreached tables joined ↔ id ∈ tables.map (·.id) ∧ id ∉ joined := by
  rw [unreached_eq, List.mem_eraseDups, List.mem_filter, decide_eq_true_iff]

/-- What is taken of a list where the function gives something for every member. -/
private theorem filterMap_of_forall_some {α β γ : Type} {f : α → Option β} {g : β → γ} {k : α → γ} {l : List α}
    (h : ∀ a ∈ l, ∃ b, f a = some b ∧ g b = k a) : (l.filterMap f).map g = l.map k := by
  induction l with
  | nil => rfl
  | cons a rest ih =>
    obtain ⟨b, hb, hg⟩ := h a (List.mem_cons_self ..)
    rw [List.filterMap_cons_some hb, List.map_cons, List.map_cons, hg,
      ih fun c hc => h c (List.mem_cons_of_mem _ hc)]

/-- The members of a list beside what the function gives for them. -/
theorem forall₂_filterMap {α β : Type} {f : α → Option β} {l : List α} (h : ∀ a ∈ l, ∃ b, f a = some b) :
    List.Forall₂ (fun a b => f a = some b) l (l.filterMap f) := by
  induction l with
  | nil => exact List.Forall₂.nil
  | cons a rest ih =>
    obtain ⟨b, hb⟩ := h a (List.mem_cons_self ..)
    rw [List.filterMap_cons_some hb]
    exact List.Forall₂.cons hb (ih fun c hc => h c (List.mem_cons_of_mem _ hc))

variable {base : Table} {rest : List Table} {edges : List Edge}

/-- A joined table is on the canvas. -/
theorem mem_ids_of_reached {id : String} (h : id ∈ (reachedFrom base.id (base :: rest) edges).joined) :
    id ∈ (base :: rest).map (·.id) := by
  have hr := (Progress.mem_joined_settle_iff base.id _ id).1 h
  cases hr with
  | refl => simp
  | tail _ hl =>
    obtain ⟨e, he, ⟨-, rfl⟩ | ⟨rfl, -⟩⟩ := hl
    · exact (mem_edgesOn.1 he).2.2
    · exact (mem_edgesOn.1 he).2.1

/-- An edge that was taken leads to a table on the canvas and has both ends there. -/
theorem mem_ids_of_taken {x : Edge × String} (hx : x ∈ (reachedFrom base.id (base :: rest) edges).taken) :
    x.2 ∈ (base :: rest).map (·.id) ∧ x.1.fromTable ∈ (base :: rest).map (·.id) ∧
      x.1.toTable ∈ (base :: rest).map (·.id) := by
  have hk := reachedFrom_kept base.id (base :: rest) edges
  have htarget : x.2 ∈ (reachedFrom base.id (base :: rest) edges).joined := by
    rw [← List.mem_reverse, hk.grown.joined_eq]
    exact List.mem_cons_of_mem _ (List.mem_map.2 ⟨x, hx, rfl⟩)
  exact ⟨mem_ids_of_reached htarget, (mem_edgesOn.1 (hk.taken_mem x hx)).2⟩

/-- An edge that was taken can be joined along. -/
theorem exists_joinAlong {x : Edge × String} (hx : x ∈ (reachedFrom base.id (base :: rest) edges).taken) :
    ∃ j, joinAlong? (base :: rest) x.1 x.2 = some j ∧ j.table.id = x.2 ∧ j.edge? = some x.1.id := by
  obtain ⟨htarget, hfrom, hto⟩ := mem_ids_of_taken hx
  obtain ⟨p, hp, hpid⟩ := exists_planned htarget
  obtain ⟨q, hq, -⟩ := exists_planned hfrom
  obtain ⟨r, hr, -⟩ := exists_planned hto
  exact ⟨_, by rw [joinAlong?, hp, hq, hr]; rfl, hpid, rfl⟩

/-- The joins of a plan along edges. -/
def edgeJoins (tables : List Table) (p : Progress) : List PlannedJoin :=
  p.taken.filterMap fun (e, target) => joinAlong? tables e target

/-- The cross joins of a plan. -/
def crossJoins (tables : List Table) (p : Progress) : List PlannedJoin :=
  (unreached tables p.joined).filterMap fun id => (planned? tables id).map fun t => ⟨none, .cross, t, []⟩

/-- The joins of a plan, edge joins before cross joins. -/
theorem joins_ofCanvas (base : Table) (rest : List Table) (edges : List Edge) :
    (Plan.ofCanvas (base :: rest) edges).joins =
      edgeJoins (base :: rest) (reachedFrom base.id (base :: rest) edges) ++
        crossJoins (base :: rest) (reachedFrom base.id (base :: rest) edges) := by
  simp only [Plan.ofCanvas, filter_missingEnd]
  rfl

theorem unjoined_ofCanvas (base : Table) (rest : List Table) (edges : List Edge) :
    (Plan.ofCanvas (base :: rest) edges).unjoined =
      unreached (base :: rest) (reachedFrom base.id (base :: rest) edges).joined := by
  simp only [Plan.ofCanvas, filter_missingEnd]
  rfl

theorem base_ofCanvas (base : Table) (rest : List Table) (edges : List Edge) :
    (Plan.ofCanvas (base :: rest) edges).base? = some ⟨base.id, qualifiedTable base, tableAlias 0⟩ := by
  simp [Plan.ofCanvas, planned?, findTable?, findTable?.go]

/-- The query of a canvas, part by part. -/
theorem exists_query {m : Model} (h : m.tables = base :: rest) :
    ∃ q, m.query? = some q ∧ q.items = selectItems (base :: rest) ∧
      q.source = PlannedTable.source ⟨base.id, qualifiedTable base, tableAlias 0⟩ ∧
      q.joins = (Plan.ofCanvas (base :: rest) m.edges).joins.map PlannedJoin.join ∧
      q.filters = filterExprs (base :: rest) m.filters.list ∧ q.groupByAll = m.groupByAll :=
  ⟨_, by rw [Model.query?, h, base_ofCanvas]; rfl, rfl, rfl, rfl, rfl, rfl⟩

/-- A canvas in graph mode compiles to the text of its query. -/
theorem compile_eq_of_query {m : Model} {q : Query} (hmanual : m.filters.manual? = none) (hq : m.query? = some q) :
    m.compile? = some ⟨q.text, (Plan.ofCanvas m.tables m.edges).unjoined,
      m.warnings ++ (Plan.ofCanvas m.tables m.edges).warnings⟩ := by
  simp only [Model.compile?, hmanual, hq, Option.map_some]

theorem edgeJoins_isSome {tables : List Table} {p : Progress} {j : PlannedJoin} (hj : j ∈ edgeJoins tables p) :
    j.edge?.isSome := by
  obtain ⟨x, -, hx⟩ := List.mem_filterMap.1 hj
  obtain ⟨t, s, o, -, -, -, rfl⟩ := exists_of_joinAlong hx
  rfl

theorem crossJoins_edge {tables : List Table} {p : Progress} {j : PlannedJoin} (hj : j ∈ crossJoins tables p) :
    j.edge? = none ∧ j.kind = .cross ∧ j.conditions = [] := by
  obtain ⟨id, -, hid⟩ := List.mem_filterMap.1 hj
  obtain ⟨t, -, rfl⟩ := Option.map_eq_some_iff.1 hid
  exact ⟨rfl, rfl, rfl⟩

/-- The cross joins bring in the unreached tables in order. -/
theorem ids_crossJoins (tables : List Table) (p : Progress) :
    (crossJoins tables p).map (·.table.id) = unreached tables p.joined := by
  refine (filterMap_of_forall_some fun id hid => ?_).trans (List.map_id _)
  obtain ⟨t, ht, hid⟩ := exists_planned (mem_unreached.1 hid).1
  exact ⟨_, by rw [ht]; rfl, hid⟩

/-- The edge joins bring in the joined tables in the order in which the passes took the edges. -/
theorem ids_edgeJoins :
    (edgeJoins (base :: rest) (reachedFrom base.id (base :: rest) edges)).map (·.table.id) =
      (reachedFrom base.id (base :: rest) edges).taken.map (·.2) := by
  refine filterMap_of_forall_some fun x hx => ?_
  obtain ⟨j, hj, hid, -⟩ := exists_joinAlong hx
  exact ⟨j, hj, hid⟩

/-- The edge joins are those of the edges that were taken, one for each of them and in their order. -/
theorem forall₂_edgeJoins (base : Table) (rest : List Table) (edges : List Edge) :
    List.Forall₂ (fun x j => joinAlong? (base :: rest) x.1 x.2 = some j)
      (reachedFrom base.id (base :: rest) edges).taken
      (edgeJoins (base :: rest) (reachedFrom base.id (base :: rest) edges)) := by
  refine forall₂_filterMap fun x hx => ?_
  obtain ⟨j, hj, -⟩ := exists_joinAlong hx
  exact ⟨j, hj⟩

/-- The base and the edge joins bring in the joined tables, from the first to the latest. -/
theorem joinedIds_ofCanvas (base : Table) (rest : List Table) (edges : List Edge) :
    (Plan.ofCanvas (base :: rest) edges).joinedIds = (reachedFrom base.id (base :: rest) edges).joined.reverse := by
  have hedges : (edgeJoins (base :: rest) (reachedFrom base.id (base :: rest) edges)).filter (·.edge?.isSome) =
      edgeJoins (base :: rest) (reachedFrom base.id (base :: rest) edges) :=
    List.filter_eq_self.2 fun j hj => edgeJoins_isSome hj
  have hcross : (crossJoins (base :: rest) (reachedFrom base.id (base :: rest) edges)).filter (·.edge?.isSome) = [] :=
    List.filter_eq_nil_iff.2 fun j hj => by simp [(crossJoins_edge hj).1]
  rw [Plan.joinedIds, base_ofCanvas, joins_ofCanvas, List.filter_append, hedges, hcross, List.append_nil,
    ids_edgeJoins, (reachedFrom_kept base.id (base :: rest) edges).grown.joined_eq]
  rfl

theorem mem_joinedIds_ofCanvas_iff {id : String} :
    id ∈ (Plan.ofCanvas (base :: rest) edges).joinedIds ↔ Reachable (edgesOn (base :: rest) edges) base.id id := by
  rw [joinedIds_ofCanvas, List.mem_reverse]
  exact Progress.mem_joined_settle_iff base.id _ id

/-- The passes end, at the latest one pass after as many as there are edges, with a plan from the first table.  The
plan joins along edges, each once, the tables that the edges with both ends on the canvas reach from there.  The other
identifiers are cross joined behind them, each once, in the order of first occurrence. -/
theorem ofCanvas_covers (base : Table) (rest : List Table) (edges : List Edge) :
    let tables := base :: rest
    let plan := Plan.ofCanvas tables edges
    let start : Progress := ⟨[base.id], edgesOn tables edges, [], []⟩
    (∃ n ≤ edges.length, start.settle = Progress.pass^[n + 1] start) ∧
    plan.base? = some ⟨base.id, qualifiedTable base, tableAlias 0⟩ ∧
    plan.joinedIds.Nodup ∧
    (∀ id, id ∈ plan.joinedIds ↔ Reachable (edgesOn tables edges) base.id id) ∧
    plan.unjoined = ((tables.map (·.id)).filter (· ∉ plan.joinedIds)).eraseDups ∧
    ∃ along crosses, plan.joins = along ++ crosses ∧ (∀ j ∈ along, j.edge?.isSome) ∧
      (∀ j ∈ crosses, j.edge? = none ∧ j.kind = .cross ∧ j.conditions = []) ∧
      crosses.map (·.table.id) = plan.unjoined := by
  intro tables plan start
  refine ⟨?_, base_ofCanvas base rest edges, ?_, fun id => mem_joinedIds_ofCanvas_iff, ?_, ?_⟩
  · obtain ⟨n, hn, hs⟩ := Progress.exists_settle_eq_iterate start
    exact ⟨n, Nat.le_trans hn (List.length_filter_le ..), hs⟩
  · rw [joinedIds_ofCanvas]
    exact (List.reverse_perm _).nodup_iff.2 (reachedFrom_kept base.id tables edges).grown.nodup
  · rw [unjoined_ofCanvas, unreached_eq]
    simp only [plan, joinedIds_ofCanvas, List.mem_reverse, tables]
  · refine ⟨_, _, joins_ofCanvas base rest edges, fun j hj => edgeJoins_isSome hj,
      fun j hj => crossJoins_edge hj, ?_⟩
    rw [ids_crossJoins, unjoined_ofCanvas]

end JoinCanvas
