import JoinCanvas.Proofs.Join.Coverage
import Mathlib.Data.List.Nodup

/-!
# The aliases of a compiled query

A query declares an alias for every table that it names, and may only use those: in what it selects and in its
conditions any of them, in what a join equates the alias of its own table and those declared before.

* `Query.Scoped`: the rules that the aliases of a query follow.
* `nodup_ids_tables`: a plan brings in every table of the canvas once.
* `query_scoped`: compiled queries follow the rules.
-/

namespace JoinCanvas

open JoinCanvas.Sql

namespace Sql

mutual

/-- The aliases of the columns in an expression.  Finished text and literals have none. -/
def Expr.aliases : Expr → List String
  | .column (some name) _ => [name]
  | .column none _ | .literal _ | .raw _ | .wildcard => []
  | .aggregate _ e => e.aliases
  | .countDistinct es => exprAliases es
  | .binary _ left right => left.aliases ++ right.aliases
  | .isIn e list => e.aliases ++ exprAliases list
  | .isNull e _ => e.aliases

/-- The aliases of the columns in several expressions. -/
def exprAliases : List Expr → List String
  | [] => []
  | e :: rest => e.aliases ++ exprAliases rest

end

/-- A query whose sources go by the given aliases, the first one by the first of them.  The aliases are different,
selected items and conditions use no other ones, and a join equates columns of its own source with columns of one that
stands before it. -/
structure Query.Scoped (q : Query) (names : List String) : Prop where
  declared : (q.source :: q.joins.map (·.source)).map (·.alias?) = names.map some
  nodup : names.Nodup
  items : ∀ i ∈ q.items, ∀ a ∈ i.expr.aliases, a ∈ names
  filters : ∀ e ∈ q.filters, ∀ a ∈ e.aliases, a ∈ names
  links : ∀ k j, q.joins[k]? = some j → ∀ c ∈ j.conditions, ∃ a b x y,
    c = .binary .eq (.column (some a) x) (.column (some b) y) ∧ a ≠ b ∧
      ((names[k + 1]? = some a ∧ b ∈ names.take (k + 1)) ∨ (names[k + 1]? = some b ∧ a ∈ names.take (k + 1)))

end Sql

/-! ### Tables of a plan -/

/-- The tables of a plan in the order of the query. -/
def Plan.tables (p : Plan) : List PlannedTable :=
  p.base?.toList ++ p.joins.map (·.table)

theorem nodup_unreached (tables : List Table) (joined : List String) : (unreached tables joined).Nodup := by
  induction tables generalizing joined with
  | nil => exact List.nodup_nil
  | cons t rest ih =>
    unfold unreached
    split
    · exact ih joined
    · refine List.nodup_cons.2 ⟨fun hm => ?_, ih (t.id :: joined)⟩
      exact (mem_unreached.1 hm).2 (List.mem_cons_self ..)

variable {base : Table} {rest : List Table} {edges : List Edge}

theorem ids_tables : (Plan.ofCanvas (base :: rest) edges).tables.map (·.id) =
    (base.id :: (reachedFrom base.id (base :: rest) edges).taken.map (·.2)) ++
      unreached (base :: rest) (reachedFrom base.id (base :: rest) edges).joined := by
  rw [Plan.tables, base_ofCanvas, joins_ofCanvas, List.map_append, List.map_append, List.map_append, List.map_map,
    List.map_map]
  simp only [Function.comp_def, ids_edgeJoins, ids_crossJoins]
  rfl

theorem nodup_ids_tables : ((Plan.ofCanvas (base :: rest) edges).tables.map (·.id)).Nodup := by
  have hgrown := (reachedFrom_kept base.id (base :: rest) edges).grown
  rw [ids_tables, ← hgrown.joined_eq]
  refine List.Nodup.append (List.nodup_reverse.2 hgrown.nodup) (nodup_unreached _ _) fun id hj hu => ?_
  exact (mem_unreached.1 hu).2 (List.mem_reverse.1 hj)

theorem mem_ids_tables {id : String} (h : id ∈ (base :: rest).map (·.id)) :
    id ∈ (Plan.ofCanvas (base :: rest) edges).tables.map (·.id) := by
  have hgrown := (reachedFrom_kept base.id (base :: rest) edges).grown
  rw [ids_tables, ← hgrown.joined_eq]
  by_cases hj : id ∈ (reachedFrom base.id (base :: rest) edges).joined
  · exact List.mem_append_left _ (List.mem_reverse.2 hj)
  · exact List.mem_append_right _ (mem_unreached.2 ⟨h, hj⟩)

theorem planned_of_mem_tables {t : PlannedTable} (h : t ∈ (Plan.ofCanvas (base :: rest) edges).tables) :
    planned? (base :: rest) t.id = some t := by
  have hself : ∀ {id p}, planned? (base :: rest) id = some p → planned? (base :: rest) p.id = some p := by
    intro id p hp
    rwa [(aliasOf_of_planned hp).1]
  rw [Plan.tables, joins_ofCanvas, List.map_append] at h
  rcases List.mem_append.1 h with h | h
  · rw [base_ofCanvas, Option.toList_some, List.mem_singleton] at h
    subst h
    simp [planned?, findTable?, findTable?.go]
  · rcases List.mem_append.1 h with h | h
    · obtain ⟨j, hj, rfl⟩ := List.mem_map.1 h
      obtain ⟨x, -, hx⟩ := List.mem_filterMap.1 hj
      obtain ⟨t, s, o, ht, -, -, rfl⟩ := exists_of_joinAlong hx
      exact hself ht
    · obtain ⟨j, hj, rfl⟩ := List.mem_map.1 h
      obtain ⟨id, -, hid⟩ := List.mem_filterMap.1 hj
      obtain ⟨t, ht, rfl⟩ := Option.map_eq_some_iff.1 hid
      exact hself ht

/-- A table has the alias it is planned under, and no other. -/
theorem planned_inj {tables : List Table} {i k : String} {p q : PlannedTable} (hp : planned? tables i = some p)
    (hq : planned? tables k = some q) (h : p.shortName = q.shortName) : p = q := by
  obtain ⟨⟨m, t⟩, ht, rfl⟩ := Option.map_eq_some_iff.1 hp
  obtain ⟨⟨n, u⟩, hu, rfl⟩ := Option.map_eq_some_iff.1 hq
  have hplace : m = n := tableAlias_inj.1 h
  have htable : some t = some u := by
    rw [← (findTable_eq_some_iff.1 ht).1, ← (findTable_eq_some_iff.1 hu).1, hplace]
  rw [hplace, Option.some.inj htable]

theorem nodup_names_tables : ((Plan.ofCanvas (base :: rest) edges).tables.map (·.shortName)).Nodup := by
  refine List.Nodup.map_on (fun p hp q hq h => ?_) (List.Nodup.of_map _ nodup_ids_tables)
  exact planned_inj (planned_of_mem_tables hp) (planned_of_mem_tables hq) h

theorem aliasOf_of_mem_tables {t : PlannedTable} (h : t ∈ (Plan.ofCanvas (base :: rest) edges).tables) :
    aliasOf? (base :: rest) t.id = some t.shortName :=
  (aliasOf_of_planned (planned_of_mem_tables h)).2

/-- Every alias of the canvas is that of a table of the plan. -/
theorem name_mem {id a : String} (ha : aliasOf? (base :: rest) id = some a) :
    a ∈ (Plan.ofCanvas (base :: rest) edges).tables.map (·.shortName) := by
  obtain ⟨x, hx, -⟩ := Option.map_eq_some_iff.1 ha
  have hid := (isSome_findTable_iff (base :: rest) id).1 (Option.isSome_iff_exists.2 ⟨x, hx⟩)
  have hmem : id ∈ (Plan.ofCanvas (base :: rest) edges).tables.map (·.id) := mem_ids_tables hid
  obtain ⟨t, ht, rfl⟩ := List.mem_map.1 hmem
  rw [aliasOf_of_mem_tables ht] at ha
  exact Option.some.inj ha ▸ List.mem_map_of_mem ht

theorem name_mem_take {id a : String} {n : Nat}
    (hid : id ∈ ((Plan.ofCanvas (base :: rest) edges).tables.map (·.id)).take n)
    (ha : aliasOf? (base :: rest) id = some a) :
    a ∈ ((Plan.ofCanvas (base :: rest) edges).tables.map (·.shortName)).take n := by
  rw [← List.map_take] at hid ⊢
  obtain ⟨t, ht, rfl⟩ := List.mem_map.1 hid
  rw [aliasOf_of_mem_tables (List.mem_of_mem_take ht)] at ha
  exact Option.some.inj ha ▸ List.mem_map_of_mem ht

/-! ### Joins of a plan -/

/-- A join that has conditions is along the edge that was taken in its place. -/
theorem exists_taken {k : Nat} {j : PlannedJoin} (hj : (Plan.ofCanvas (base :: rest) edges).joins[k]? = some j)
    (hconditions : j.conditions ≠ []) :
    ∃ x, (reachedFrom base.id (base :: rest) edges).taken[k]? = some x ∧
      joinAlong? (base :: rest) x.1 x.2 = some j := by
  rw [joins_ofCanvas] at hj
  obtain ⟨hlength, hget⟩ := List.forall₂_iff_get.1 (forall₂_edgeJoins base rest edges)
  by_cases hk : k < (edgeJoins (base :: rest) (reachedFrom base.id (base :: rest) edges)).length
  · rw [List.getElem?_append_left hk, List.getElem?_eq_getElem hk] at hj
    have hx := hget k (hlength ▸ hk) hk
    refine ⟨_, List.getElem?_eq_getElem (hlength ▸ hk), ?_⟩
    rw [← Option.some.inj hj]
    exact hx
  · rw [List.getElem?_append_right (Nat.le_of_not_lt hk)] at hj
    exact absurd (crossJoins_edge (List.mem_of_getElem? hj)).2.2 hconditions

/-- The tables before a join are the base and those to which the edges taken before lead. -/
theorem take_ids_tables {k : Nat} (hk : k < (reachedFrom base.id (base :: rest) edges).taken.length) :
    ((Plan.ofCanvas (base :: rest) edges).tables.map (·.id)).take (k + 1) =
      base.id :: ((reachedFrom base.id (base :: rest) edges).taken.take k).map (·.2) := by
  have hlength : k + 1 ≤ (base.id :: (reachedFrom base.id (base :: rest) edges).taken.map (·.2)).length := by
    simp only [List.length_cons, List.length_map]
    omega
  rw [ids_tables, List.take_append_of_le_length hlength, List.take_succ_cons, List.map_take]

private theorem notMem_take_of_getElem? {α : Type} {l : List α} {n : Nat} {a : α} (hl : l.Nodup)
    (ha : l[n]? = some a) : a ∉ l.take n := by
  intro hbefore
  have hdrop : a ∈ l.drop n := List.mem_iff_getElem?.2 ⟨0, by simpa [List.getElem?_drop] using ha⟩
  exact List.disjoint_take_drop hl (Nat.le_refl n) hbefore hdrop

/-- What a join equates: columns of the table it brings in, and of one that stands before it. -/
theorem links_ofCanvas {k : Nat} {j : PlannedJoin} (hj : (Plan.ofCanvas (base :: rest) edges).joins[k]? = some j)
    {names : List String} (hnames : names = (Plan.ofCanvas (base :: rest) edges).tables.map (·.shortName))
    {c : Expr} (hc : c ∈ j.conditions) :
    ∃ a b x y, c = .binary .eq (.column (some a) x) (.column (some b) y) ∧ a ≠ b ∧
      ((names[k + 1]? = some a ∧ b ∈ names.take (k + 1)) ∨ (names[k + 1]? = some b ∧ a ∈ names.take (k + 1))) := by
  have hnodup : names.Nodup := hnames ▸ nodup_names_tables
  have hown : names[k + 1]? = some j.table.shortName := by
    rw [hnames, Plan.tables, base_ofCanvas]
    simp [hj]
  obtain ⟨x, hx, hjoin⟩ := exists_taken hj (List.ne_nil_of_mem hc)
  obtain ⟨t, s, o, ht, hs, ho, rfl⟩ := exists_of_joinAlong hjoin
  obtain ⟨p, -, rfl⟩ := List.mem_map.1 hc
  have hbefore : ∀ {id q}, planned? (base :: rest) id = some q →
      id ∈ base.id :: ((reachedFrom base.id (base :: rest) edges).taken.take k).map (·.2) →
        q.shortName ∈ names.take (k + 1) := by
    intro id q hq hid
    rw [← take_ids_tables (List.getElem?_eq_some_iff.1 hx).1] at hid
    exact hnames ▸ name_mem_take hid (aliasOf_of_planned hq).2
  refine ⟨s.shortName, o.shortName, p.fromColumn, p.toColumn, rfl, ?_⟩
  -- one end of the edge is the table that is brought in, and the other stands before it
  obtain ⟨-, ⟨htarget, hsource⟩ | ⟨htarget, hsource⟩⟩ :=
    (reachedFrom_kept base.id (base :: rest) edges).grown.leads hx
  · have hto : t = o := by
      rw [htarget, ho] at ht
      exact (Option.some.inj ht).symm
    subst hto
    have hfrom := hbefore hs hsource
    exact ⟨fun heq => notMem_take_of_getElem? hnodup hown (heq ▸ hfrom), Or.inr ⟨hown, hfrom⟩⟩
  · have hfrom : t = s := by
      rw [htarget, hs] at ht
      exact (Option.some.inj ht).symm
    subst hfrom
    have hto := hbefore ho hsource
    exact ⟨fun heq => notMem_take_of_getElem? hnodup hown (heq ▸ hto), Or.inl ⟨hown, hto⟩⟩

/-! ### What a query uses -/

theorem exprAliases_map_listMember (items : List Json.Value) : exprAliases (items.map listMember) = [] := by
  induction items with
  | nil => rfl
  | cons v rest ih =>
    rw [List.map_cons, exprAliases, ih, List.append_nil]
    cases v <;> rfl

theorem exprAliases_listMembers (v : Json.Value) : exprAliases (listMembers v) = [] := by
  cases v with
  | array items => exact exprAliases_map_listMember items
  | _ => exact exprAliases_map_listMember [_]

/-- A condition that can be written tests its column for null, looks it up in a list, or compares it with its value. -/
theorem expr_cases {c : Condition} {column e : Expr} (h : c.expr? column = some e) :
    (∃ negated, e = .isNull column negated) ∨ e = .isIn column (listMembers c.value) ∨
      ∃ o, e = .binary o column (.literal c.value) := by
  unfold Condition.expr? at h
  split at h
  · exact Or.inl ⟨false, (Option.some.inj h).symm⟩
  · exact Or.inl ⟨true, (Option.some.inj h).symm⟩
  · split at h
    · simp at h
    · exact Or.inr (Or.inl (Option.some.inj h).symm)
  · obtain ⟨o, -, rfl⟩ := Option.map_eq_some_iff.1 h
    exact Or.inr (Or.inr ⟨o, rfl⟩)

theorem aliases_condition {c : Condition} {name : String} {e : Expr}
    (h : c.expr? (.column (some name) c.column) = some e) : e.aliases = [name] := by
  rcases expr_cases h with ⟨negated, rfl⟩ | rfl | ⟨o, rfl⟩
  · rfl
  · rw [Expr.aliases, exprAliases_listMembers]
    rfl
  · rfl

theorem aliases_item (s : Selection) (name : String) : (s.item name).expr.aliases = [name] := by
  unfold Selection.item
  split <;> rfl

theorem exists_of_mem_selectItems {tables : List Table} {i : Item} (h : i ∈ selectItems tables) :
    ∃ id name, aliasOf? tables id = some name ∧ i.expr.aliases = [name] := by
  obtain ⟨t, -, hi⟩ := List.mem_flatMap.1 h
  split at hi
  · next name hname =>
    obtain ⟨s, -, rfl⟩ := List.mem_map.1 hi
    exact ⟨t.id, name, hname, aliases_item s name⟩
  · simp at hi

theorem exists_of_mem_filterExprs {tables : List Table} {cs : List Condition} {e : Expr}
    (h : e ∈ filterExprs tables cs) :
    ∃ (c : Condition) (name : String),
      aliasOf? tables c.table = some name ∧ c.expr? (.column (some name) c.column) = some e := by
  obtain ⟨c, -, hc⟩ := List.mem_filterMap.1 h
  obtain ⟨name, hname, he⟩ := Option.bind_eq_some_iff.1 hc
  exact ⟨c, name, hname, he⟩

/-- In the query of a canvas the sources have different aliases, all aliases that are used are among these, and each
join equates columns of its own table with columns of a table that stands before it. -/
theorem query_scoped {m : Model} (hmanual : m.filters.manual? = none) (htables : m.tables ≠ []) :
    ∃ q c names, m.query? = some q ∧ m.compile? = some c ∧ c.sql = q.text ∧ q.Scoped names := by
  obtain ⟨base, rest, hcanvas⟩ := List.exists_cons_of_ne_nil htables
  obtain ⟨q, hq, hitems, hsource, hjoins, hfilters, -⟩ := exists_query hcanvas
  refine ⟨q, _, (Plan.ofCanvas (base :: rest) m.edges).tables.map (·.shortName), hq, compile_eq_of_query hmanual hq,
    rfl, ?_⟩
  constructor
  · rw [hsource, hjoins, Plan.tables, base_ofCanvas]
    simp [PlannedTable.source, PlannedJoin.join]
  · exact nodup_names_tables
  · intro i hi a ha
    obtain ⟨id, name, hname, hi⟩ := exists_of_mem_selectItems (hitems ▸ hi)
    rw [hi, List.mem_singleton] at ha
    exact ha ▸ name_mem hname
  · intro e he a ha
    obtain ⟨c, name, hname, he⟩ := exists_of_mem_filterExprs (hfilters ▸ he)
    rw [aliases_condition he, List.mem_singleton] at ha
    exact ha ▸ name_mem hname
  · intro k j hj c hc
    rw [hjoins, List.getElem?_map] at hj
    obtain ⟨planned, hplanned, rfl⟩ := Option.map_eq_some_iff.1 hj
    exact links_ofCanvas hplanned rfl hc

/-- A canvas with a repeated identifier, a cycle whose first edge has to wait, and a table that no edge reaches. -/
def ringModel : Model where
  id := "ring"
  tables :=
    [{ id := "a", name := "orders", selections := [⟨"amount", .sum, none, false⟩] }, { id := "b", name := "lines" },
      { id := "b", name := "lines_old" }, { id := "c", name := "parts" }, { id := "d", name := "rates" }]
  edges :=
    [{ id := "e1", fromTable := "c", toTable := "b" }, { id := "e2", fromTable := "b", toTable := "a" },
      { id := "e3", fromTable := "a", toTable := "c" }]
  filters := .conditions [⟨"c", "state", .isNull, .null⟩]

theorem query_scoped_ring : ringModel.filters.manual? = none ∧ ringModel.tables ≠ [] ∧
    ∃ q c names, ringModel.query? = some q ∧ ringModel.compile? = some c ∧ c.sql = q.text ∧ q.Scoped names :=
  ⟨rfl, by simp [ringModel], query_scoped rfl (by simp [ringModel])⟩

end JoinCanvas
