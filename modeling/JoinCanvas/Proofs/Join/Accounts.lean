import JoinCanvas.Proofs.Join.Coverage
import Mathlib.Data.List.Perm.Basic
import Mathlib.Data.List.Sigma
import Mathlib.Data.Set.Card

/-!
# What becomes of every edge

A plan accounts for every edge of the canvas, also when several edges are equal: an edge is told from the others by
its position.  An edge with a missing end is dangling; of the others, those with joined ends are joined along or
redundant.

* `Progress.Counted.settle`: the passes neither lose an edge nor count one twice.
* `Progress.ncard_reachable`: one edge is taken for every table that is reached, but the base.
* `exists_numbered`: every edge on the canvas is left by the passes at its position.
* `ofCanvas_accounts`: the joins and the warnings of a plan, edge by edge.
-/

namespace JoinCanvas

open JoinCanvas.Sql

namespace Progress

/-- The edges are those taken, redundant and waiting, each as often as it occurs; a redundant edge has both ends
joined. -/
structure Counted (es : List Edge) (p : Progress) : Prop where
  perm : (p.taken.map (·.1) ++ p.redundant ++ p.remaining).Perm es
  ends_mem : ∀ e ∈ p.redundant, e.fromTable ∈ p.joined ∧ e.toTable ∈ p.joined

variable {base : String} {es : List Edge}

theorem Counted.start (base : String) (es : List Edge) : Counted es ⟨[base], es, [], []⟩ :=
  ⟨List.Perm.refl _, by simp⟩

/-- An edge that is taken is one of those that waited, and the joined tables only grow. -/
private theorem Counted.take {p : Progress} {e : Edge} {rest : List Edge} {target : String}
    (h : Counted es (p.waiting (e :: rest))) :
    Counted es (waiting { p with joined := target :: p.joined, taken := p.taken ++ [(e, target)] } rest) := by
  obtain ⟨perm, ends_mem⟩ := h
  simp only [waiting] at perm ends_mem
  refine ⟨?_, fun f hf => ?_⟩
  · refine List.Perm.trans ?_ perm
    rw [List.perm_iff_count]
    intro f
    simp only [waiting, List.map_append, List.map_cons, List.map_nil, List.count_append, List.count_cons,
      List.count_nil]
    omega
  · have hends := ends_mem f hf
    exact ⟨List.mem_cons_of_mem _ hends.1, List.mem_cons_of_mem _ hends.2⟩

/-- A step takes the edge it looks at, finds it redundant, or lets it wait at the end. -/
theorem Counted.step {p : Progress} {e : Edge} {rest : List Edge} (h : Counted es (p.waiting (e :: rest))) :
    Counted es ((p.step e).waiting rest) := by
  rcases p.step_cases e with ⟨hfrom, hto, hs⟩ | ⟨hfrom, hto, hs⟩ | ⟨hfrom, hto, hs⟩ | ⟨hfrom, hto, hs⟩
  · rw [hs]
    obtain ⟨perm, ends_mem⟩ := h
    simp only [waiting] at perm ends_mem
    refine ⟨?_, fun f hf => ?_⟩
    · refine List.Perm.trans ?_ perm
      rw [List.perm_iff_count]
      intro f
      simp only [waiting, List.count_append, List.count_cons, List.count_nil]
      omega
    · rcases List.mem_append.1 hf with hf | hf
      · exact ends_mem f hf
      · rw [List.mem_singleton.1 hf]
        exact ⟨hfrom, hto⟩
  · rw [hs]
    exact h.take
  · rw [hs]
    exact h.take
  · have hw : (p.step e).waiting rest = p.waiting (e :: rest) := by simp [hs, waiting]
    rw [hw]
    exact h

theorem Counted.settle {p : Progress} (h : Counted es p) : Counted es p.settle :=
  settle_keeps (fun _ _ _ => Counted.step) h

/-- One edge is taken for every table that is reached, but the base. -/
theorem ncard_reachable (base : String) (es : List Edge) :
    {id | Reachable es base id}.ncard = (settle ⟨[base], es, [], []⟩).taken.length + 1 := by
  have hgrown := (Kept.start base es).settle.grown
  have hset : {id | Reachable es base id} = ((settle ⟨[base], es, [], []⟩).joined.toFinset : Set String) := by
    ext id
    rw [List.coe_toFinset, Set.mem_ofPred_eq, Set.mem_ofPred_eq, mem_joined_settle_iff]
  have hlength := congrArg List.length hgrown.joined_eq
  simp only [List.length_reverse, List.length_cons, List.length_map] at hlength
  rw [hset, Set.ncard_coe_finset, List.toFinset_card_of_nodup hgrown.nodup, hlength]

end Progress

/-- A list that is a permutation of what a function makes of another is made of a permutation of that one. -/
theorem exists_perm_of_perm_map {α β : Type} {f : α → β} {l : List β} {xs : List α} (h : l.Perm (xs.map f)) :
    ∃ ys : List α, ys.Perm xs ∧ ys.map f = l := by
  have hf : List.Forall₂ (fun b a => f a = b) (xs.map f) xs := by
    rw [List.forall₂_map_left_iff]
    exact List.forall₂_same.2 fun _ _ => rfl
  obtain ⟨ys, hl, hperm⟩ := List.perm_comp_forall₂ h hf
  refine ⟨ys, hperm, ?_⟩
  clear h hf hperm
  induction hl with
  | nil => rfl
  | cons hab _ ih => rw [List.map_cons, hab, ih]

/-- The edges with both ends on the canvas, with their positions among all edges. -/
def numberedOn (tables : List Table) (edges : List Edge) : List (Edge × Nat) :=
  edges.zipIdx.filter fun x => x.1.fromTable ∈ tables.map (·.id) ∧ x.1.toTable ∈ tables.map (·.id)

theorem map_numberedOn (tables : List Table) (edges : List Edge) :
    (numberedOn tables edges).map (·.1) = edgesOn tables edges := by
  have hedges : edges.zipIdx.map (·.1) = edges := List.zipIdx_map_fst 0 edges
  conv_rhs => rw [edgesOn, ← hedges, List.filter_map]
  rfl

theorem mem_numberedOn {tables : List Table} {edges : List Edge} {x : Edge × Nat} :
    x ∈ numberedOn tables edges ↔ x ∈ edges.zipIdx ∧
      x.1.fromTable ∈ tables.map (·.id) ∧ x.1.toTable ∈ tables.map (·.id) := by
  simp [numberedOn]

theorem nodup_numberedOn (tables : List Table) (edges : List Edge) : (numberedOn tables edges).Nodup :=
  (List.nodup_zipIdx_map_snd edges).of_map.filter _

/-- The warning that an edge with a missing end gives: it names the first end that is missing, `from` before `to`. -/
def danglingWarning? (tables : List Table) (e : Edge) : Option Warning :=
  if e.fromTable ∉ tables.map (·.id) then some (.danglingEdge e.id e.fromTable)
  else if e.toTable ∉ tables.map (·.id) then some (.danglingEdge e.id e.toTable)
  else none

theorem map_missingEnd (tables : List Table) (e : Edge) :
    (missingEnd? tables e).map (Warning.danglingEdge e.id ·) = danglingWarning? tables e := by
  have hany : ∀ id, (!tables.any (·.id = id)) = decide (id ∉ tables.map (·.id)) := by
    intro id
    rw [Bool.eq_iff_iff]
    simp
  unfold missingEnd? danglingWarning?
  simp only [hany, List.find?_cons, List.find?_nil]
  by_cases hfrom : e.fromTable ∈ tables.map (·.id) <;> by_cases hto : e.toTable ∈ tables.map (·.id) <;>
    simp only [hfrom, hto, not_true_eq_false, not_false_eq_true, decide_true, decide_false, if_true, if_false,
      Option.map_some, Option.map_none]

theorem danglingWarning_eq_none_iff (tables : List Table) (e : Edge) :
    danglingWarning? tables e = none ↔ e.fromTable ∈ tables.map (·.id) ∧ e.toTable ∈ tables.map (·.id) := by
  rw [← map_missingEnd, Option.map_eq_none_iff, missingEnd_eq_none_iff]

theorem warnings_ofCanvas (base : Table) (rest : List Table) (edges : List Edge) :
    (Plan.ofCanvas (base :: rest) edges).warnings =
      edges.filterMap (danglingWarning? (base :: rest)) ++
        (reachedFrom base.id (base :: rest) edges).redundant.map (fun e => .redundantEdge e.id) ++
          (Plan.ofCanvas (base :: rest) edges).unjoined.map .crossJoinedTable := by
  have hdangling : danglingWarning? (base :: rest) =
      fun e => (missingEnd? (base :: rest) e).map (Warning.danglingEdge e.id ·) :=
    funext fun e => (map_missingEnd (base :: rest) e).symm
  rw [unjoined_ofCanvas, hdangling]
  simp only [Plan.ofCanvas, filter_missingEnd]
  rfl

/-- A join along an edge: it has the identifier and the type of the edge, brings in one of its ends, and equates the
pairs of its key in order, the column of the `from` table on the left and that of the `to` table on the right. -/
structure JoinsAlong (tables : List Table) (e : Edge) (j : PlannedJoin) : Prop where
  edge : j.edge? = some e.id
  kind : j.kind = .along e.joinType
  table : j.table.id = e.fromTable ∨ j.table.id = e.toTable
  conditions : ∃ a b, aliasOf? tables e.fromTable = some a ∧ aliasOf? tables e.toTable = some b ∧
    j.conditions = e.key.pairs.map fun p =>
      .binary .eq (.column (some a) p.fromColumn) (.column (some b) p.toColumn)

/-- Whether the edges of a canvas reach a table from the base. -/
def Reached (base : Table) (rest : List Table) (edges : List Edge) (id : String) : Prop :=
  Reachable (edgesOn (base :: rest) edges) base.id id

/-- What becomes of the edges of a canvas, each with its position.  The edges that can be joined along are those with
reached ends on the canvas: each of them is used once or redundant once.  Nothing comes of the others, unless they
dangle. -/
structure EdgeAccounts (base : Table) (rest : List Table) (edges : List Edge) (used redundant : List (Edge × Nat)) :
    Prop where
  nodup : (used ++ redundant).Nodup
  mem_iff : ∀ x, x ∈ used ++ redundant ↔ x ∈ edges.zipIdx ∧ danglingWarning? (base :: rest) x.1 = none ∧
    Reached base rest edges x.1.fromTable ∧ Reached base rest edges x.1.toTable
  unreached : ∀ x ∈ edges.zipIdx, danglingWarning? (base :: rest) x.1 = none → x ∉ used ++ redundant →
    ¬ Reached base rest edges x.1.fromTable ∧ ¬ Reached base rest edges x.1.toTable
  joins : ∃ along crosses, (Plan.ofCanvas (base :: rest) edges).joins = along ++ crosses ∧
    List.Forall₂ (fun x j => JoinsAlong (base :: rest) x.1 j) used along ∧ ∀ j ∈ crosses, j.edge? = none
  warnings : (Plan.ofCanvas (base :: rest) edges).warnings =
    edges.filterMap (danglingWarning? (base :: rest)) ++ redundant.map (fun x => .redundantEdge x.1.id) ++
      (Plan.ofCanvas (base :: rest) edges).unjoined.map .crossJoinedTable
  spanning : ∀ id, Reachable (used.map (·.1)) base.id id ↔ Reached base rest edges id
  ncard : {id | Reached base rest edges id}.ncard = used.length + 1

variable {base : Table} {rest : List Table} {edges : List Edge}

theorem joinsAlong_of_taken {x : Edge × String} {j : PlannedJoin}
    (hx : x ∈ (reachedFrom base.id (base :: rest) edges).taken) (hj : joinAlong? (base :: rest) x.1 x.2 = some j) :
    JoinsAlong (base :: rest) x.1 j := by
  obtain ⟨t, s, o, ht, hs, ho, rfl⟩ := exists_of_joinAlong hj
  have htarget : x.2 = x.1.fromTable ∨ x.2 = x.1.toTable := by
    obtain ⟨k, hk⟩ := List.mem_iff_getElem?.1 hx
    obtain ⟨-, ⟨hto, -⟩ | ⟨hfrom, -⟩⟩ := (reachedFrom_kept base.id (base :: rest) edges).grown.leads hk
    · exact Or.inr hto
    · exact Or.inl hfrom
  exact {
    edge := rfl
    kind := rfl
    table := (aliasOf_of_planned ht).1.symm ▸ htarget
    conditions := ⟨s.shortName, o.shortName, (aliasOf_of_planned hs).2, (aliasOf_of_planned ho).2, rfl⟩ }

theorem forall₂_joinsAlong {used : List (Edge × Nat)}
    (h : used.map (·.1) = (reachedFrom base.id (base :: rest) edges).taken.map (·.1)) :
    List.Forall₂ (fun x j => JoinsAlong (base :: rest) x.1 j) used
      (edgeJoins (base :: rest) (reachedFrom base.id (base :: rest) edges)) := by
  have htaken := (List.forall₂_and_left (p := (· ∈ (reachedFrom base.id (base :: rest) edges).taken)) _ _).2
    ⟨fun _ hx => hx, forall₂_edgeJoins base rest edges⟩
  have hjoins := htaken.imp (S := fun x j => JoinsAlong (base :: rest) x.1 j) fun _ _ hx =>
    joinsAlong_of_taken hx.1 hx.2
  have hedges := List.forall₂_map_left_iff.2 hjoins
  rw [← h] at hedges
  exact List.forall₂_map_left_iff.1 hedges

/-- The edges on the canvas with their positions, apart by what the passes leave of them. -/
structure Numbered (base : Table) (rest : List Table) (edges : List Edge) (used redundant waiting : List (Edge × Nat)) :
    Prop where
  perm : ((used ++ redundant) ++ waiting).Perm (numberedOn (base :: rest) edges)
  used : used.map (·.1) = (reachedFrom base.id (base :: rest) edges).taken.map (·.1)
  redundant : redundant.map (·.1) = (reachedFrom base.id (base :: rest) edges).redundant
  waiting : waiting.map (·.1) = (reachedFrom base.id (base :: rest) edges).remaining

theorem counted_reachedFrom (base : Table) (rest : List Table) (edges : List Edge) :
    Progress.Counted (edgesOn (base :: rest) edges) (reachedFrom base.id (base :: rest) edges) :=
  (Progress.Counted.start base.id _).settle

theorem mem_joined_reachedFrom_iff (base : Table) (rest : List Table) (edges : List Edge) (id : String) :
    id ∈ (reachedFrom base.id (base :: rest) edges).joined ↔ Reached base rest edges id :=
  Progress.mem_joined_settle_iff base.id _ id

/-- The passes leave the edges on the canvas in another order, so each that they leave has a position. -/
theorem exists_numbered (base : Table) (rest : List Table) (edges : List Edge) :
    ∃ used redundant waiting, Numbered base rest edges used redundant waiting := by
  have hperm := (counted_reachedFrom base rest edges).perm
  rw [← map_numberedOn] at hperm
  obtain ⟨numbered, hnumbered, hmap⟩ := exists_perm_of_perm_map hperm
  obtain ⟨known, waiting, rfl, hknown, hwaiting⟩ := List.map_eq_append_iff.1 hmap
  obtain ⟨used, redundant, rfl, hused, hredundant⟩ := List.map_eq_append_iff.1 hknown
  exact ⟨used, redundant, waiting, hnumbered, hused, hredundant, hwaiting⟩

namespace Numbered

variable {used redundant waiting : List (Edge × Nat)}

theorem nodup (h : Numbered base rest edges used redundant waiting) : ((used ++ redundant) ++ waiting).Nodup :=
  h.perm.nodup_iff.2 (nodup_numberedOn (base :: rest) edges)

theorem mem_iff (h : Numbered base rest edges used redundant waiting) (x : Edge × Nat) :
    x ∈ (used ++ redundant) ++ waiting ↔ x ∈ edges.zipIdx ∧ danglingWarning? (base :: rest) x.1 = none := by
  rw [h.perm.mem_iff, mem_numberedOn, danglingWarning_eq_none_iff]

theorem reached (h : Numbered base rest edges used redundant waiting) {x : Edge × Nat} (hx : x ∈ used ++ redundant) :
    Reached base rest edges x.1.fromTable ∧ Reached base rest edges x.1.toTable := by
  rw [← mem_joined_reachedFrom_iff, ← mem_joined_reachedFrom_iff]
  rcases List.mem_append.1 hx with hx | hx
  · obtain ⟨y, hy, hxy⟩ := List.mem_map.1 (h.used ▸ List.mem_map_of_mem hx)
    exact hxy ▸ (reachedFrom_kept base.id (base :: rest) edges).grown.ends_mem hy
  · exact (counted_reachedFrom base rest edges).ends_mem x.1 (h.redundant ▸ List.mem_map_of_mem hx)

theorem unreached (h : Numbered base rest edges used redundant waiting) {x : Edge × Nat} (hx : x ∈ waiting) :
    ¬ Reached base rest edges x.1.fromTable ∧ ¬ Reached base rest edges x.1.toTable := by
  rw [← mem_joined_reachedFrom_iff, ← mem_joined_reachedFrom_iff]
  exact Progress.settled _ x.1 (h.waiting ▸ List.mem_map_of_mem hx)

/-- Along the used edges the base reaches what it reaches along all. -/
theorem spanning (h : Numbered base rest edges used redundant waiting) (id : String) :
    Reachable (used.map (·.1)) base.id id ↔ Reached base rest edges id := by
  rw [h.used]
  constructor
  · intro hr
    refine hr.mono fun e he => ?_
    exact (counted_reachedFrom base rest edges).perm.mem_iff.1
      (List.mem_append_left _ (List.mem_append_left _ he))
  · intro hid
    exact (reachedFrom_kept base.id (base :: rest) edges).grown.reachable
      ((mem_joined_reachedFrom_iff base rest edges id).2 hid)

theorem length_used (h : Numbered base rest edges used redundant waiting) :
    used.length = (reachedFrom base.id (base :: rest) edges).taken.length := by
  have hlength := congrArg List.length h.used
  rwa [List.length_map, List.length_map] at hlength

end Numbered

/-- A plan accounts for every edge, by its position, in one way.  A missing end gives a warning that names the first
one, in the order of the edges.  An edge with both ends on the canvas is used for one join, is redundant with one
warning, or has no end that the base reaches.  The used edges span the reached tables and are one less than these. -/
theorem ofCanvas_accounts (base : Table) (rest : List Table) (edges : List Edge) :
    ∃ used redundant : List (Edge × Nat), EdgeAccounts base rest edges used redundant := by
  obtain ⟨used, redundant, waiting, hn⟩ := exists_numbered base rest edges
  refine ⟨used, redundant, ?_⟩
  constructor
  · exact hn.nodup.of_append_left
  · intro x
    constructor
    · intro hx
      obtain ⟨hedge, hwarning⟩ := (hn.mem_iff x).1 (List.mem_append_left _ hx)
      exact ⟨hedge, hwarning, hn.reached hx⟩
    · rintro ⟨hedge, hwarning, hfrom, -⟩
      rcases List.mem_append.1 ((hn.mem_iff x).2 ⟨hedge, hwarning⟩) with hx | hx
      · exact hx
      · exact absurd hfrom (hn.unreached hx).1
  · intro x hedge hwarning hnot
    rcases List.mem_append.1 ((hn.mem_iff x).2 ⟨hedge, hwarning⟩) with hx | hx
    · exact absurd hx hnot
    · exact hn.unreached hx
  · exact ⟨_, _, joins_ofCanvas base rest edges, forall₂_joinsAlong hn.used, fun j hj => (crossJoins_edge hj).1⟩
  · rw [warnings_ofCanvas, ← hn.redundant, List.map_map]
    rfl
  · exact hn.spanning
  · rw [hn.length_used]
    exact Progress.ncard_reachable base.id _

end JoinCanvas
