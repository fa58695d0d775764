import JoinCanvas.Compile

/-!
# What a plan reads of an edge

A plan reads the identifier, the ends and the join type of an edge, and the pairs that its key equates.  The
cardinality does not matter, nor does it matter how the key holds its pairs.

* `ofCanvas_bare`: a plan of the bare edges is a plan of the edges.
* `compile_of_bare`: models whose edges are bare alike compile alike.
-/

namespace JoinCanvas

/-- The edge with what a plan reads of it. -/
def Edge.bare (e : Edge) : Edge :=
  { e with cardinality := .oneToMany, key := .composite e.key.pairs }

theorem Edge.pairs_bare (e : Edge) : e.bare.key.pairs = e.key.pairs := by
  obtain ⟨p, ps, hps⟩ := List.exists_cons_of_ne_nil e.key.pairs_ne_nil
  rw [bare, hps]
  rfl

namespace Progress

/-- The progress of the same passes over bare edges. -/
def bare (p : Progress) : Progress where
  joined := p.joined
  remaining := p.remaining.map Edge.bare
  taken := p.taken.map fun x => (x.1.bare, x.2)
  redundant := p.redundant.map Edge.bare

theorem step_bare (p : Progress) (e : Edge) : p.bare.step e.bare = (p.step e).bare := by
  by_cases hfrom : e.fromTable ∈ p.joined <;> by_cases hto : e.toTable ∈ p.joined <;>
    simp [step, bare, Edge.bare, hfrom, hto]

theorem foldl_step_bare (es : List Edge) (p : Progress) :
    (es.map Edge.bare).foldl step p.bare = (es.foldl step p).bare := by
  induction es generalizing p with
  | nil => rfl
  | cons e rest ih => rw [List.map_cons, List.foldl_cons, List.foldl_cons, step_bare, ih]

theorem pass_bare (p : Progress) : p.bare.pass = p.pass.bare :=
  foldl_step_bare p.remaining { p with remaining := [] }

theorem settle_bare (p : Progress) : p.bare.settle = p.settle.bare := by
  have hlength : ∀ q : Progress, q.bare.remaining.length = q.remaining.length := fun q => List.length_map ..
  induction p using settle.induct with
  | case1 p hlt ih =>
    have hbare : p.bare.pass.remaining.length < p.bare.remaining.length := by
      rwa [pass_bare, hlength, hlength]
    rw [settle, if_pos hbare, pass_bare, ih, settle.eq_def p, if_pos hlt]
  | case2 p hlt =>
    have hbare : ¬ p.bare.pass.remaining.length < p.bare.remaining.length := by
      rwa [pass_bare, hlength, hlength]
    rw [settle, if_neg hbare, pass_bare, settle.eq_def p, if_neg hlt]

end Progress

theorem joinAlong_bare (tables : List Table) (e : Edge) (target : String) :
    joinAlong? tables e.bare target = joinAlong? tables e target := by
  simp only [joinAlong?, onConditions, Edge.pairs_bare]
  rfl

/-- A plan of the bare edges is a plan of the edges. -/
theorem ofCanvas_bare (tables : List Table) (edges : List Edge) :
    Plan.ofCanvas tables (edges.map Edge.bare) = Plan.ofCanvas tables edges := by
  cases tables with
  | nil => rfl
  | cons base rest =>
    have hmissing : ∀ e : Edge, missingEnd? (base :: rest) e.bare = missingEnd? (base :: rest) e := fun _ => rfl
    have hstart : ∀ es : List Edge, Progress.settle ⟨[base.id], es.map Edge.bare, [], []⟩ =
        (Progress.settle ⟨[base.id], es, [], []⟩).bare := fun es => Progress.settle_bare ⟨[base.id], es, [], []⟩
    simp only [Plan.ofCanvas, List.filterMap_map, List.filter_map, Function.comp_def, hmissing, hstart]
    simp only [Progress.bare, List.filterMap_map, List.map_map, Function.comp_def, joinAlong_bare]
    rfl

/-- Models whose edges are bare alike compile alike. -/
theorem compile_of_bare (m : Model) {edges : List Edge} (h : edges.map Edge.bare = m.edges.map Edge.bare) :
    { m with edges }.compile? = m.compile? := by
  have hplan : Plan.ofCanvas m.tables edges = Plan.ofCanvas m.tables m.edges := by
    rw [← ofCanvas_bare m.tables edges, h, ofCanvas_bare]
  simp only [Model.compile?, Model.query?, hplan]

end JoinCanvas
