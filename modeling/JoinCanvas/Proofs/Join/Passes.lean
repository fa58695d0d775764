import JoinCanvas.Join.Plan
import Mathlib.Logic.Function.Iterate
import Mathlib.Logic.Relation

/-!
# What the passes over the edges reach

The passes grow the joined tables from one table, an edge at a time (`Grown`).  When a pass takes no edge, every edge
has both of its ends joined or neither, so nothing that the edges reach from the base is left out.

* `Grown.reachable`: a joined table is reachable along the edges that were taken.
* `Grown.leads`: each edge that was taken leads from a table joined before it to a new one.
* `Progress.settle_keeps`: the passes keep what each step keeps.
* `mem_joined_settle_iff`: the joined tables are those that the edges reach from the base.
* `exists_settle_eq_iterate`: there is at most one pass more than there are edges.
-/

namespace JoinCanvas

/-- Two tables are linked when an edge leads from one to the other, in either direction. -/
def Linked (es : List Edge) (a b : String) : Prop :=
  ∃ e ∈ es, (e.fromTable = a ∧ e.toTable = b) ∨ (e.fromTable = b ∧ e.toTable = a)

/-- A table can be reached from another along edges, in either direction. -/
def Reachable (es : List Edge) : String → String → Prop :=
  Relation.ReflTransGen (Linked es)

theorem Linked.mono {es fs : List Edge} (h : ∀ e ∈ es, e ∈ fs) {a b : String} (hl : Linked es a b) :
    Linked fs a b := by
  obtain ⟨e, he, hab⟩ := hl
  exact ⟨e, h e he, hab⟩

theorem Reachable.mono {es fs : List Edge} (h : ∀ e ∈ es, e ∈ fs) {a b : String} (hr : Reachable es a b) :
    Reachable fs a b :=
  Relation.ReflTransGen.mono (fun _ _ hl => Linked.mono h hl) _ _ hr

/-- The joined tables, latest first, and the edges they were joined along, in order: each edge leads from a joined
table to a new one. -/
inductive Grown (base : String) : List String → List (Edge × String) → Prop
  | start : Grown base [base] []
  | forward {joined : List String} {taken : List (Edge × String)} (e : Edge) (h : Grown base joined taken)
      (hfrom : e.fromTable ∈ joined) (hto : e.toTable ∉ joined) :
      Grown base (e.toTable :: joined) (taken ++ [(e, e.toTable)])
  | backward {joined : List String} {taken : List (Edge × String)} (e : Edge) (h : Grown base joined taken)
      (hfrom : e.fromTable ∉ joined) (hto : e.toTable ∈ joined) :
      Grown base (e.fromTable :: joined) (taken ++ [(e, e.fromTable)])

namespace Grown

variable {base : String} {joined : List String} {taken : List (Edge × String)}

theorem nodup (h : Grown base joined taken) : joined.Nodup := by
  induction h with
  | start => simp
  | forward e _ _ hto ih => exact List.nodup_cons.2 ⟨hto, ih⟩
  | backward e _ hfrom _ ih => exact List.nodup_cons.2 ⟨hfrom, ih⟩

/-- The base table comes first, and the others in the order in which the edges were taken. -/
theorem joined_eq (h : Grown base joined taken) : joined.reverse = base :: taken.map (·.2) := by
  induction h with
  | start => rfl
  | forward e _ _ _ ih => simp [ih]
  | backward e _ _ _ ih => simp [ih]

theorem mem_joined_iff (h : Grown base joined taken) {id : String} :
    id ∈ joined ↔ id ∈ base :: taken.map (·.2) := by
  rw [← h.joined_eq, List.mem_reverse]

theorem base_mem (h : Grown base joined taken) : base ∈ joined := by
  rw [← List.mem_reverse, h.joined_eq]
  exact List.mem_cons_self ..

/-- A joined table is reachable along the edges that were taken. -/
theorem reachable (h : Grown base joined taken) {id : String} (hid : id ∈ joined) :
    Reachable (taken.map (·.1)) base id := by
  induction h generalizing id with
  | start =>
    rw [List.mem_singleton.1 hid]
    exact Relation.ReflTransGen.refl
  | @forward joined taken e h hfrom hto ih =>
    have hmono : ∀ f ∈ taken.map (·.1), f ∈ (taken ++ [(e, e.toTable)]).map (·.1) := by simp_all
    rcases List.mem_cons.1 hid with rfl | hid
    · exact ((ih hfrom).mono hmono).tail ⟨e, by simp, Or.inl ⟨rfl, rfl⟩⟩
    · exact (ih hid).mono hmono
  | @backward joined taken e h hfrom hto ih =>
    have hmono : ∀ f ∈ taken.map (·.1), f ∈ (taken ++ [(e, e.fromTable)]).map (·.1) := by simp_all
    rcases List.mem_cons.1 hid with rfl | hid
    · exact ((ih hto).mono hmono).tail ⟨e, by simp, Or.inr ⟨rfl, rfl⟩⟩
    · exact (ih hid).mono hmono

/-- A member of a list with one more at its end stands in the list itself, or is the last. -/
private theorem getElem?_concat {α : Type} {l : List α} {a b : α} {k : Nat} (h : (l ++ [a])[k]? = some b) :
    (l[k]? = some b ∧ (l ++ [a]).take k = l.take k) ∨ (b = a ∧ (l ++ [a]).take k = l) := by
  by_cases hk : k < l.length
  · rw [List.getElem?_append_left hk] at h
    exact Or.inl ⟨h, List.take_append_of_le_length (Nat.le_of_lt hk)⟩
  · have hlast : k = l.length := by
      have hlt := (List.getElem?_eq_some_iff.1 h).1
      simp only [List.length_append, List.length_singleton] at hlt
      omega
    subst hlast
    exact Or.inr ⟨by simpa using h.symm, List.take_left⟩

/-- Each edge that was taken leads to a new table, from the base or from a table that was joined before. -/
theorem leads (h : Grown base joined taken) {k : Nat} {x : Edge × String} (hx : taken[k]? = some x) :
    x.2 ∉ base :: (taken.take k).map (·.2) ∧
      ((x.2 = x.1.toTable ∧ x.1.fromTable ∈ base :: (taken.take k).map (·.2)) ∨
        (x.2 = x.1.fromTable ∧ x.1.toTable ∈ base :: (taken.take k).map (·.2))) := by
  induction h with
  | start => simp at hx
  | forward e h hfrom hto ih =>
    rcases getElem?_concat hx with ⟨hx, htake⟩ | ⟨rfl, htake⟩
    · rw [htake]
      exact ih hx
    · rw [htake]
      exact ⟨fun hm => hto (h.mem_joined_iff.2 hm), Or.inl ⟨rfl, h.mem_joined_iff.1 hfrom⟩⟩
  | backward e h hfrom hto ih =>
    rcases getElem?_concat hx with ⟨hx, htake⟩ | ⟨rfl, htake⟩
    · rw [htake]
      exact ih hx
    · rw [htake]
      exact ⟨fun hm => hfrom (h.mem_joined_iff.2 hm), Or.inr ⟨rfl, h.mem_joined_iff.1 hto⟩⟩

/-- Both ends of an edge that was taken are joined. -/
theorem ends_mem (h : Grown base joined taken) {x : Edge × String} (hx : x ∈ taken) :
    x.1.fromTable ∈ joined ∧ x.1.toTable ∈ joined := by
  induction h with
  | start => simp at hx
  | forward e _ hfrom _ ih =>
    rcases List.mem_append.1 hx with hx | hx
    · exact ⟨List.mem_cons_of_mem _ (ih hx).1, List.mem_cons_of_mem _ (ih hx).2⟩
    · rw [List.mem_singleton.1 hx]
      exact ⟨List.mem_cons_of_mem _ hfrom, List.mem_cons_self ..⟩
  | backward e _ _ hto ih =>
    rcases List.mem_append.1 hx with hx | hx
    · exact ⟨List.mem_cons_of_mem _ (ih hx).1, List.mem_cons_of_mem _ (ih hx).2⟩
    · rw [List.mem_singleton.1 hx]
      exact ⟨List.mem_cons_self .., List.mem_cons_of_mem _ hto⟩

end Grown

namespace Progress

/-- What every step keeps: the joined tables have grown from the base along edges of the list, and an edge of the list
that does not wait has both of its ends joined. -/
structure Kept (base : String) (es : List Edge) (p : Progress) : Prop where
  grown : Grown base p.joined p.taken
  taken_mem : ∀ x ∈ p.taken, x.1 ∈ es
  remaining_mem : ∀ e ∈ p.remaining, e ∈ es
  accounted : ∀ e ∈ es, e ∈ p.remaining ∨ (e.fromTable ∈ p.joined ∧ e.toTable ∈ p.joined)

/-- The progress with more edges that wait. -/
def waiting (p : Progress) (es : List Edge) : Progress :=
  { p with remaining := p.remaining ++ es }

/-- What a step does to an edge: it joins a new table along it, finds it redundant, or lets it wait. -/
theorem step_cases (p : Progress) (e : Edge) :
    (e.fromTable ∈ p.joined ∧ e.toTable ∈ p.joined ∧ p.step e = { p with redundant := p.redundant ++ [e] }) ∨
    (e.fromTable ∈ p.joined ∧ e.toTable ∉ p.joined ∧
      p.step e = { p with joined := e.toTable :: p.joined, taken := p.taken ++ [(e, e.toTable)] }) ∨
    (e.fromTable ∉ p.joined ∧ e.toTable ∈ p.joined ∧
      p.step e = { p with joined := e.fromTable :: p.joined, taken := p.taken ++ [(e, e.fromTable)] }) ∨
    (e.fromTable ∉ p.joined ∧ e.toTable ∉ p.joined ∧ p.step e = p.waiting [e]) := by
  by_cases hfrom : e.fromTable ∈ p.joined <;> by_cases hto : e.toTable ∈ p.joined <;>
    simp [step, waiting, hfrom, hto]

variable {base : String} {es : List Edge}

/-- An edge that is taken stops to wait, and both of its ends are joined then. -/
private theorem Kept.join {p : Progress} {e : Edge} {rest : List Edge} {target : String}
    (h : Kept base es (p.waiting (e :: rest))) (hg : Grown base (target :: p.joined) (p.taken ++ [(e, target)])) :
    Kept base es (waiting { p with joined := target :: p.joined, taken := p.taken ++ [(e, target)] } rest) := by
  obtain ⟨-, taken_mem, remaining_mem, accounted⟩ := h
  simp only [waiting, List.mem_append, List.mem_cons] at taken_mem remaining_mem accounted
  refine ⟨hg, fun x hx => ?_, fun f hf => ?_, fun f hf => ?_⟩
  · rcases List.mem_append.1 hx with hx | hx
    · exact taken_mem x hx
    · exact List.mem_singleton.1 hx ▸ remaining_mem e (Or.inr (Or.inl rfl))
  · rcases List.mem_append.1 hf with hf | hf
    · exact remaining_mem f (Or.inl hf)
    · exact remaining_mem f (Or.inr (Or.inr hf))
  · rcases accounted f hf with (hf | rfl | hf) | hf
    · exact Or.inl (List.mem_append_left _ hf)
    · exact Or.inr (hg.ends_mem (x := (f, target)) (by simp))
    · exact Or.inl (List.mem_append_right _ hf)
    · exact Or.inr ⟨List.mem_cons_of_mem _ hf.1, List.mem_cons_of_mem _ hf.2⟩

/-- An edge between two joined tables stops to wait. -/
private theorem Kept.drop {p : Progress} {e : Edge} {rest : List Edge} (h : Kept base es (p.waiting (e :: rest)))
    (hfrom : e.fromTable ∈ p.joined) (hto : e.toTable ∈ p.joined) :
    Kept base es (waiting { p with redundant := p.redundant ++ [e] } rest) := by
  obtain ⟨grown, taken_mem, remaining_mem, accounted⟩ := h
  simp only [waiting, List.mem_append, List.mem_cons] at remaining_mem accounted
  refine ⟨grown, taken_mem, fun f hf => ?_, fun f hf => ?_⟩
  · rcases List.mem_append.1 hf with hf | hf
    · exact remaining_mem f (Or.inl hf)
    · exact remaining_mem f (Or.inr (Or.inr hf))
  · rcases accounted f hf with (hf | rfl | hf) | hf
    · exact Or.inl (List.mem_append_left _ hf)
    · exact Or.inr ⟨hfrom, hto⟩
    · exact Or.inl (List.mem_append_right _ hf)
    · exact Or.inr hf

/-- A step keeps the invariant: the edge it looks at stops to wait, or goes to the end of the edges that wait. -/
theorem Kept.step {p : Progress} {e : Edge} {rest : List Edge} (h : Kept base es (p.waiting (e :: rest))) :
    Kept base es ((p.step e).waiting rest) := by
  rcases p.step_cases e with ⟨hfrom, hto, hs⟩ | ⟨hfrom, hto, hs⟩ | ⟨hfrom, hto, hs⟩ | ⟨hfrom, hto, hs⟩
  · rw [hs]
    exact h.drop hfrom hto
  · rw [hs]
    exact h.join (h.grown.forward e hfrom hto)
  · rw [hs]
    exact h.join (h.grown.backward e hfrom hto)
  · have hw : (p.step e).waiting rest = p.waiting (e :: rest) := by simp [hs, waiting]
    rw [hw]
    exact h

/-- The passes keep what every step keeps. -/
theorem settle_keeps {P : Progress → Prop}
    (hstep : ∀ (p : Progress) (e : Edge) (rest : List Edge), P (p.waiting (e :: rest)) → P ((p.step e).waiting rest))
    {p : Progress} (h : P p) : P p.settle := by
  have hfold : ∀ (rest : List Edge) (q : Progress), P (q.waiting rest) → P (rest.foldl Progress.step q) := by
    intro rest
    induction rest with
    | nil =>
      intro q hq
      simpa [waiting] using hq
    | cons e rest ih => exact fun q hq => ih (q.step e) (hstep q e rest hq)
  have hpass : ∀ q : Progress, P q → P q.pass := by
    intro q hq
    have hw : waiting { q with remaining := [] } q.remaining = q := by simp [waiting]
    exact hfold q.remaining _ (hw.symm ▸ hq)
  induction p using settle.induct with
  | case1 p hlt ih =>
    unfold Progress.settle
    rw [if_pos hlt]
    exact ih (hpass p h)
  | case2 p hlt =>
    unfold Progress.settle
    rw [if_neg hlt]
    exact hpass p h

theorem Kept.settle {p : Progress} (h : Kept base es p) : Kept base es p.settle :=
  settle_keeps (fun _ _ _ => Kept.step) h

/-- Before the first pass only the base is joined, and every edge waits. -/
theorem Kept.start (base : String) (es : List Edge) : Kept base es ⟨[base], es, [], []⟩ :=
  ⟨.start, by simp, by simp, fun _ he => Or.inl he⟩

/-- Steps that let every edge wait change nothing else, and no edge has a joined end. -/
private theorem foldl_step_eq {rest : List Edge} {p : Progress}
    (h : (rest.foldl step p).remaining.length = p.remaining.length + rest.length) :
    rest.foldl step p = p.waiting rest ∧ ∀ e ∈ rest, e.fromTable ∉ p.joined ∧ e.toTable ∉ p.joined := by
  induction rest generalizing p with
  | nil => simp [waiting]
  | cons e rest ih =>
    simp only [List.foldl_cons, List.length_cons] at h
    have h1 := length_foldl_step_le rest (p.step e)
    have h2 := length_step_le p e
    -- only the step that lets its edge wait makes the waiting edges one more
    rcases p.step_cases e with ⟨_, _, hs⟩ | ⟨_, _, hs⟩ | ⟨_, _, hs⟩ | ⟨hfrom, hto, hs⟩
    · rw [hs] at h h1; simp at h h1; omega
    · rw [hs] at h h1; simp at h h1; omega
    · rw [hs] at h h1; simp at h h1; omega
    · have hlen : (p.waiting [e]).remaining.length = p.remaining.length + 1 := by simp [waiting]
      rw [hs] at h
      obtain ⟨heq, hrest⟩ := ih (p := p.waiting [e]) (by omega)
      refine ⟨by rw [List.foldl_cons, hs, heq]; simp [waiting], fun f hf => ?_⟩
      rcases List.mem_cons.1 hf with rfl | hf
      · exact ⟨hfrom, hto⟩
      · exact hrest f hf

/-- A pass that takes no edge changes nothing, and no edge that waits has a joined end. -/
theorem pass_eq_self {p : Progress} (h : p.pass.remaining.length = p.remaining.length) :
    p.pass = p ∧ ∀ e ∈ p.remaining, e.fromTable ∉ p.joined ∧ e.toTable ∉ p.joined := by
  have hlen : (p.remaining.foldl step { p with remaining := [] }).remaining.length =
      ({ p with remaining := [] } : Progress).remaining.length + p.remaining.length := by
    simpa [pass] using h
  obtain ⟨heq, hends⟩ := foldl_step_eq hlen
  exact ⟨by rw [pass, heq]; simp [waiting], hends⟩

/-- Without waiting edges the passes change nothing. -/
theorem settle_of_remaining_nil {p : Progress} (h : p.remaining = []) : p.settle = p := by
  have hlen : p.pass.remaining.length = p.remaining.length :=
    Nat.le_antisymm (length_pass_le p) (by rw [h]; exact Nat.zero_le _)
  rw [settle, (pass_eq_self hlen).1, if_neg (Nat.lt_irrefl _)]

/-- One pass that takes every waiting edge is enough. -/
theorem settle_of_pass {p : Progress} (h : p.pass.remaining = []) : p.settle = p.pass := by
  rw [settle]
  split
  · exact settle_of_remaining_nil h
  · rfl

/-- When the passes are done no edge that waits has a joined end. -/
theorem settled (p : Progress) :
    ∀ e ∈ p.settle.remaining, e.fromTable ∉ p.settle.joined ∧ e.toTable ∉ p.settle.joined := by
  obtain ⟨q, hq, hlen⟩ := remaining_settle p
  obtain ⟨heq, hends⟩ := pass_eq_self hlen
  rwa [hq, heq]

/-- The edges join either both of their ends or neither. -/
theorem ends_joined_iff {e : Edge} (he : e ∈ es) :
    e.fromTable ∈ (settle ⟨[base], es, [], []⟩).joined ↔ e.toTable ∈ (settle ⟨[base], es, [], []⟩).joined := by
  rcases (Kept.start base es).settle.accounted e he with hw | hj
  · have hends := settled _ e hw
    exact iff_of_false hends.1 hends.2
  · exact iff_of_true hj.1 hj.2

/-- The joined tables are those that the edges reach from the base. -/
theorem mem_joined_settle_iff (base : String) (es : List Edge) (id : String) :
    id ∈ (settle ⟨[base], es, [], []⟩).joined ↔ Reachable es base id := by
  have hk := (Kept.start base es).settle
  constructor
  · intro hid
    refine (hk.grown.reachable hid).mono fun e he => ?_
    obtain ⟨x, hx, rfl⟩ := List.mem_map.1 he
    exact hk.taken_mem x hx
  · intro hr
    -- along the way from the base every edge has a joined end, and so both
    induction hr with
    | refl => exact hk.grown.base_mem
    | tail _ hl ih =>
      obtain ⟨e, he, ⟨rfl, rfl⟩ | ⟨rfl, rfl⟩⟩ := hl
      · exact (ends_joined_iff he).1 ih
      · exact (ends_joined_iff he).2 ih

/-- There is at most one pass more than there are edges that wait. -/
theorem exists_settle_eq_iterate (p : Progress) :
    ∃ n ≤ p.remaining.length, p.settle = pass^[n + 1] p := by
  induction p using settle.induct with
  | case1 p hlt ih =>
    obtain ⟨n, hn, heq⟩ := ih
    refine ⟨n + 1, by omega, ?_⟩
    unfold settle
    rw [if_pos hlt, heq, Function.iterate_succ_apply pass (n + 1)]
  | case2 p hlt =>
    refine ⟨0, Nat.zero_le _, ?_⟩
    unfold settle
    rw [if_neg hlt]
    rfl

end Progress

end JoinCanvas
