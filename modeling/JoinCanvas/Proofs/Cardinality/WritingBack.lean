import JoinCanvas.Proofs.Cardinality.Warnings
import JoinCanvas.Proofs.Join.Bare

/-!
# Writing detected cardinalities back

The cardinalities that were found are written to the edges one after another, each to the first edge of its identifier.
When neither the edges nor the reports repeat an identifier, each edge gets the cardinality that was found for it, and
the number of changes is the number of edges that had another one.

* `setCardinality_eq`: what writing one cardinality does.
* `applyCardinalities_eq`: what writing all of them does, by induction on them while the edges change.
* `applyCardinalities_writesBack`: the reports of a model, written back to it.
-/

namespace JoinCanvas

/-! ### Single edges -/

namespace Edge

/-- The edge with a cardinality that was found, if it was found for it. -/
def withCardinality (e : Edge) (x : String × Cardinality) : Edge :=
  if e.id = x.1 then { e with cardinality := x.2 } else e

/-- The edge with the cardinalities that were found, one after another. -/
def withFound (e : Edge) (found : List (String × Cardinality)) : Edge :=
  found.foldl withCardinality e

/-- The edge has another cardinality than the one that was found for it. -/
def differs (e : Edge) (x : String × Cardinality) : Bool :=
  e.id = x.1 && e.cardinality != x.2

variable {e : Edge} {x : String × Cardinality} {found : List (String × Cardinality)}

theorem withCardinality_of_eq (h : e.id = x.1) : e.withCardinality x = { e with cardinality := x.2 } :=
  if_pos h

theorem withCardinality_of_ne (h : e.id ≠ x.1) : e.withCardinality x = e :=
  if_neg h

theorem id_withCardinality (e : Edge) (x : String × Cardinality) : (e.withCardinality x).id = e.id := by
  unfold withCardinality
  split <;> rfl

theorem differs_iff : e.differs x = true ↔ e.id = x.1 ∧ e.cardinality ≠ x.2 := by
  rw [differs, Bool.and_eq_true, decide_eq_true_iff, bne_iff_ne]

theorem differs_eq_false_of_ne (h : e.id ≠ x.1) : e.differs x = false := by
  rw [differs, decide_eq_false h, Bool.false_and]

theorem withFound_of_notMem (h : e.id ∉ found.map (·.1)) : e.withFound found = e := by
  induction found with
  | nil => rfl
  | cons y rest ih =>
    rw [List.map_cons, List.mem_cons, not_or] at h
    rw [withFound, List.foldl_cons, withCardinality_of_ne h.1]
    exact ih h.2

/-- No cardinality is written over by a later one. -/
theorem withFound_of_mem (hfound : (found.map (·.1)).Nodup) (hx : x ∈ found) (h : e.id = x.1) :
    e.withFound found = { e with cardinality := x.2 } := by
  induction found with
  | nil => exact absurd hx List.not_mem_nil
  | cons y rest ih =>
    rw [List.map_cons, List.nodup_cons] at hfound
    rw [withFound, List.foldl_cons]
    rcases List.mem_cons.1 hx with rfl | hx
    · rw [withCardinality_of_eq h]
      exact withFound_of_notMem (h ▸ hfound.1)
    · have hne : e.id ≠ y.1 := fun hy => hfound.1 (hy ▸ h ▸ List.mem_map_of_mem hx)
      rw [withCardinality_of_ne hne]
      exact ih hfound.2 hx

theorem withFound_cases (hfound : (found.map (·.1)).Nodup) (e : Edge) :
    e.id ∉ found.map (·.1) ∧ e.withFound found = e ∨
      ∃ x ∈ found, e.id = x.1 ∧ e.withFound found = { e with cardinality := x.2 } := by
  by_cases h : e.id ∈ found.map (·.1)
  · obtain ⟨x, hx, hid⟩ := List.mem_map.1 h
    exact Or.inr ⟨x, hx, hid.symm, withFound_of_mem hfound hx hid.symm⟩
  · exact Or.inl ⟨h, withFound_of_notMem h⟩

theorem id_withFound (hfound : (found.map (·.1)).Nodup) (e : Edge) : (e.withFound found).id = e.id := by
  rcases withFound_cases hfound e with ⟨-, h⟩ | ⟨x, -, -, h⟩ <;> rw [h]

theorem bare_withFound (hfound : (found.map (·.1)).Nodup) (e : Edge) : (e.withFound found).bare = e.bare := by
  rcases withFound_cases hfound e with ⟨-, h⟩ | ⟨x, -, -, h⟩ <;> rw [h]
  rfl

theorem withFound_withFound (hfound : (found.map (·.1)).Nodup) (e : Edge) :
    (e.withFound found).withFound found = e.withFound found := by
  rcases withFound_cases hfound e with ⟨-, h⟩ | ⟨x, hx, hid, h⟩
  · rw [h, h]
  · rw [h]
    exact withFound_of_mem hfound hx hid

theorem differs_withFound (hfound : (found.map (·.1)).Nodup) (hx : x ∈ found) (e : Edge) :
    (e.withFound found).differs x = false := by
  by_cases h : e.id = x.1
  · rw [withFound_of_mem hfound hx h, differs, bne_self_eq_false, Bool.and_false]
  · exact differs_eq_false_of_ne (by rwa [id_withFound hfound])

end Edge

/-! ### All edges -/

theorem setCardinality_eq {es : List Edge} (hids : (es.map (·.id)).Nodup) (x : String × Cardinality) :
    setCardinality x.1 x.2 es = (es.map (·.withCardinality x), es.any (·.differs x)) := by
  induction es with
  | nil => rfl
  | cons e rest ih =>
    rw [List.map_cons, List.nodup_cons] at hids
    rw [setCardinality, List.map_cons, List.any_cons]
    by_cases he : e.id = x.1
    · -- no other edge has the identifier
      have hne : ∀ d ∈ rest, d.id ≠ x.1 := fun d hd hx => hids.1 (List.mem_map.2 ⟨d, hd, hx.trans he.symm⟩)
      have hmap : rest.map (·.withCardinality x) = rest :=
        (List.map_congr_left fun d hd => Edge.withCardinality_of_ne (hne d hd)).trans (List.map_id rest)
      have hany : rest.any (·.differs x) = false :=
        List.any_eq_false.2 fun d hd => by rw [Edge.differs_eq_false_of_ne (hne d hd)]; exact Bool.false_ne_true
      rw [if_pos he, hmap, hany, Edge.withCardinality_of_eq he, Edge.differs, decide_eq_true he, Bool.true_and,
        Bool.or_false]
    · rw [if_neg he, ih hids.2, Edge.withCardinality_of_ne he, Edge.differs_eq_false_of_ne he, Bool.false_or]

/-- Writing a cardinality does not touch the edges that another one is for. -/
theorem any_differs_map {es : List Edge} {x y : String × Cardinality} (h : y.1 ≠ x.1) :
    (es.map (·.withCardinality x)).any (·.differs y) = es.any (·.differs y) := by
  have hsame (e : Edge) : (e.withCardinality x).differs y = e.differs y := by
    by_cases he : e.id = x.1
    · have hne : e.id ≠ y.1 := fun hy => h (hy.symm.trans he)
      rw [Edge.differs_eq_false_of_ne hne, Edge.differs_eq_false_of_ne (by rwa [Edge.id_withCardinality])]
    · rw [Edge.withCardinality_of_ne he]
  simp only [List.any_map, Function.comp_def, hsame]

/-- Written one after another, every cardinality comes to the edge it is for, and changes it if it had another one. -/
theorem applyCardinalities_eq {m : Model} (hids : (m.edges.map (·.id)).Nodup) {found : List (String × Cardinality)}
    (hfound : (found.map (·.1)).Nodup) :
    m.applyCardinalities found =
      ({ m with edges := m.edges.map (·.withFound found) }, found.countP fun x => m.edges.any (·.differs x)) := by
  rw [Model.applyCardinalities, ← Nat.zero_add (found.countP _)]
  -- the count of the changes before goes along; the model is another one after each cardinality
  generalize 0 = n
  induction found generalizing m n with
  | nil =>
    have hmap : m.edges.map (·.withFound []) = m.edges := List.map_id m.edges
    rw [hmap]
    rfl
  | cons x rest ih =>
    rw [List.map_cons, List.nodup_cons] at hfound
    have hids' : ((m.edges.map (·.withCardinality x)).map (·.id)).Nodup := by
      rw [List.map_map]
      simpa only [Function.comp_def, Edge.id_withCardinality] using hids
    have hcount : rest.countP (fun y => (m.edges.map (·.withCardinality x)).any (·.differs y)) =
        rest.countP fun y => m.edges.any (·.differs y) :=
      List.countP_congr fun y hy => by
        rw [any_differs_map fun hx => hfound.1 (List.mem_map.2 ⟨y, hy, hx⟩)]
    rw [List.foldl_cons]
    simp only [setCardinality_eq hids x]
    rw [ih hids' hfound.2, List.map_map, hcount, List.countP_cons]
    refine Prod.ext rfl ?_
    cases m.edges.any (·.differs x)
    · rfl
    · simp only [if_true]
      omega

/-- The first edge of an identifier is the one that it was, with the cardinality that was found for it. -/
theorem cardinality_withFound {es : List Edge} {found : List (String × Cardinality)}
    (hfound : (found.map (·.1)).Nodup) {x : String × Cardinality} (hx : x ∈ found) (hes : ∃ e ∈ es, e.id = x.1) :
    ((es.map (·.withFound found)).find? (·.id = x.1)).map (·.cardinality) = some x.2 := by
  have hfind : (es.map (·.withFound found)).find? (·.id = x.1) = (es.find? (·.id = x.1)).map (·.withFound found) := by
    simp only [List.find?_map, Function.comp_def, Edge.id_withFound hfound]
  cases hd : es.find? (·.id = x.1) with
  | none =>
    obtain ⟨e, he, hid⟩ := hes
    exact absurd hid (by simpa using List.find?_eq_none.1 hd e he)
  | some d =>
    have hid : d.id = x.1 := by simpa using List.find?_some hd
    rw [hfind, hd, Option.map_some, Option.map_some, Edge.withFound_of_mem hfound hx hid]

/-- Written back again, the cardinalities change nothing. -/
theorem applyCardinalities_again {m : Model} (hids : (m.edges.map (·.id)).Nodup) {found : List (String × Cardinality)}
    (hfound : (found.map (·.1)).Nodup) :
    (m.applyCardinalities found).1.applyCardinalities found = ((m.applyCardinalities found).1, 0) := by
  have hids' : ((m.edges.map (·.withFound found)).map (·.id)).Nodup := by
    simpa only [List.map_map, Function.comp_def, Edge.id_withFound hfound] using hids
  have hedges : (m.edges.map (·.withFound found)).map (·.withFound found) = m.edges.map (·.withFound found) := by
    simp only [List.map_map, Function.comp_def, Edge.withFound_withFound hfound]
  have hcount : (found.countP fun x => (m.edges.map (·.withFound found)).any (·.differs x)) = 0 := by
    rw [List.countP_eq_zero]
    intro x hx
    rw [Bool.not_eq_true, List.any_eq_false]
    intro e he
    obtain ⟨d, -, rfl⟩ := List.mem_map.1 he
    rw [Edge.differs_withFound hfound hx]
    exact Bool.false_ne_true
  rw [applyCardinalities_eq hids hfound, applyCardinalities_eq hids' hfound, hedges, hcount]

/-! ### Reports -/

/-- The cardinalities that were detected, by the identifiers of the edges. -/
def Validation.found (v : Validation) : List (String × Cardinality) :=
  v.reports.map fun r => (r.edge, r.detected)

/-- What comes of a model and of its edges when the reports of a validation are written back to it. -/
structure WritesBack (m : Model) (v : Validation) (m' : Model) (changed : Nat) : Prop where
  /-- There is a report of each edge with both ends on the canvas. -/
  reported : v.reports.map (·.edge) = (edgesOn m.tables m.edges).map (·.id)
  changed_eq : changed = (v.reports.filter (·.isMismatch)).length
  detected : ∀ r ∈ v.reports, (m'.edge? r.edge).map (·.cardinality) = some r.detected
  /-- An edge differs from what it was in its cardinality only, and not at all without a report. -/
  edges : List.Forall₂ (fun e e' => (∀ r ∈ v.reports, r.edge = e.id → e' = { e with cardinality := r.detected }) ∧
    (e.id ∉ v.reports.map (·.edge) → e' = e)) m.edges m'.edges
  frame : m' = { m with edges := m'.edges }
  compiled : m'.compile? = m.compile?
  again : m'.applyCardinalities v.found = (m', 0)

section

variable {m : Model} {v : Validation}

theorem map_fst_found (v : Validation) : v.found.map (·.1) = v.reports.map (·.edge) := by
  rw [Validation.found, List.map_map]
  rfl

/-- Each report is about an edge and says what its cardinality was. -/
theorem exists_reported {σ ω : Type} {w : Warehouse σ ω} {tables : List Table} {edges : List Edge}
    {connection : Connection} {wantsWarnings : Bool} {warnings : List Warning} {c c' : Course σ ω}
    (h : Validator.validateModel w connection wantsWarnings tables edges warnings c = (.returned v, c')) :
    ∀ r ∈ v.reports, ∃ e ∈ edges, e.id = r.edge ∧ e.cardinality = r.current := by
  intro r hr
  by_cases htables : tables = []
  · subst htables
    obtain rfl := Outcome.returned.inj (Prod.mk.inj h).1
    exact absurd hr List.not_mem_nil
  · have hall := Validator.reports_validateModel w edges connection wantsWarnings warnings htables h
    obtain ⟨i, hi, rfl⟩ := List.mem_iff_getElem.1 hr
    have hwork : i < (edges.filterMap (Measurable.of? tables)).length := by rwa [hall.length_eq]
    obtain ⟨stats, hreport⟩ := hall.get hwork hi
    obtain ⟨e, he, hm⟩ := List.mem_filterMap.1 (List.getElem_mem hwork)
    obtain ⟨rfl, -⟩ := of_eq_some hm
    rw [List.get_eq_getElem, List.get_eq_getElem] at hreport
    rw [hreport]
    exact ⟨_, he, rfl, rfl⟩

/-- Reports about edges of a model without repeated identifiers count as changes where they are mismatches. -/
theorem countP_found (hids : (m.edges.map (·.id)).Nodup)
    (hreports : ∀ r ∈ v.reports, ∃ e ∈ m.edges, e.id = r.edge ∧ e.cardinality = r.current) :
    (v.found.countP fun x => m.edges.any (·.differs x)) = (v.reports.filter (·.isMismatch)).length := by
  rw [Validation.found, List.countP_map, List.countP_eq_length_filter]
  refine congrArg List.length (List.filter_congr fun r hr => ?_)
  obtain ⟨e, he, hid, hcurrent⟩ := hreports r hr
  have hany : (m.edges.any fun d => d.differs (r.edge, r.detected)) = true ↔ r.isMismatch = true := by
    simp only [List.any_eq_true, Edge.differs_iff, EdgeReport.isMismatch, bne_iff_ne]
    constructor
    · rintro ⟨d, hd, hdid, hdiffers⟩
      obtain rfl : d = e := List.inj_on_of_nodup_map hids hd he (hdid.trans hid.symm)
      rwa [← hcurrent]
    · exact fun hdiffers => ⟨e, he, hid, by rwa [hcurrent]⟩
  exact Bool.eq_iff_iff.2 hany

/-- Validating a model whose edges have different identifiers and writing the reports back to it sets each reported edge
to the cardinality that was detected, and counts the mismatches.  Nothing else changes, and nothing of the compiled
query; written back again, the reports change nothing. -/
theorem applyCardinalities_writesBack {σ ω : Type} {w : Warehouse σ ω} {connection : Connection} {wantsWarnings : Bool}
    {warnings : List Warning} {c c' : Course σ ω} (hids : (m.edges.map (·.id)).Nodup)
    (h : Validator.validateModel w connection wantsWarnings m.tables m.edges warnings c = (.returned v, c')) :
    WritesBack m v (m.applyCardinalities v.found).1 (m.applyCardinalities v.found).2 := by
  have hreported := (accounted_of_returned h).reports
  have hfound : (v.found.map (·.1)).Nodup := by
    rw [map_fst_found, hreported]
    exact hids.sublist (List.filter_sublist.map _)
  have hmem : ∀ r ∈ v.reports, (r.edge, r.detected) ∈ v.found := fun r hr => List.mem_map_of_mem hr
  have hreports := exists_reported h
  have hagain := applyCardinalities_again hids hfound
  rw [applyCardinalities_eq hids hfound] at hagain ⊢
  refine ⟨hreported, countP_found hids hreports, fun r hr => ?_, ?_, rfl, compile_of_bare m ?_, hagain⟩
  · obtain ⟨e, he, hid, -⟩ := hreports r hr
    exact cardinality_withFound hfound (hmem r hr) ⟨e, he, hid⟩
  · rw [List.forall₂_map_right_iff, List.forall₂_same]
    refine fun e _ => ⟨fun r hr hid => Edge.withFound_of_mem hfound (hmem r hr) hid.symm, fun hnot => ?_⟩
    exact Edge.withFound_of_notMem (by rwa [map_fst_found])
  · simp only [List.map_map, Function.comp_def, Edge.bare_withFound hfound]

end

/-- A model with those edges. -/
def fourEdgesModel : Model :=
  { id := "m", tables := twoTables, edges := fourEdges }

/-- A warehouse that counts for the three edges with both ends there, and finds two of them otherwise than they say. -/
def mismatchScript : Script :=
  { replies :=
      [{ rows := [countsRow "source" 3 3, countsRow "target" 5 3] },
        { rows := [countsRow "source" 5 3, countsRow "target" 3 3] },
        { rows := [countsRow "source" 5 3, countsRow "target" 5 3] }] }

/-- The theorem at that model. -/
theorem applyCardinalities_writesBack_fourEdges : (fourEdgesModel.edges.map (·.id)).Nodup ∧
    ∃ v c', Validator.validateModel scripted ⟨"c", "", "", ""⟩ true fourEdgesModel.tables fourEdgesModel.edges []
        { scene := { world := mismatchScript } } = (.returned v, c') ∧
      WritesBack fourEdgesModel v (fourEdgesModel.applyCardinalities v.found).1
        (fourEdgesModel.applyCardinalities v.found).2 := by
  have hids : (fourEdgesModel.edges.map (·.id)).Nodup := by decide
  have hreturned : (Validator.validateModel scripted ⟨"c", "", "", ""⟩ true fourEdgesModel.tables
      fourEdgesModel.edges [] { scene := { world := mismatchScript } }).1.isReturned = true := by
    decide +kernel
  obtain ⟨v, c', h⟩ := exists_of_isReturned hreturned
  exact ⟨hids, v, c', h, applyCardinalities_writesBack hids h⟩

/-- Two edges change; the one that was not measured stays as it was. -/
example :
    let x := Work.within none
      (Validator.validateModel scripted ⟨"c", "", "", ""⟩ true fourEdgesModel.tables fourEdgesModel.edges [])
      { scene := { world := mismatchScript } }
    x.1.map (fun result => result.toOption.map fun v =>
        ((fourEdgesModel.applyCardinalities v.found).1.edges.map (·.cardinality),
          (fourEdgesModel.applyCardinalities v.found).2)) =
      some (some ([.oneToMany, .oneToMany, .manyToOne, .manyToMany], 2)) := by
  decide +kernel

end JoinCanvas
