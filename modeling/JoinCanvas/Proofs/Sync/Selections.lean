import JoinCanvas.Proofs.Sync.Scope
import Mathlib.Data.List.Basic

/-!
# Selections of a compiled query

What a compiled query selects are the visible selections of the canvas, table by table.  Read back they keep their
order, and an alias that makes no difference is gone.

* `outputAlias_normalized`: an alias that is gone made no difference.
* `foldl_addItem_selectedItems`: the selections of every table are recorded in order.
-/

namespace JoinCanvas

open JoinCanvas.Sql JoinCanvas.Statement JoinCanvas.Text JoinCanvas.Skeleton

/-- The selection without its alias, where that is empty or the default one. -/
def Selection.normalized (s : Selection) : Selection :=
  { s with alias? := s.alias?.filter fun a => a ≠ "" ∧ s.defaultAlias? ≠ some a }

/-- The table with its hidden selections first and its visible ones normalized. -/
def Table.normalized (t : Table) : Table :=
  { t with selections := t.hiddenSelections ++ t.visible.map Selection.normalized }

/-! ### Aliases of selections -/

namespace Selection

theorem normalized_of_none {s : Selection} (h : s.alias? = none) : s.normalized = s := by
  rw [normalized, h, Option.filter_none, ← h]

theorem normalized_of_kept {s : Selection} {a : String} (h : s.alias? = some a) (ha : a ≠ "")
    (hd : s.defaultAlias? ≠ some a) : s.normalized = s := by
  rw [normalized, h, Option.filter_some_pos (by simp [ha, hd]), ← h]

theorem normalized_of_dropped {s : Selection} {a : String} (h : s.alias? = some a)
    (ha : a = "" ∨ s.defaultAlias? = some a) : s.normalized = { s with alias? := none } := by
  rw [normalized, h, Option.filter_some_neg (by simpa [imp_iff_not_or] using ha)]

/-- An alias that is gone made no difference. -/
theorem outputAlias_normalized (s : Selection) : s.normalized.outputAlias? = s.outputAlias? := by
  cases h : s.alias? with
  | none => rw [normalized_of_none h]
  | some a =>
    by_cases ha : a = "" ∨ s.defaultAlias? = some a
    · rw [normalized_of_dropped h ha]
      have hdefault : ({ s with alias? := none } : Selection).outputAlias? = s.defaultAlias? := rfl
      rw [hdefault, outputAlias?, h]
      rcases ha with rfl | hd
      · simp
      · simp [hd]
    · rw [not_or] at ha
      rw [normalized_of_kept h ha.1 ha.2]

theorem item_normalized (s : Selection) (tableAlias : String) :
    s.normalized.item tableAlias = s.item tableAlias := by
  unfold item
  rw [outputAlias_normalized]
  rfl

private theorem withAlias_self (s : Selection) : Scope.withAlias s s.outputAlias? = s := by
  unfold Scope.withAlias
  split
  · next a h => rw [if_pos h]
  · rfl

/-- The selection that is read for a visible one under its name in the result. -/
theorem withAlias_outputAlias {s : Selection} (hs : s.hidden = false) :
    Scope.withAlias { column := s.column, aggregation := s.aggregation } s.outputAlias? = s.normalized := by
  obtain ⟨column, aggregation, alias?, hidden⟩ := s
  obtain rfl : hidden = false := hs
  -- the name in the result is the default one unless the alias is kept
  cases alias? with
  | none =>
    rw [normalized_of_none rfl]
    exact withAlias_self _
  | some a =>
    by_cases ha : a = "" ∨ (⟨column, aggregation, some a, false⟩ : Selection).defaultAlias? = some a
    · rw [← outputAlias_normalized, normalized_of_dropped rfl ha]
      exact withAlias_self _
    · rw [not_or] at ha
      have hplain : ¬ ({ column, aggregation } : Selection).outputAlias? = some a := ha.2
      rw [normalized_of_kept rfl ha.1 ha.2, outputAlias?]
      simp only [if_neg ha.1, Scope.withAlias, if_neg hplain]

end Selection

/-! ### Selected items -/

/-- The visible selections of a canvas, each with the identifier of its table. -/
def picks (tables : List Table) : List (String × Selection) :=
  tables.flatMap fun t => t.visible.map fun s => (t.id, s)

theorem selected_eq (tables : List Table) :
    selected tables = (picks tables).map fun x => (placeOf tables x.1, x.2) := by
  rw [selected, picks, List.map_flatMap]
  refine List.flatMap_congr fun t ht => ?_
  obtain ⟨x, hx⟩ := Option.isSome_iff_exists.1 ((isSome_findTable_iff tables t.id).2 (List.mem_map.2 ⟨t, ht, rfl⟩))
  simp [hx, placeOf]

theorem Table.hidden_of_mem_visible {t : Table} {s : Selection} (hs : s ∈ t.visible) : s.hidden = false := by
  simpa [visible] using (List.mem_filter.1 hs).2

theorem mem_picks {tables : List Table} {x : String × Selection} (hx : x ∈ picks tables) :
    x.1 ∈ tables.map (·.id) ∧ x.2.hidden = false := by
  obtain ⟨t, ht, hx⟩ := List.mem_flatMap.1 hx
  obtain ⟨s, hs, rfl⟩ := List.mem_map.1 hx
  exact ⟨List.mem_map.2 ⟨t, ht, rfl⟩, Table.hidden_of_mem_visible hs⟩

variable {scope : Scope} {tables : List Table} {owner : String → String}

/-- The function of an aggregation is read as the aggregation. -/
theorem ofFunctionName_functionName {a : Aggregation} {f : String} (h : a.functionName? = some f) :
    Aggregation.ofFunctionName? f = some a := by
  cases a with
  | none => simp [Aggregation.functionName?] at h
  | _ =>
    obtain rfl := Option.some.inj h
    decide

/-- A selected column or aggregate is found in the table that the alias of its own leads to. -/
theorem selected_selectedExpr (h : scope.Leads tables owner) {id : String} (hid : id ∈ tables.map (·.id))
    (s : Selection) :
    scope.selected (selectedExpr (placeOf tables id) s) =
      .ok (owner id, { column := s.column, aggregation := s.aggregation }) := by
  obtain ⟨⟨place, t⟩, hfind⟩ := Option.isSome_iff_exists.1 ((isSome_findTable_iff tables id).2 hid)
  have hplace : placeOf tables id = place := by rw [placeOf, hfind]; rfl
  have hcolumn := h.column_columnExpr hfind s.column
  rw [hplace, selectedExpr]
  cases hf : s.aggregation.functionName? with
  | none =>
    have hnone : s.aggregation = .none := by
      cases ha : s.aggregation <;> simp [ha, Aggregation.functionName?] at hf
      rfl
    simp only [columnExpr, hnone] at hcolumn ⊢
    simp only [Scope.selected, hcolumn]
    rfl
  | some f =>
    simp only [callExpr, Scope.selected, Bool.false_eq_true, if_false, ofFunctionName_functionName hf, hcolumn]
    rfl

/-- A selected item is recorded as its normalized selection. -/
theorem addItem_selectionItem (h : scope.Leads tables owner) {id : String} (hid : id ∈ tables.map (·.id))
    {s : Selection} (hs : s.hidden = false) (y : Sync) :
    y.addItem scope (selectionItem (placeOf tables id) s) =
      { y with selections := pushSelection (owner id) s.normalized y.selections } := by
  have halias : (s.outputAlias?.map fun a => (⟨a, some '\x60'⟩ : Ident)).map (·.value) = s.outputAlias? := by
    cases s.outputAlias? <;> rfl
  have hselection : scope.selection (selectedExpr (placeOf tables id) s) s.outputAlias? =
      .ok (owner id, s.normalized) := by
    rw [Scope.selection, selected_selectedExpr h hid s]
    exact congrArg (fun c => Except.ok (owner id, c)) (Selection.withAlias_outputAlias hs)
  simp only [selectionItem, Sync.addItem, halias, hselection]

/-! ### Recorded columns -/

/-- The columns of a table among recorded selections. -/
def columnsAt (ss : List TableSelection) (id : String) : List Selection :=
  ((ss.find? (·.table = id)).map (·.columns)).getD []

theorem columnsAt_cons (s : TableSelection) (ss : List TableSelection) (id : String) :
    columnsAt (s :: ss) id = if s.table = id then s.columns else columnsAt ss id := by
  by_cases h : s.table = id <;> simp [columnsAt, h]

/-- A recorded column is the last one of its table. -/
theorem columnsAt_push (table : String) (column : Selection) (ss : List TableSelection) (id : String) :
    columnsAt (pushSelection table column ss) id = columnsAt ss id ++ if table = id then [column] else [] := by
  induction ss with
  | nil =>
    rw [pushSelection, columnsAt_cons]
    rfl
  | cons s ss ih =>
    unfold pushSelection
    by_cases hs : s.table = table
    · rw [if_pos hs, columnsAt_cons, columnsAt_cons]
      by_cases hid : s.table = id
      · simp [hid, ← hs]
      · have hne : ¬ table = id := fun he => hid (hs.trans he)
        simp [hid, hne]
    · rw [if_neg hs, columnsAt_cons, columnsAt_cons, ih]
      by_cases hid : s.table = id
      · have hne : ¬ table = id := fun he => hs (hid.trans he.symm)
        simp [hid, hne]
      · simp [hid]

/-- The selections with the picked ones recorded. -/
def record (l : List (String × Selection)) (ss : List TableSelection) : List TableSelection :=
  l.foldl (fun ss x => pushSelection x.1 x.2.normalized ss) ss

theorem columnsAt_record (l : List (String × Selection)) (ss : List TableSelection) (id : String) :
    columnsAt (record l ss) id = columnsAt ss id ++ ((l.filter (·.1 = id)).map (·.2.normalized)) := by
  induction l generalizing ss with
  | nil => simp [record]
  | cons x l ih =>
    have hrest := ih (pushSelection x.1 x.2.normalized ss)
    rw [record] at hrest ⊢
    rw [List.foldl_cons, hrest, columnsAt_push]
    by_cases hx : x.1 = id
    · simp [hx]
    · simp [hx]

/-- With different identifiers the picked selections of a table are its visible ones. -/
theorem filter_picks {tables : List Table} (h : (tables.map (·.id)).Nodup) {t : Table} (ht : t ∈ tables) :
    ((picks tables).filter (·.1 = t.id)).map (·.2) = t.visible := by
  induction tables with
  | nil => simp at ht
  | cons u tables ih =>
    obtain ⟨hu, hnodup⟩ := List.nodup_cons.1 (List.map_cons ▸ h)
    have hpicks : picks (u :: tables) = u.visible.map (fun s => (u.id, s)) ++ picks tables := by simp [picks]
    rw [hpicks, List.filter_append, List.map_append, List.filter_map, List.map_map]
    rcases List.mem_cons.1 ht with rfl | ht
    · have hothers : (picks tables).filter (·.1 = t.id) = [] := by
        refine List.filter_eq_nil_iff.2 fun x hx => ?_
        have := (mem_picks hx).1
        simp only [decide_eq_true_eq]
        rintro he
        exact hu (he ▸ this)
      simp [hothers, Function.comp_def]
    · have hne : u.id ≠ t.id := fun he => hu (he ▸ List.mem_map.2 ⟨t, ht, rfl⟩)
      simp [hne, ih hnodup ht, Function.comp_def]

theorem foldl_addItem_picks (h : scope.Leads tables owner) {l : List (String × Selection)}
    (hl : ∀ x ∈ l, x.1 ∈ tables.map (·.id) ∧ x.2.hidden = false) (y : Sync) :
    (l.map fun x => selectionItem (placeOf tables x.1) x.2).foldl (Sync.addItem scope) y =
      { y with selections := record (l.map fun x => (owner x.1, x.2)) y.selections } := by
  induction l generalizing y with
  | nil => rfl
  | cons x l ih =>
    obtain ⟨hid, hhidden⟩ := hl x (List.mem_cons_self ..)
    have hrest := ih fun z hz => hl z (List.mem_cons_of_mem _ hz)
    rw [List.map_cons, List.foldl_cons, addItem_selectionItem h hid hhidden, hrest]
    rfl

/-- What is selected is recorded for every table in order; nothing is recorded where nothing is selected. -/
theorem foldl_addItem_selectedItems (h : scope.Leads tables owner) (y : Sync) :
    (selectedItems tables).foldl (Sync.addItem scope) y =
      { y with selections := record ((picks tables).map fun x => (owner x.1, x.2)) y.selections
               selectionsComplete := y.selectionsComplete && !(picks tables).isEmpty } := by
  have hfold := foldl_addItem_picks h (fun x hx => mem_picks hx) y
  unfold selectedItems
  rw [selected_eq, List.isEmpty_map, List.map_map]
  cases hempty : (picks tables).isEmpty with
  | true =>
    rw [List.isEmpty_iff] at hempty
    simp [hempty, Sync.addItem, record]
  | false =>
    rw [if_neg Bool.false_ne_true]
    simpa [Function.comp_def] using hfold

end JoinCanvas
