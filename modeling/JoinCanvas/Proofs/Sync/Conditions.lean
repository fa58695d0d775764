import JoinCanvas.Proofs.Decimal.Digits
import JoinCanvas.Proofs.Sync.Scope
import Mathlib.Data.List.Basic

/-!
# Conditions of a compiled query

The literals of a compiled query hold the values that were written, and its conditions are those of the canvas that
can be written, up to how the members of a list are held.

* `literalValue_valueExpr`, `memberValue_readMember`: literals and members are read back.
* `foldl_addConjunct`: the conditions are recorded in order.
-/

namespace JoinCanvas

open JoinCanvas.Decimal JoinCanvas.Sql JoinCanvas.Statement JoinCanvas.Text JoinCanvas.Skeleton

/-! ### Integers -/

private theorem int_toDigits (n : Nat) : int? (Nat.toDigits 10 n) = some (n : Int) := by
  obtain ⟨hne, hall⟩ := isDigits_toDigits n
  have hnat := natIn_toDigits n
  unfold int?
  split
  · next rest hcs => exact absurd (hall '-' (by rw [hcs]; exact List.mem_cons_self ..)) (by decide)
  · next rest hcs => exact absurd (hall '+' (by rw [hcs]; exact List.mem_cons_self ..)) (by decide)
  · rw [hnat]
    rfl

/-- The text of an integer writes it. -/
theorem int_integerText (n : Int) : int? (Json.integerText n).toList = some n := by
  have hnat := natIn_toDigits n.natAbs
  by_cases hn : n < 0
  · have htext : (Json.integerText n).toList = '-' :: Nat.toDigits 10 n.natAbs := by simp [Json.integerText, hn]
    have habs : -(n.natAbs : Int) = n := by omega
    rw [htext, int?, hnat]
    exact congrArg some habs
  · have htext : (Json.integerText n).toList = Nat.toDigits 10 n.natAbs := by simp [Json.integerText, hn]
    have habs : (n.natAbs : Int) = n := by omega
    rw [htext, int_toDigits, habs]

theorem numberValue_integerText {n : Int} (hn : -(2 ^ 63) ≤ n ∧ n < 2 ^ 63) :
    numberValue? (Json.integerText n) = some (.number (.integer n)) := by
  rw [numberValue?, int_integerText]
  simp only
  rw [if_pos hn]
  rfl

/-! ### Literals -/

/-- An integer is read as the number of its text: the sign was split off as an operator, and its text is put back in
front of the digits. -/
theorem literalValue_integer (n : Int) :
    literalValue? (valueExpr (.number (.integer n))) = numberValue? (Json.integerText n) := by
  have htext := Json.Number.text_eq (.integer n)
  rw [show Json.integerText n = (Json.Number.integer n).text from rfl, htext, valueExpr]
  cases (Json.Number.integer n).isNegative <;> simp [literalValue?]

/-- What a condition compares with is read back. -/
theorem literalValue_valueExpr {v : Json.Value} (h : v.isExact = true ∨ ∃ s, v = .string s) :
    literalValue? (valueExpr v) = some v := by
  rcases h with h | ⟨s, rfl⟩
  · cases v with
    | null => rfl
    | bool b => rfl
    | number n =>
      cases n with
      | integer n =>
        rw [literalValue_integer]
        exact numberValue_integerText (by simpa [Json.Value.isExact] using h)
      | float x => simp [Json.Value.isExact] at h
    | _ => simp [Json.Value.isExact] at h
  · rfl

/-- A member of a list is read back; a string gets its quotes again. -/
theorem memberValue_readMember {v : Json.Value} (h : v.isExact = true ∨ ∃ s, v = .string (quotedString s)) :
    memberValue? (valueExpr (readMember v)) = some v := by
  rcases h with h | ⟨s, rfl⟩
  · rw [readMember_of_isPlain (isPlain_of_isExact h), memberValue?, literalValue_valueExpr (Or.inl h), Option.map_some]
    cases v with
    | string s => simp [Json.Value.isExact] at h
    | _ => rfl
  · rw [readMember_quoted]
    rfl

/-- The comparison that is read for an operator is that of the operator. -/
theorem comparison_operatorText {op : FilterOp} {o : Operator} (h : op.comparison? = some o) (ho : o ≠ .like) :
    comparisonOf? (operatorText o) = some op := by
  cases op with
  | like => exact absurd (Option.some.inj h).symm ho
  | isIn => simp [FilterOp.comparison?] at h
  | isNull => simp [FilterOp.comparison?] at h
  | isNotNull => simp [FilterOp.comparison?] at h
  | unknown => simp [FilterOp.comparison?] at h
  | _ =>
    obtain rfl := Option.some.inj h
    decide

/-! ### Conditions -/

/-- The condition as it comes back from SQL: without a value where none is written, and with a list where one is. -/
def Condition.restored (c : Condition) : Condition :=
  match c.operator with
  | .isNull | .isNotNull => { c with value := .null }
  | .isIn => { c with value := .array c.value.members }
  | _ => c

/-- The condition as it comes back from SQL when every literal comes back as another value. -/
def Condition.readAs (back : Json.Value → Json.Value) (c : Condition) : Condition :=
  match c.operator with
  | .isNull | .isNotNull => { c with value := .null }
  | .isIn => { c with value := .array (c.value.members.map back) }
  | _ => { c with value := back c.value }

theorem readAs_id (c : Condition) : c.readAs id = c.restored := by
  unfold Condition.readAs Condition.restored
  split <;> simp_all

/-- The condition on the same column of another table. -/
def Condition.on (c : Condition) (table : String) : Condition :=
  { c with table }

/-- Whether a condition is written in the query of a canvas. -/
def Condition.isWritten (tables : List Table) (c : Condition) : Bool :=
  (conditionOf? tables c).isSome

theorem mapM_memberValue {vs : List Json.Value} {back : Json.Value → Json.Value}
    (hvs : ∀ v ∈ vs, memberValue? (valueExpr (readMember v)) = some (back v)) :
    (vs.map fun v => valueExpr (readMember v)).mapM memberValue? = some (vs.map back) := by
  induction vs with
  | nil => rfl
  | cons v vs ih =>
    have hv := hvs v (List.mem_cons_self ..)
    have hrest := ih fun u hu => hvs u (List.mem_cons_of_mem _ hu)
    rw [List.map_cons, List.mapM_cons, hv, hrest]
    rfl

variable {s : Scope} {tables : List Table} {owner : String → String}

private theorem conditionOn_columnExpr (h : s.Leads tables owner) {id : String} {place : Nat} {t : Table}
    (hfind : findTable? tables id = some (place, t)) (column : String) (op : FilterOp) (v : Json.Value) :
    s.conditionOn (columnExpr place column) op v = .ok ⟨owner id, column, op, v⟩ := by
  rw [Scope.conditionOn, h.column_columnExpr hfind]
  rfl

private theorem condition_comparisonExpr (h : s.Leads tables owner) {c : Condition} {place : Nat} {t : Table}
    (hfind : findTable? tables c.table = some (place, t)) {o : Operator} (ho : c.operator.comparison? = some o)
    {v : Json.Value} (hv : literalValue? (valueExpr c.value) = some v) :
    s.condition (comparisonExpr o (columnExpr place c.column) (valueExpr c.value)) =
      .ok ⟨owner c.table, c.column, c.operator, v⟩ := by
  -- `LIKE` is an expression of its own, every other comparison a binary operator
  by_cases hlike : o = .like
  · subst hlike
    have hop : c.operator = .like := by
      cases hop : c.operator <;> simp [hop, FilterOp.comparison?] at ho
      rfl
    simp only [comparisonExpr, Scope.condition, hv, hop]
    exact conditionOn_columnExpr h hfind c.column .like v
  · have hor : operatorText o ≠ "OR" := by
      cases o <;> decide
    simp only [comparisonExpr_of_ne hlike, Scope.condition, if_neg hor, comparison_operatorText ho hlike, hv]
    exact conditionOn_columnExpr h hfind c.column c.operator v

/-- A written condition is read back, on the table that the alias of its own leads to, with what its literals are read
as. -/
theorem condition_readAs (h : s.Leads tables owner) {c : Condition} {back : Json.Value → Json.Value}
    (hcompared : c.operator.comparison?.isSome → literalValue? (valueExpr c.value) = some (back c.value))
    (hlisted : c.operator = .isIn → ∀ v ∈ c.value.members, memberValue? (valueExpr (readMember v)) = some (back v))
    {place : Nat} {t : Table} (hfind : findTable? tables c.table = some (place, t)) {e : Statement.Expr}
    (he : conditionExpr? place c = some e) : s.condition e = .ok ((c.readAs back).on (owner c.table)) := by
  have hon := conditionOn_columnExpr h hfind c.column
  unfold conditionExpr? at he
  unfold Condition.readAs
  cases hop : c.operator with
  | isNull =>
    simp only [hop, Option.some.injEq] at he ⊢
    rw [← he]
    exact hon .isNull .null
  | isNotNull =>
    simp only [hop, Option.some.injEq] at he ⊢
    rw [← he]
    exact hon .isNotNull .null
  | isIn =>
    simp only [hop] at he ⊢
    split at he
    · exact absurd he (by simp)
    · rw [← Option.some.inj he, Scope.condition, mapM_memberValue (hlisted hop)]
      exact hon .isIn _
  | unknown => simp [hop, FilterOp.comparison?] at he
  | _ =>
    simp only [hop] at he
    obtain ⟨o, ho, rfl⟩ := Option.map_eq_some_iff.1 he
    have hcomparison : c.operator.comparison? = some o := by rw [hop]; exact ho
    have hread := condition_comparisonExpr h hfind hcomparison (hcompared (by rw [hcomparison]; rfl))
    rw [hop] at hread
    exact hread

theorem condition_conditionExpr (h : s.Leads tables owner) {c : Condition} (hc : c.Readable)
    {place : Nat} {t : Table} (hfind : findTable? tables c.table = some (place, t)) {e : Statement.Expr}
    (he : conditionExpr? place c = some e) : s.condition e = .ok (c.restored.on (owner c.table)) := by
  rw [← readAs_id]
  exact condition_readAs h (fun hop => literalValue_valueExpr (hc.compared hop))
    (fun hop v hv => memberValue_readMember (hc.listed hop v hv)) hfind he

/-- The written conditions are recorded in order. -/
theorem foldl_addConjunct (h : s.Leads tables owner) {cs : List Condition}
    (hcs : ∀ c ∈ cs, c.Readable) (y : Sync) :
    (conditionExprs tables cs).foldl (Sync.addConjunct s) y =
      { y with conditions := y.conditions ++
          (cs.filter (·.isWritten tables)).map fun c => c.restored.on (owner c.table) } := by
  induction cs generalizing y with
  | nil => simp [conditionExprs]
  | cons c cs ih =>
    have hrest := ih fun d hd => hcs d (List.mem_cons_of_mem _ hd)
    rw [conditionExprs] at hrest ⊢
    cases hc : conditionOf? tables c with
    | none =>
      have hwritten : c.isWritten tables = false := by rw [Condition.isWritten, hc]; rfl
      rw [List.filterMap_cons_none hc, hrest, List.filter_cons_of_neg (by simp [hwritten])]
    | some e =>
      have hwritten : c.isWritten tables = true := by rw [Condition.isWritten, hc]; rfl
      obtain ⟨⟨place, t⟩, hfind, he⟩ := Option.bind_eq_some_iff.1 hc
      have hcondition := condition_conditionExpr h (hcs c (List.mem_cons_self ..)) hfind he
      rw [List.filterMap_cons_some hc, List.foldl_cons, Sync.addConjunct, hcondition, hrest,
        List.filter_cons_of_pos hwritten, List.map_cons, List.append_assoc, List.singleton_append]

/-- A condition that comes back is written as it was. -/
theorem expr_restored (c : Condition) (column : Sql.Expr) : c.restored.expr? column = c.expr? column := by
  have hlist : listMembers (.array c.value.members) = listMembers c.value := by
    rw [listMembers_eq c.value]
    rfl
  unfold Condition.restored Condition.expr?
  cases hop : c.operator <;> simp [hop, hlist]

private theorem expr_eq_none_iff (place : Nat) (c : Condition) (column : Sql.Expr) :
    c.expr? column = none ↔ conditionExpr? place c = none := by
  unfold Condition.expr? conditionExpr?
  cases c.operator <;> simp [listMembers_eq, FilterOp.comparison?]

theorem table_restored (c : Condition) : c.restored.table = c.table := by
  unfold Condition.restored
  split <;> rfl

theorem column_restored (c : Condition) : c.restored.column = c.column := by
  unfold Condition.restored
  split <;> rfl

/-- The conditions that come back are written as those of the canvas. -/
theorem filterExprs_restored (tables : List Table) (cs : List Condition) :
    filterExprs tables ((cs.filter (·.isWritten tables)).map Condition.restored) = filterExprs tables cs := by
  rw [filterExprs, List.filterMap_map, List.filterMap_filter]
  refine List.filterMap_congr fun c _ => ?_
  cases hfind : findTable? tables c.table with
  | none => simp [Condition.isWritten, conditionOf?, aliasOf?, hfind]
  | some x =>
    have hexpr := expr_eq_none_iff x.1 c (.column (some (tableAlias x.1)) c.column)
    simp only [Condition.isWritten, conditionOf?, aliasOf?, hfind, table_restored, column_restored, expr_restored,
      Option.bind_some, Option.map_some, Function.comp_apply]
    cases he : conditionExpr? x.1 c with
    | none => simp [hexpr.2 he]
    | some e => rfl

end JoinCanvas
