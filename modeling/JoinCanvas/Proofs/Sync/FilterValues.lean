import JoinCanvas.Proofs.Sync.Attribution
import Mathlib.Data.List.TakeWhile

/-!
# Filter values that are read back

A condition is written with the literal of its value, and what is read of the literal is the value again: null, a
truth value, a string, and an integer that has 64 bits with its sign.  An integer that has 64 bits only without a sign
is written with all its digits and read as a floating point number, which may be as far as 1024 away.

* `binary_toDigits`, `ofNat_close`: the digits of a large integer as a floating point number.
* `literalValue_reread`, `memberValue_reread`: what a literal is read as.
* `ofSql_sole`: the record of a compiled query with one condition.
* `sync_sole_condition`: when the condition comes back as it was.
-/

namespace JoinCanvas

open JoinCanvas.Decimal JoinCanvas.Sql JoinCanvas.Statement JoinCanvas.Text JoinCanvas.Skeleton

/-! ### Digits of large integers -/

namespace Decimal

private theorem isDigit_of_mem_toDigits {n : Nat} {c : Char} (hc : c ∈ Nat.toDigits 10 n) : isDigit c = true := by
  have hdigit := (isDigits_toDigits n).2 c hc
  simpa [isDigit, Char.isDigit, Char.le_def] using hdigit

/-- The digits of a natural number are read as the floating point number nearest to it. -/
theorem binary_toDigits {n : Nat} (hpos : 0 < n) (hn : n < 2 ^ 64) : binary? (Nat.toDigits 10 n) = Binary.ofNat n := by
  have hdigits : ∀ c ∈ Nat.toDigits 10 n, isDigit c = true := fun c hc => isDigit_of_mem_toDigits hc
  have hwhole : (Nat.toDigits 10 n).takeWhile isDigit = Nat.toDigits 10 n := List.takeWhile_eq_self_iff.2 hdigits
  have hrest : (Nat.toDigits 10 n).dropWhile isDigit = [] := List.dropWhile_eq_nil_iff.2 hdigits
  have hlength : (Nat.toDigits 10 n).length ≤ 20 :=
    (Nat.length_toDigits_le_iff (by decide) (by decide)).2 (by omega)
  have hdecimal : Binary.ofDecimal false n 0 = Binary.ofNat n := by
    have hzero : ¬ (n = 0 ∨ (Binary.decimalLength n : Int) + 0 < -330) := by omega
    have hsize : ¬ (Binary.decimalLength n : Int) + 0 > 310 := by
      rw [Binary.decimalLength, if_neg (by omega)]
      omega
    rw [Binary.ofDecimal]
    simp only [if_neg hzero, if_neg hsize]
    simp [Binary.ofNat]
  unfold binary?
  split
  rename_i negative cs hsign
  have hcs : (negative, cs) = (false, Nat.toDigits 10 n) := by
    rw [← hsign]
    split
    · next r hr => exact absurd (hdigits '-' (by simp [hr])) (by decide)
    · next r hr => exact absurd (hdigits '+' (by simp [hr])) (by decide)
    · rfl
  obtain ⟨rfl, rfl⟩ := Prod.mk.inj hcs
  simp only [hwhole, hrest, List.append_nil, natIn_toDigits, List.length_nil]
  exact hdecimal

/-- An integer that has 64 bits only without a sign is rounded to the multiples of `2 ^ 11`. -/
theorem ofNat_close {n : Nat} (hlow : 2 ^ 63 ≤ n) (hhigh : n < 2 ^ 64) :
    ∃ k e : Nat, Binary.ofNat n = some ⟨false, k, e⟩ ∧ k * 2 ^ e ≤ n + 2 ^ 10 ∧ n ≤ k * 2 ^ e + 2 ^ 10 := by
  have hne : n ≠ 0 := by omega
  have hexponent : Binary.exponentOf n 1 = 11 := by
    have hlog : n.log2 = 63 := (Nat.log2_eq_iff hne).2 ⟨hlow, hhigh⟩
    have hone : Nat.log2 1 = 0 := by decide
    have hdigits : ((63 : Nat) : Int) - ((0 : Nat) : Int) - 52 = 11 := rfl
    have hsmall : ¬ (if (0 : Int) ≤ 11 then n < 1 * 2 ^ (11 : Int).toNat * 2 ^ 52
        else n * 2 ^ (-(11 : Int)).toNat < 1 * 2 ^ 52) := by
      rw [if_pos (by decide)]
      show ¬ n < 1 * 2 ^ 11 * 2 ^ 52
      omega
    simp only [Binary.exponentOf, hlog, hone, hdigits]
    rw [if_neg hsmall]
    rfl
  have hround : Binary.roundAt n 1 11 = roundDiv n (2 ^ 11) := by
    rw [Binary.roundAt, if_pos (by decide)]
    rfl
  obtain ⟨hbelow, habove⟩ := roundDiv_close n (show 0 < 2 ^ 11 by decide)
  rw [Binary.ofNat, Binary.ofRatio, if_neg hne]
  simp only [hexponent, hround]
  -- rounding up may carry into a further digit, which moves the exponent
  by_cases hcarry : roundDiv n (2 ^ 11) = 2 ^ 53
  · rw [if_pos hcarry]
    refine ⟨2 ^ 52, 12, rfl, ?_⟩
    rw [hcarry] at hbelow habove
    omega
  · rw [if_neg hcarry]
    refine ⟨roundDiv n (2 ^ 11), 11, rfl, ?_⟩
    omega

end Decimal

/-! ### Values and conditions -/

/-- Whether a value is written as a literal of its own kind: null, a truth value, a string, or an integer of 64 bits
with a sign or without. -/
def Json.Value.isLiteral : Json.Value → Bool
  | .null | .bool _ | .string _ => true
  | .number (.integer n) => decide (-(2 ^ 63) ≤ n ∧ n < 2 ^ 64)
  | _ => false

/-- What the literal of a value is read as: an integer without a place in 64 bits with a sign is a floating point
number. -/
def Json.Value.reread : Json.Value → Json.Value
  | .number (.integer n) =>
    if n < 2 ^ 63 then .number (.integer n)
    else ((Binary.ofNat n.natAbs).map fun x => Json.Value.number (.float x)).getD .null
  | v => v

/-- A comparison with a literal, or a list of literals that are no strings. -/
inductive Condition.HoldsLiterals : Condition → Prop
  | compare {table column : String} {op : FilterOp} {value : Json.Value}
    (hop : op ∈ [.eq, .neq, .gt, .lt, .gte, .lte, .like]) (hvalue : value.isLiteral = true) :
    HoldsLiterals ⟨table, column, op, value⟩
  | isIn {table column : String} {values : List Json.Value} (hne : values ≠ [])
    (hvalues : ∀ v ∈ values, v.isLiteral = true ∧ v.isPlain = true) :
    HoldsLiterals ⟨table, column, .isIn, .array values⟩

/-- The condition with what its literals are read as. -/
def Condition.reread (c : Condition) : Condition :=
  match c.value with
  | .array vs => { c with value := .array (vs.map Json.Value.reread) }
  | v => { c with value := v.reread }

/-! ### Literals -/

private theorem numberValue_reread {n : Int} (hn : -(2 ^ 63) ≤ n ∧ n < 2 ^ 64) :
    numberValue? (Json.integerText n) = some (Json.Value.number (.integer n)).reread := by
  rw [Json.Value.reread]
  by_cases hsigned : n < 2 ^ 63
  · rw [if_pos hsigned, numberValue_integerText ⟨hn.1, hsigned⟩]
  · have hnot : ¬ (-(2 ^ 63) ≤ n ∧ n < 2 ^ 63) := fun h => hsigned h.2
    have htext : (Json.integerText n).toList = Nat.toDigits 10 n.natAbs := by
      have hpositive : ¬ n < 0 := by omega
      simp [Json.integerText, hpositive]
    obtain ⟨k, e, hfloat, -⟩ := ofNat_close (n := n.natAbs) (by omega) (by omega)
    have hdigits := binary_toDigits (n := n.natAbs) (by omega) (by omega)
    rw [if_neg hsigned, numberValue?, int_integerText, htext, hdigits, hfloat]
    exact if_neg hnot

/-- A literal is read as what its value is read as. -/
theorem literalValue_reread {v : Json.Value} (h : v.isLiteral = true) :
    literalValue? (valueExpr v) = some v.reread := by
  cases v with
  | number n =>
    cases n with
    | integer n =>
      rw [literalValue_integer]
      exact numberValue_reread (by simpa [Json.Value.isLiteral] using h)
    | float x => cases h
  | array items => cases h
  | object members => cases h
  | _ => rfl

theorem isPlain_reread {v : Json.Value} (h : v.isPlain = true) : v.reread.isPlain = true := by
  cases v with
  | number n =>
    cases n with
    | integer n =>
      rw [Json.Value.reread]
      split
      · rfl
      · cases Binary.ofNat n.natAbs <;> rfl
    | float x => rfl
  | null => rfl
  | bool b => rfl
  | _ => cases h

/-- A member of a list that is no string is read as a literal. -/
theorem memberValue_reread {v : Json.Value} (h : v.isLiteral = true) (hplain : v.isPlain = true) :
    memberValue? (valueExpr (readMember v)) = some v.reread := by
  rw [readMember_of_isPlain hplain, memberValue?, literalValue_reread h, Option.map_some]
  have hreread := isPlain_reread hplain
  cases hv : v.reread with
  | string s => rw [hv] at hreread; cases hreread
  | _ => rfl

/-- An integer that has 64 bits only without a sign is read as a floating point number at most 1024 away. -/
theorem reread_large {n : Int} (hlow : 2 ^ 63 ≤ n) (hhigh : n < 2 ^ 64) :
    ∃ k e : Nat, (Json.Value.integer n).reread = .number (.float ⟨false, k, e⟩) ∧
      (k * 2 ^ e : Nat) ≤ n + 2 ^ 10 ∧ n ≤ (k * 2 ^ e : Nat) + 2 ^ 10 := by
  obtain ⟨k, e, hfloat, hbelow, habove⟩ := ofNat_close (n := n.natAbs) (by omega) (by omega)
  have hsigned : ¬ n < 2 ^ 63 := by omega
  refine ⟨k, e, ?_, by omega, by omega⟩
  rw [Json.Value.integer, Json.Value.reread, if_neg hsigned, hfloat]
  rfl

theorem Json.Value.reread_eq_self_iff {v : Json.Value} (h : v.isLiteral = true) :
    v.reread = v ↔ ∀ n, v = .integer n → n < 2 ^ 63 := by
  constructor
  · rintro hsame n rfl
    by_contra hlarge
    obtain ⟨-, hhigh⟩ : -(2 ^ 63) ≤ n ∧ n < 2 ^ 64 := by simpa [Json.Value.isLiteral, Json.Value.integer] using h
    obtain ⟨k, e, hfloat, -⟩ := reread_large (by omega) hhigh
    rw [hfloat] at hsame
    cases hsame
  · intro hsigned
    cases v with
    | number n =>
      cases n with
      | integer n => exact if_pos (hsigned n rfl)
      | float x => rfl
    | _ => rfl

/-! ### The condition -/

namespace Condition

variable {c : Condition}

private theorem isScalar_of_isLiteral {v : Json.Value} (h : v.isLiteral = true) : isScalar v = true := by
  cases v with
  | array items => cases h
  | object members => cases h
  | _ => rfl

private theorem members_of_isLiteral {v : Json.Value} (h : v.isLiteral = true) : v.members = [v] := by
  cases v with
  | array items => cases h
  | _ => rfl

private theorem isIn_ne_of_mem {op : FilterOp} (h : op ∈ [.eq, .neq, .gt, .lt, .gte, .lte, .like]) : op ≠ .isIn := by
  rintro rfl
  revert h
  decide

theorem HoldsLiterals.legible (h : c.HoldsLiterals) : c.Legible := by
  cases h with
  | compare hop hvalue => exact ⟨fun _ => isScalar_of_isLiteral hvalue, fun hlist => absurd hlist (isIn_ne_of_mem hop)⟩
  | isIn _ hvalues => exact ⟨nofun, fun _ v hv => Or.inl (hvalues v hv).2⟩

theorem HoldsLiterals.isLiteral_of_mem (h : c.HoldsLiterals) {v : Json.Value} (hv : v ∈ c.value.members) :
    v.isLiteral = true := by
  cases h with
  | compare hop hvalue =>
    rw [members_of_isLiteral hvalue, List.mem_singleton] at hv
    exact hv ▸ hvalue
  | isIn hne hvalues => exact (hvalues v hv).1

/-- The literals of the condition are read one by one. -/
theorem HoldsLiterals.literals (h : c.HoldsLiterals) :
    (c.operator.comparison?.isSome → literalValue? (valueExpr c.value) = some c.value.reread) ∧
      (c.operator = .isIn → ∀ v ∈ c.value.members, memberValue? (valueExpr (readMember v)) = some v.reread) := by
  cases h with
  | compare hop hvalue =>
    exact ⟨fun _ => literalValue_reread hvalue, fun hlist => absurd hlist (isIn_ne_of_mem hop)⟩
  | isIn _ hvalues =>
    exact ⟨nofun, fun _ v hv => memberValue_reread (hvalues v hv).1 (hvalues v hv).2⟩

private theorem reread_of_isLiteral {table column : String} {op : FilterOp} {value : Json.Value}
    (h : value.isLiteral = true) : reread ⟨table, column, op, value⟩ = ⟨table, column, op, value.reread⟩ := by
  cases value with
  | array items => cases h
  | _ => rfl

theorem HoldsLiterals.readAs_reread (h : c.HoldsLiterals) : c.readAs Json.Value.reread = c.reread := by
  cases h with
  | compare hop hvalue =>
    rw [reread_of_isLiteral hvalue]
    simp only [List.mem_cons, List.not_mem_nil, or_false] at hop
    rcases hop with rfl | rfl | rfl | rfl | rfl | rfl | rfl <;> rfl
  | isIn hne hvalues => rfl

/-- A condition with literals is written. -/
theorem HoldsLiterals.exists_expr (h : c.HoldsLiterals) (place : Nat) : ∃ e, conditionExpr? place c = some e := by
  cases h with
  | compare hop hvalue =>
    simp only [List.mem_cons, List.not_mem_nil, or_false] at hop
    rcases hop with rfl | rfl | rfl | rfl | rfl | rfl | rfl <;> exact ⟨_, rfl⟩
  | isIn hne hvalues => exact ⟨_, if_neg (by simpa [Json.Value.members] using hne)⟩

/-- The condition comes back as it was when its integers have 64 bits with their signs. -/
theorem HoldsLiterals.reread_eq_self_iff (h : c.HoldsLiterals) :
    c.reread = c ↔ ∀ v ∈ c.value.members, ∀ n, v = .integer n → n < 2 ^ 63 := by
  cases h with
  | @compare table column op value hop hvalue =>
    simp only [reread_of_isLiteral hvalue, Condition.mk.injEq, true_and, Json.Value.reread_eq_self_iff hvalue,
      members_of_isLiteral hvalue, List.mem_singleton, forall_eq]
  | @isIn table column values hne hvalues =>
    have hmap : values.map Json.Value.reread = values ↔ ∀ v ∈ values, v.reread = v := by
      constructor
      · intro h v hv
        exact List.map_inj_left.1 (h.trans (List.map_id values).symm) v hv
      · intro h
        exact (List.map_congr_left h).trans (List.map_id values)
    simp only [reread, Condition.mk.injEq, true_and, Json.Value.array.injEq, hmap, Json.Value.members]
    exact forall₂_congr fun v hv => Json.Value.reread_eq_self_iff (hvalues v hv).1

theorem reread_keeps (c : Condition) :
    c.reread.table = c.table ∧ c.reread.column = c.column ∧ c.reread.operator = c.operator := by
  unfold reread
  split <;> exact ⟨rfl, rfl, rfl⟩

end Condition

/-- What is read of the compiled query of a canvas with one condition. -/
theorem ofSql_sole {m : Model} {c : Condition} (hfilters : m.filters = .conditions [c])
    (hfree : AliasesFree m.tables) (htable : c.table ∈ m.tables.map (·.id)) (hc : c.HoldsLiterals) :
    ∃ compiled y, m.compile? = some compiled ∧ Sync.ofSql compiled.sql m = .ok y ∧ y.unsupported = [] ∧
      y.filtersComplete = true ∧ y.conditions = [c.reread] := by
  have hlist : m.filters.list = [c] := by rw [hfilters]; rfl
  have hmanual : m.filters.manual? = none := by rw [hfilters]; rfl
  have hm : m.tables ≠ [] := by
    intro h
    rw [h] at htable
    cases htable
  have hlegible : ∀ d ∈ m.filters.list, d.Legible := by
    intro d hd
    rw [hlist, List.mem_singleton] at hd
    exact hd ▸ hc.legible
  obtain ⟨⟨place, t⟩, hfind⟩ := Option.isSome_iff_exists.1 ((isSome_findTable_iff m.tables c.table).2 htable)
  obtain ⟨e, he⟩ := hc.exists_expr place
  have hexprs : conditionExprs m.tables m.filters.list = [e] := by
    have hwritten : conditionOf? m.tables c = some e := by rw [conditionOf?, hfind, Option.bind_some, he]
    rw [hlist, conditionExprs, List.filterMap_cons_some hwritten, List.filterMap_nil]
  have hleads : leadsTo m.tables m.edges c.table = c.table := by
    obtain ⟨base, others, htables⟩ := List.exists_cons_of_ne_nil hm
    rw [htables] at hfree htable ⊢
    exact leadsTo_of_free hfree htable
  have htable' : c.reread.on c.table = c.reread := by
    unfold Condition.reread
    split <;> rfl
  have hrecorded : ∀ s : Scope, s.Leads m.tables (leadsTo m.tables m.edges) → ∀ y : Sync,
      (conditionExprs m.tables m.filters.list).foldl (Sync.addConjunct s) y =
        { y with conditions := y.conditions ++ [c.reread] } := by
    intro s hs y
    have hcondition := condition_readAs hs hc.literals.1 hc.literals.2 hfind he
    rw [hc.readAs_reread, hleads, htable'] at hcondition
    rw [hexprs, List.foldl_cons, List.foldl_nil, Sync.addConjunct, hcondition]
  obtain ⟨compiled, hcompiled, hread⟩ := read_legible hmanual hm hlegible
  have hsync : Sync.ofSql compiled.sql m =
      .ok { Sync.ofCanvasThrough (leadsTo m.tables m.edges) m with conditions := [c.reread] } :=
    Sync.ofText_eq_ok_iff.2 ⟨_, _, hread, rfl, ofSelect_recorded hm hlegible hrecorded⟩
  exact ⟨compiled, _, hcompiled, hsync, rfl, rfl, rfl⟩

/-- The only condition of a canvas, when its values are null, truth values, strings or integers of 64 bits, comes back
from the compiled query on the same column and with the same operator.  Its value is the same exactly when no integer in
it needs all 64 bits without a sign; such an integer comes back as a floating point number that may be 1024 away, and
nothing is reported. -/
theorem sync_sole_condition {m : Model} {c : Condition} (hfilters : m.filters = .conditions [c])
    (hfree : AliasesFree m.tables) (htable : c.table ∈ m.tables.map (·.id)) (hc : c.HoldsLiterals) :
    ∃ compiled y, m.compile? = some compiled ∧ Sync.ofSql compiled.sql m = .ok y ∧ y.unsupported = [] ∧
      y.filtersComplete = true ∧ y.conditions = [c.reread] ∧
      (c.reread.table = c.table ∧ c.reread.column = c.column ∧ c.reread.operator = c.operator) ∧
      (c.reread = c ↔ ∀ v ∈ c.value.members, ∀ n, v = .integer n → n < 2 ^ 63) ∧
      ∀ n : Int, .integer n ∈ c.value.members → 2 ^ 63 ≤ n →
        ∃ k e : Nat, (Json.Value.integer n).reread = .number (.float ⟨false, k, e⟩) ∧
          (k * 2 ^ e : Nat) ≤ n + 2 ^ 10 ∧ n ≤ (k * 2 ^ e : Nat) + 2 ^ 10 := by
  obtain ⟨compiled, y, hcompiled, hy, hunsupported, hcomplete, hconditions⟩ := ofSql_sole hfilters hfree htable hc
  refine ⟨compiled, y, hcompiled, hy, hunsupported, hcomplete, hconditions, c.reread_keeps, hc.reread_eq_self_iff,
    fun n hn hlow => ?_⟩
  have hliteral := hc.isLiteral_of_mem hn
  obtain ⟨-, hhigh⟩ : -(2 ^ 63) ≤ n ∧ n < 2 ^ 64 := by simpa [Json.Value.isLiteral, Json.Value.integer] using hliteral
  exact reread_large hlow hhigh

/-- A condition with an integer that has 64 bits only without a sign. -/
def largeKey : Condition :=
  ⟨"a", "id", .eq, .integer 9223372036854775809⟩

/-- A model with that condition. -/
def largeKeyModel : Model where
  id := "m"
  tables := [{ id := "a", name := "orders" }]
  filters := .conditions [largeKey]

theorem aliasesFree_largeKeyModel : AliasesFree largeKeyModel.tables := by
  intro i j t ht hj hne
  have hi := (List.getElem?_eq_some_iff.1 ht).1
  have hlength : largeKeyModel.tables.length = 1 := rfl
  omega

theorem holdsLiterals_largeKey : largeKey.HoldsLiterals :=
  .compare (by decide) (by decide)

/-- The theorem at that model. -/
theorem sync_sole_condition_largeKey : largeKeyModel.filters = .conditions [largeKey] ∧
    AliasesFree largeKeyModel.tables ∧ largeKey.table ∈ largeKeyModel.tables.map (·.id) ∧ largeKey.HoldsLiterals ∧
    ∃ compiled y, largeKeyModel.compile? = some compiled ∧ Sync.ofSql compiled.sql largeKeyModel = .ok y ∧
      y.unsupported = [] ∧ y.filtersComplete = true ∧ y.conditions = [largeKey.reread] ∧
      (largeKey.reread.table = largeKey.table ∧ largeKey.reread.column = largeKey.column ∧
        largeKey.reread.operator = largeKey.operator) ∧
      (largeKey.reread = largeKey ↔ ∀ v ∈ largeKey.value.members, ∀ n, v = .integer n → n < 2 ^ 63) ∧
      ∀ n : Int, .integer n ∈ largeKey.value.members → 2 ^ 63 ≤ n →
        ∃ k e : Nat, (Json.Value.integer n).reread = .number (.float ⟨false, k, e⟩) ∧
          (k * 2 ^ e : Nat) ≤ n + 2 ^ 10 ∧ n ≤ (k * 2 ^ e : Nat) + 2 ^ 10 := by
  have htable : largeKey.table ∈ largeKeyModel.tables.map (·.id) := by decide
  exact ⟨rfl, aliasesFree_largeKeyModel, htable, holdsLiterals_largeKey,
    sync_sole_condition rfl aliasesFree_largeKeyModel htable holdsLiterals_largeKey⟩

/-- The integer comes back as a floating point number, one less than it was, and the conditions count as read. -/
theorem sync_largeKey : ∃ compiled y, largeKeyModel.compile? = some compiled ∧
    Sync.ofSql compiled.sql largeKeyModel = .ok y ∧ y.unsupported = [] ∧ y.filtersComplete = true ∧
    y.conditions = [⟨"a", "id", .eq, .number (.float ⟨false, 2 ^ 52, 11⟩)⟩] ∧
    (2 ^ 52 * 2 ^ 11 : Int) = 9223372036854775809 - 1 := by
  obtain ⟨compiled, y, hcompiled, hy, hunsupported, hcomplete, hconditions⟩ :=
    ofSql_sole rfl aliasesFree_largeKeyModel (c := largeKey) (by decide) holdsLiterals_largeKey
  have hfloat : Binary.ofNat 9223372036854775809 = some ⟨false, 2 ^ 52, 11⟩ := by decide +kernel
  refine ⟨compiled, y, hcompiled, hy, hunsupported, hcomplete, ?_, by decide⟩
  have hlarge : ¬ (9223372036854775809 : Int) < 2 ^ 63 := by decide
  rw [hconditions]
  show [Condition.mk "a" "id" .eq (Json.Value.number (.integer 9223372036854775809)).reread] = _
  rw [Json.Value.reread, if_neg hlarge]
  show [Condition.mk "a" "id" .eq (((Binary.ofNat 9223372036854775809).map fun x => Json.Value.number (.float x)).getD
    .null)] = _
  rw [hfloat]
  rfl

end JoinCanvas
