import JoinCanvas.Proofs.Statement.Parsing

/-!
# Expressions of a compiled query

Columns, aggregates, literals and conditions are read back from their tokens.  An expression ends where a token
follows that is no operator; a conjunction is read from the left.

* `wildcardOr_column`, `wildcardOr_call`: what is selected; `expr_value`: what a column is compared with.
* `expr_conjoined`: conditions that all must hold.
-/

namespace JoinCanvas.Statement

open JoinCanvas.Text

variable {ts rest : List Token}

/-! ### What a word does not begin -/

/-- The words that begin a type of the language. -/
def typeNames : List String :=
  DataType.plainNames ++ "DOUBLE" :: DataType.sizedNames ++ DataType.textNames ++ DataType.exactNames ++
    DataType.listedNames ++ ["ARRAY"]

/-- A name that is none of the known types begins a type of its own. -/
private theorem single_custom {inner : Parser (String × Bool × Bool)} {t : Token}
    (h : Parser.keywordOf (some t) ∉ typeNames) {r : String × Bool × Bool}
    (hr : DataType.single inner (t :: ts) = some (r, rest)) : r.2.1 = true := by
  have hk : ∀ l ⊆ typeNames, ¬ l.contains (Parser.keywordOf (some t)) = true := fun l hl hc =>
    h (hl (by simpa using hc))
  have hne : ∀ k ∈ typeNames, ¬ Parser.keywordOf (some t) = k := fun k hk he => h (he ▸ hk)
  have hpeek : Parser.peekKeyword (t :: ts) = some (Parser.keywordOf (some t), t :: ts) := rfl
  rw [DataType.single, Parser.bind_eq hpeek, if_neg (hk _ (by decide)), if_neg (hne _ (by decide)),
    if_neg (hk _ (by decide)), if_neg (hk _ (by decide)), if_neg (hk _ (by decide)), if_neg (hk _ (by decide)),
    if_neg (hne _ (by decide))] at hr
  obtain ⟨name, us, -, hr⟩ := Parser.bind_eq_some_iff.1 hr
  obtain ⟨opened, vs, -, hr⟩ := Parser.bind_eq_some_iff.1 hr
  cases opened with
  | false =>
    obtain ⟨rfl, -⟩ := by simpa [Parser.pure_apply] using hr
    rfl
  | true =>
    obtain ⟨ms, ws, -, hr⟩ := Parser.bind_eq_some_iff.1 hr
    obtain ⟨-, xs, -, hr⟩ := Parser.bind_eq_some_iff.1 hr
    obtain ⟨rfl, -⟩ := by simpa [Parser.pure_apply] using hr
    rfl

private theorem read_custom {n : Nat} {t : Token} (h : Parser.keywordOf (some t) ∉ typeNames)
    {r : String × Bool × Bool} (hr : DataType.read n (t :: ts) = some (r, rest)) : r.2.1 = true := by
  cases n with
  | zero => simp [DataType.read, Parser.fail] at hr
  | succ n =>
    obtain ⟨⟨type, own, owed⟩, us, hsingle, hr⟩ := Parser.bind_eq_some_iff.1 hr
    obtain ⟨size, vs, -, hr⟩ := Parser.bind_eq_some_iff.1 hr
    obtain ⟨brackets, ws, -, hr⟩ := Parser.bind_eq_some_iff.1 hr
    obtain ⟨rfl, -⟩ := Prod.mk.inj (Option.some.inj hr)
    have hown := single_custom h hsingle
    exact hown

theorem typedString_eq_none {t : Token} (h : Parser.keywordOf (some t) ∉ typeNames) :
    ExprGrammar.typedString (t :: ts) = none := by
  cases hs : ExprGrammar.typedString (t :: ts) with
  | none => rfl
  | some x =>
    obtain ⟨⟨text, custom⟩, us, hd, hs⟩ := Parser.bind_eq_some_iff.1 hs
    obtain ⟨n, vs, hsize, hd⟩ := Parser.bind_eq_some_iff.1 hd
    obtain ⟨rfl, rfl⟩ : n = (t :: ts).length ∧ vs = t :: ts := by simpa [Parser.size, eq_comm] using hsize
    obtain ⟨⟨name, own, owed⟩, ws, hr, hd⟩ := Parser.bind_eq_some_iff.1 hd
    -- no string may stand behind a type of its own
    obtain rfl : own = true := read_custom h hr
    cases owed with
    | true => simp [Parser.fail] at hd
    | false =>
      obtain ⟨⟨-, rfl⟩, -⟩ := by simpa [Parser.pure_apply] using hd
      simp [Parser.fail] at hs

/-- The words that begin an expression of their own kind. -/
def specialNames : List String :=
  ["TRUE", "FALSE", "NULL", "CASE", "CONVERT", "CAST", "TRY_CAST", "SAFE_CAST", "EXTRACT", "CEIL", "FLOOR",
    "SUBSTRING", "OVERLAY", "TRIM", "INTERVAL", "STRUCT", "POSITION", "EXISTS", "ARRAY", "NOT", "CURRENT_TIMESTAMP",
    "CURRENT_TIME", "CURRENT_DATE", "LOCALTIME", "LOCALTIMESTAMP"]

theorem special_eq_none {k : String} (hk : k ∉ specialNames) (inner : Level) (i : Ident) (ts : List Token) :
    ExprGrammar.special inner k i ts = some (none, ts) := by
  have hne : ∀ w ∈ specialNames, k ≠ w := fun w hw he => hk (he ▸ hw)
  unfold ExprGrammar.special
  split
  all_goals first
    | exact absurd rfl (hne _ (by decide))
    | skip
  rw [if_neg]
  · rfl
  · intro hc
    exact hk ((by decide : _ ⊆ specialNames) (List.mem_of_elem_eq_true hc))

/-- A word without a meaning of its own is a name. -/
theorem worded_named {i : Ident} (hk : (if i.quote.isNone then uppered i.value else "") ∉ specialNames)
    (inner : Level) (ts : List Token) : ExprGrammar.worded inner i ts = ExprGrammar.named inner i ts := by
  simp only [ExprGrammar.worded, special_eq_none hk]

theorem operand_word {inner : Level} {text : String} {quote : Option Char} {e : Expr}
    (hk : Parser.keywordOf (some (.word text quote)) ∉ typeNames)
    (he : ExprGrammar.worded inner ⟨text, quote⟩ ts = some (e, rest))
    (hrest : Next (fun t => Parser.isKeyword "COLLATE" t = false) rest) :
    ExprGrammar.operand inner (.word text quote :: ts) = some (e, rest) := by
  have hnext : Parser.next (.word text quote :: ts) = some (.word text quote, ts) := rfl
  rw [ExprGrammar.operand, Parser.bind_eq (Parser.attempt_none (typedString_eq_none hk))]
  simp only
  rw [Parser.bind_eq hnext]
  simp only
  rw [Parser.bind_eq he, Parser.bind_eq (hrest.keyword fun _ ht => ht)]
  rfl

private theorem typedString_of_empty {t : Token} (h : Parser.keywordOf (some t) = "") :
    ExprGrammar.typedString (t :: ts) = none :=
  typedString_eq_none (h ▸ by decide)

/-- A number or a string is read as its literal. -/
theorem operand_literalOf {inner : Level} {t : Token} {l : Literal}
    (ht : (∃ text long, t = .number text long) ∨ ∃ s, t = .string .single s)
    (hl : ExprGrammar.literalOf t rest = some (l, rest))
    (hrest : Next (fun t => Parser.isKeyword "COLLATE" t = false) rest) :
    ExprGrammar.operand inner (t :: rest) = some (.literal l, rest) := by
  have hnext : Parser.next (t :: rest) = some (t, rest) := rfl
  rcases ht with ⟨text, long, rfl⟩ | ⟨s, rfl⟩
  all_goals
    rw [ExprGrammar.operand, Parser.bind_eq (Parser.attempt_none (typedString_of_empty rfl))]
    simp only
    rw [Parser.bind_eq hnext]
    simp only
    rw [Parser.bind_eq hl, Parser.bind_eq (Parser.pure_apply _), Parser.bind_eq (hrest.keyword fun _ ht => ht)]
    rfl

theorem operand_number {inner : Level} {text : String} {long : Bool}
    (hrest : Next (fun t => Parser.isKeyword "COLLATE" t = false) rest) :
    ExprGrammar.operand inner (.number text long :: rest) = some (.literal (.number text long), rest) :=
  operand_literalOf (Or.inl ⟨text, long, rfl⟩) rfl hrest

theorem operand_string {inner : Level} {s : String}
    (hrest : Next (fun t => Parser.isKeyword "COLLATE" t = false) rest) :
    ExprGrammar.operand inner (.string .single s :: rest) = some (.literal (.single s), rest) :=
  operand_literalOf (Or.inr ⟨s, rfl⟩) rfl hrest

theorem operand_minus {inner : Level} {e : Expr} (he : inner.expr Binding.times ts = some (e, rest))
    (hrest : Next (fun t => Parser.isKeyword "COLLATE" t = false) rest) :
    ExprGrammar.operand inner (.sign "-" :: ts) = some (.unary "-" e, rest) := by
  have hnext : Parser.next (.sign "-" :: ts) = some (.sign "-", ts) := rfl
  rw [ExprGrammar.operand, Parser.bind_eq (Parser.attempt_none (typedString_of_empty rfl))]
  simp only
  rw [Parser.bind_eq hnext]
  simp only
  rw [Parser.bind_eq he, Parser.bind_eq (Parser.pure_apply _), Parser.bind_eq (hrest.keyword fun _ ht => ht)]
  rfl

/-! ### Where expressions end -/

/-- An operator or something else that may stand behind a column or a value in a compiled query. -/
def AfterOperand (t : Token) : Prop :=
  t ∈ [.sign ")", .sign ",", .sign "=", .sign "!=", .sign ">", .sign ">=", .sign "<", .sign "<=", .word "IS" none,
    .word "IN" none, .word "LIKE" none, .word "AND" none, .word "AS" none, .word "FROM" none, .word "LEFT" none,
    .word "RIGHT" none, .word "INNER" none, .word "FULL" none, .word "CROSS" none, .word "WHERE" none,
    .word "GROUP" none]

instance : DecidablePred AfterOperand := fun t => inferInstanceAs (Decidable (t ∈ _))

/-- What may stand behind a condition in a compiled query. -/
def AfterCondition (t : Token) : Prop :=
  t ∈ [.sign ")", .sign ",", .word "AND" none, .word "AS" none, .word "FROM" none, .word "LEFT" none,
    .word "RIGHT" none, .word "INNER" none, .word "FULL" none, .word "CROSS" none, .word "WHERE" none,
    .word "GROUP" none]

instance : DecidablePred AfterCondition := fun t => inferInstanceAs (Decidable (t ∈ _))

/-- What may stand behind an expression in a compiled query. -/
def AfterExpr (t : Token) : Prop :=
  AfterCondition t ∧ t ≠ .word "AND" none

instance : DecidablePred AfterExpr := fun t => inferInstanceAs (Decidable (_ ∧ t ≠ _))

theorem AfterCondition.afterOperand {t : Token} (h : AfterCondition t) : AfterOperand t := by
  revert t
  unfold AfterCondition AfterOperand
  decide

/-- No word that goes on with a column or a call stands behind it. -/
theorem AfterOperand.not_keyword {t : Token} (h : AfterOperand t) :
    ∀ k ∈ ["COLLATE", "WITHIN", "FILTER", "RESPECT", "IGNORE", "OVER"], Parser.isKeyword k t = false := by
  revert t
  unfold AfterOperand
  decide

/-- Nothing that may stand behind a condition binds tighter than `AND`, and only `AND` binds at all. -/
theorem binding_of_after {t : Token} (h : AfterCondition t) :
    ExprGrammar.binding (t :: ts) = if t = .word "AND" none then Binding.and else 0 := by
  have hupper : ∀ w ∈ ["AND", "AS", "FROM", "LEFT", "RIGHT", "INNER", "FULL", "CROSS", "WHERE", "GROUP"],
      uppered w = w := by decide
  simp only [AfterCondition, List.mem_cons, List.not_mem_nil, or_false] at h
  rcases h with rfl | rfl | rfl | rfl | rfl | rfl | rfl | rfl | rfl | rfl | rfl | rfl <;>
    simp [ExprGrammar.binding, ExprGrammar.signOperators, Parser.keywordOf, ExprGrammar.keywordBinding,
      ExprGrammar.patternWords, hupper]

theorem AfterOperand.ne_sign {t : Token} (h : AfterOperand t) : ∀ mark ∈ [".", "("], t ≠ .sign mark := by
  revert t
  unfold AfterOperand
  decide

theorem operators_stop {inner : Level} {prec : Nat} (e : Expr) (h : ExprGrammar.binding rest ≤ prec) (n : Nat) :
    ExprGrammar.operators inner prec n e rest = some (e, rest) := by
  cases n with
  | zero => rfl
  | succ n =>
    have hnext : ExprGrammar.nextBinding rest = some (ExprGrammar.binding rest, rest) := rfl
    rw [ExprGrammar.operators, Parser.bind_eq hnext, if_pos h]
    rfl

theorem binding_le {prec : Nat} (hand : Next AfterCondition rest) (hprec : Binding.and ≤ prec) :
    ExprGrammar.binding rest ≤ prec := by
  cases rest with
  | nil => exact Nat.zero_le _
  | cons t ts =>
    rw [binding_of_after (hand t rfl)]
    split
    · exact hprec
    · exact Nat.zero_le _

theorem binding_eq_zero (h : Next AfterExpr rest) : ExprGrammar.binding rest = 0 := by
  cases rest with
  | nil => rfl
  | cons t ts => rw [binding_of_after (h t rfl).1, if_neg (h t rfl).2]

end JoinCanvas.Statement

namespace JoinCanvas.Skeleton

open JoinCanvas.Statement JoinCanvas.Text

variable {rest : List Token} {inner : Level}

/-! ### Columns and aggregates -/

/-- A column of the table at a place, as it is read. -/
def columnExpr (place : Nat) (column : String) : Statement.Expr :=
  .name [⟨tableAlias place, none⟩, ⟨column, some '\x60'⟩]

theorem uppered_tableAlias_notMem {ks : List String} (hks : ∀ k ∈ ks, ∀ c ∈ k.toList[1]?, c.isDigit = false)
    (place : Nat) : uppered (tableAlias place) ∉ ks :=
  fun h => uppered_tableAlias_ne (hks _ h) place rfl

private theorem named_column (i : Ident) (column : String) (h : Next AfterOperand rest) :
    ExprGrammar.named inner i (.sign "." :: name column :: rest) = some (.name [i, ⟨column, some '\x60'⟩], rest) := by
  have hpeek : Parser.peek? (.sign "." :: name column :: rest) =
      some (some (.sign "."), .sign "." :: name column :: rest) := rfl
  have hnext : Parser.next (name column :: rest) = some (name column, rest) := rfl
  have hend : ExprGrammar.furtherParts (rest.length + 1) rest = some ([], rest) := by
    rw [ExprGrammar.furtherParts, Parser.bind_eq (h.sign fun _ ht => ht.ne_sign _ (by decide))]
    rfl
  have hparts : ExprGrammar.furtherParts (Token.sign "." :: name column :: rest).length
      (.sign "." :: name column :: rest) = some ([⟨column, some '\x60'⟩], rest) := by
    rw [List.length_cons, List.length_cons, ExprGrammar.furtherParts, Parser.bind_eq Parser.sign_cons, if_pos rfl,
      Parser.bind_eq hnext]
    simp only [name]
    rw [Parser.bind_eq hend]
    rfl
  rw [ExprGrammar.named, Parser.bind_eq hpeek]
  simp only
  rw [Parser.bind_eq (Parser.size_apply _), Parser.bind_eq hparts,
    Parser.bind_eq (h.sign fun _ ht => ht.ne_sign _ (by decide))]
  rfl

/-- A column is read from its tokens. -/
theorem operand_column (place : Nat) (n : String) (h : Next AfterOperand rest) :
    ExprGrammar.operand inner (column (tableAlias place) n ++ rest) = some (columnExpr place n, rest) := by
  have hspecial : uppered (tableAlias place) ∉ specialNames := uppered_tableAlias_notMem (by decide) place
  have htype : uppered (tableAlias place) ∉ typeNames := uppered_tableAlias_notMem (by decide) place
  have hworded := worded_named (i := ⟨tableAlias place, none⟩) (by simpa using hspecial) inner
    (.sign "." :: name n :: rest)
  rw [named_column _ _ h] at hworded
  exact operand_word htype hworded (h.mono fun _ ht => ht.not_keyword _ (by decide))

/-- A column in front of what ends an expression. -/
theorem expr_column (place : Nat) (n : String) {prec : Nat} (h : Next AfterOperand rest)
    (hprec : ExprGrammar.binding rest ≤ prec) :
    ExprGrammar.expr inner prec (column (tableAlias place) n ++ rest) = some (columnExpr place n, rest) := by
  rw [ExprGrammar.expr, Parser.bind_eq (operand_column place n h), Parser.bind_eq (Parser.size_apply _)]
  exact operators_stop _ hprec _

private theorem expect_fail {mark : String} {ts : List Token} (h : Next (· ≠ .sign mark) ts) :
    Parser.expect mark ts = none := by
  rw [Parser.expect, Parser.bind_eq (h.sign fun _ ht => ht)]
  rfl

/-- A column is no qualified wildcard. -/
private theorem qualifiedWildcard_column (place : Nat) (n : String) (h : Next AfterOperand rest) :
    ExprGrammar.qualifiedWildcard (column (tableAlias place) n ++ rest) = none := by
  have hident : Parser.ident (column (tableAlias place) n ++ rest) =
      some (⟨tableAlias place, none⟩, .sign "." :: name n :: rest) := rfl
  have hname : Parser.ident (name n :: rest) = some (⟨n, some '\x60'⟩, rest) := rfl
  have hstar : Parser.sign "*" (name n :: rest) = some (false, name n :: rest) := rfl
  have hend : ∀ k, ExprGrammar.qualifiedWildcard.parts k rest = none := by
    intro k
    cases k with
    | zero => rfl
    | succ k =>
      rw [ExprGrammar.qualifiedWildcard.parts]
      exact Parser.bind_eq_none (expect_fail (h.mono fun _ ht => ht.ne_sign _ (by decide)))
  have hparts : ∀ k, ExprGrammar.qualifiedWildcard.parts k (.sign "." :: name n :: rest) = none := by
    intro k
    cases k with
    | zero => rfl
    | succ k =>
      rw [ExprGrammar.qualifiedWildcard.parts, Parser.bind_eq Parser.expect_cons, Parser.bind_eq hstar,
        if_neg Bool.false_ne_true, Parser.bind_eq hname]
      exact Parser.bind_eq_none (hend k)
  rw [ExprGrammar.qualifiedWildcard, Parser.bind_eq hident, Parser.bind_eq (Parser.size_apply _)]
  exact Parser.bind_eq_none (hparts _)

/-- A column is selected as an expression. -/
theorem wildcardOr_column (place : Nat) (n : String) (h : Next AfterExpr rest) :
    ExprGrammar.wildcardOr inner.above (column (tableAlias place) n ++ rest) =
      some (.plain (columnExpr place n), rest) := by
  have hafter : Next AfterOperand rest := h.mono fun _ ht => ht.1.afterOperand
  have hstar : Parser.sign "*" (column (tableAlias place) n ++ rest) =
      some (false, column (tableAlias place) n ++ rest) := rfl
  have hexpr : inner.above.expr 0 (column (tableAlias place) n ++ rest) = some (columnExpr place n, rest) :=
    expr_column place n hafter (Nat.le_of_eq (binding_eq_zero h))
  rw [ExprGrammar.wildcardOr, Parser.bind_eq hstar, if_neg Bool.false_ne_true,
    Parser.bind_eq (Parser.attempt_none (qualifiedWildcard_column place n hafter))]
  simp only
  rw [Parser.bind_eq hexpr]
  rfl

/-- The arguments of an aggregate. -/
private theorem arguments_column (place : Nat) (n : String) :
    ExprGrammar.arguments inner.above (column (tableAlias place) n ++ .sign ")" :: rest) =
      some (("", [.plain (columnExpr place n)], ""), rest) := by
  have hclose : Next AfterExpr (.sign ")" :: rest) := Next.cons (by decide)
  have hstart : ∀ {k}, (∀ c ∈ k.toList[1]?, c.isDigit = false) →
      Parser.keyword k (column (tableAlias place) n ++ .sign ")" :: rest) =
        some (false, column (tableAlias place) n ++ .sign ")" :: rest) := fun hk =>
    Parser.keyword_miss (isKeyword_tableAlias hk place)
  have hopen : Parser.sign ")" (column (tableAlias place) n ++ .sign ")" :: rest) =
      some (false, column (tableAlias place) n ++ .sign ")" :: rest) := rfl
  have harrow : Parser.expect "=>" (.sign "." :: name n :: .sign ")" :: rest) = none := rfl
  have hident : Parser.ident (column (tableAlias place) n ++ .sign ")" :: rest) =
      some (⟨tableAlias place, none⟩, .sign "." :: name n :: .sign ")" :: rest) := rfl
  -- the argument is tried as a named one first, which fails at the point
  have hargument : ExprGrammar.argument inner.above (column (tableAlias place) n ++ .sign ")" :: rest) =
      some (.plain (columnExpr place n), .sign ")" :: rest) := by
    rw [ExprGrammar.argument, Parser.bind_eq (Parser.attempt_none _)]
    · exact wildcardOr_column place n hclose
    · rw [Parser.bind_eq hident]
      exact Parser.bind_eq_none harrow
  have hlist : Parser.list (ExprGrammar.argument inner.above) (column (tableAlias place) n ++ .sign ")" :: rest) =
      some ([.plain (columnExpr place n)], .sign ")" :: rest) :=
    list_one hargument (Next.cons (by decide))
  have horder : Parser.keywords ["ORDER", "BY"] (.sign ")" :: rest) = some (false, .sign ")" :: rest) := rfl
  have hlimit : Parser.keyword "LIMIT" (.sign ")" :: rest) = some (false, .sign ")" :: rest) := rfl
  have hoverflow : ExprGrammar.onOverflow inner.above (.sign ")" :: rest) = some ("", .sign ")" :: rest) := rfl
  rw [ExprGrammar.arguments, Parser.bind_eq hopen, if_neg Bool.false_ne_true, Parser.bind_eq (hstart (by decide)),
    Parser.bind_eq (hstart (by decide))]
  simp only [Bool.and_false, Bool.false_eq_true, if_false]
  rw [Parser.bind_eq hlist, Parser.bind_eq horder]
  simp only [Bool.false_eq_true, if_false]
  rw [Parser.bind_eq (Parser.pure_apply _), Parser.bind_eq hlimit]
  simp only [Bool.false_eq_true, if_false]
  rw [Parser.bind_eq (Parser.pure_apply _), Parser.bind_eq hoverflow, Parser.bind_eq Parser.expect_cons]
  rfl

private theorem callEnd_nothing (h : Next AfterOperand rest) :
    ExprGrammar.callEnd inner rest = some (("", false), rest) := by
  have hmiss : ∀ k ∈ ["COLLATE", "WITHIN", "FILTER", "RESPECT", "IGNORE", "OVER"], ∀ t, AfterOperand t →
      Parser.isKeyword k t = false := fun k hk t ht => ht.not_keyword k hk
  rw [ExprGrammar.callEnd, Parser.bind_eq (h.keywords (hmiss "WITHIN" (by decide)))]
  simp only [Bool.false_eq_true, if_false]
  rw [Parser.bind_eq (Parser.pure_apply _), Parser.bind_eq (h.keyword (hmiss "FILTER" (by decide)))]
  simp only [Bool.false_eq_true, if_false]
  rw [Parser.bind_eq (Parser.pure_apply _), Parser.bind_eq (h.keywords (hmiss "RESPECT" (by decide))),
    Parser.bind_eq (h.keywords (hmiss "IGNORE" (by decide)))]
  simp only [Bool.false_eq_true, if_false]
  rw [Parser.bind_eq (Parser.pure_apply _), Parser.bind_eq (h.keyword (hmiss "OVER" (by decide)))]
  rfl

/-- The functions of aggregates. -/
def functionNames : List String := ["SUM", "AVG", "MIN", "MAX", "COUNT"]

/-- An aggregate of a column, as it is read. -/
def callExpr (function : String) (place : Nat) (column : String) : Statement.Expr :=
  .call function (columnExpr place column) "" "" false

/-- An aggregate is read from its tokens. -/
theorem operand_call (inner : Level) {f : String} (hf : f ∈ functionNames) (place : Nat) (n : String)
    (h : Next AfterOperand rest) :
    ExprGrammar.operand inner.above (word f :: .sign "(" :: (column (tableAlias place) n ++ .sign ")" :: rest)) =
      some (callExpr f place n, rest) := by
  have hspecial : uppered f ∉ specialNames := by
    revert f
    decide
  have htype : uppered f ∉ typeNames := by
    revert f
    decide
  have hcall : ExprGrammar.call inner.above [⟨f, none⟩] (column (tableAlias place) n ++ .sign ")" :: rest) =
      some (callExpr f place n, rest) := by
    rw [ExprGrammar.call, Parser.bind_eq (arguments_column place n)]
    simp only
    rw [Parser.bind_eq (callEnd_nothing h)]
    rfl
  have hpeek : Parser.peek? (Token.sign "(" :: (column (tableAlias place) n ++ .sign ")" :: rest)) =
      some (some (.sign "("), .sign "(" :: (column (tableAlias place) n ++ .sign ")" :: rest)) := rfl
  refine operand_word htype ?_ (h.mono fun _ ht => ht.not_keyword _ (by decide))
  rw [worded_named (by simpa using hspecial), ExprGrammar.named, Parser.bind_eq hpeek]
  simp only
  rw [Parser.bind_eq Parser.expect_cons, hcall]

/-- An aggregate is selected as an expression. -/
theorem wildcardOr_call {f : String} (hf : f ∈ functionNames) (place : Nat) (n : String) (h : Next AfterExpr rest) :
    ExprGrammar.wildcardOr inner.above.above
        (word f :: .sign "(" :: (column (tableAlias place) n ++ .sign ")" :: rest)) =
      some (.plain (callExpr f place n), rest) := by
  have hstar : ∀ ts, Parser.sign "*" (word f :: ts) = some (false, word f :: ts) := fun _ => rfl
  have hwildcard : ∀ ts, ExprGrammar.qualifiedWildcard (word f :: .sign "(" :: ts) = none := fun _ => rfl
  have hexpr : inner.above.above.expr 0
      (word f :: .sign "(" :: (column (tableAlias place) n ++ .sign ")" :: rest)) =
        some (callExpr f place n, rest) := by
    have hoperand := operand_call inner hf place n (h.mono fun _ ht => ht.1.afterOperand)
    show ExprGrammar.expr inner.above 0 _ = _
    rw [ExprGrammar.expr, Parser.bind_eq hoperand, Parser.bind_eq (Parser.size_apply _)]
    exact operators_stop _ (Nat.le_of_eq (binding_eq_zero h)) _
  rw [ExprGrammar.wildcardOr, Parser.bind_eq (hstar _), if_neg Bool.false_ne_true,
    Parser.bind_eq (Parser.attempt_none (hwildcard _))]
  simp only
  rw [Parser.bind_eq hexpr]
  rfl

/-! ### Values -/

/-- A value of a comparison, as it is read. -/
def valueExpr : Json.Value → Statement.Expr
  | .bool b => .literal (.bool b)
  | .string s => .literal (.single s)
  | .number n =>
    if n.isNegative then .unary "-" (.literal (.number n.magnitude.text false))
    else .literal (.number n.magnitude.text false)
  | _ => .literal .null

/-- Whether a value is written as one literal: it is no list and no object. -/
def isScalar : Json.Value → Bool
  | .array _ | .object _ => false
  | _ => true

private theorem operand_literal {w : String} {l : Literal} (hw : uppered w ∈ ["TRUE", "FALSE", "NULL"])
    (hl : ∀ (i : Ident) (ts : List Token),
      ExprGrammar.special inner (uppered w) i ts = some (some (.literal l), ts)) (h : Next AfterOperand rest) :
    ExprGrammar.operand inner (word w :: rest) = some (.literal l, rest) := by
  have htype : ∀ k ∈ ["TRUE", "FALSE", "NULL"], k ∉ typeNames := by decide
  have hworded : ExprGrammar.worded inner ⟨w, none⟩ rest = some (.literal l, rest) := by
    simp only [ExprGrammar.worded, Option.isNone_none, if_true, hl]
  exact operand_word (htype _ hw) hworded (h.mono fun _ ht => ht.not_keyword _ (by decide))

private theorem operand_value {v : Json.Value} (hv : isScalar v = true) (h : Next AfterCondition rest) :
    ExprGrammar.operand inner.above (value v ++ rest) = some (valueExpr v, rest) := by
  have hafter : Next AfterOperand rest := h.mono fun _ ht => ht.afterOperand
  have hcollate : Next (fun t => Parser.isKeyword "COLLATE" t = false) rest :=
    hafter.mono fun _ ht => ht.not_keyword _ (by decide)
  cases v with
  | null => exact operand_literal (by decide) (fun _ _ => by rw [show uppered "NULL" = "NULL" by decide]; rfl) hafter
  | bool b =>
    cases b with
    | true =>
      exact operand_literal (w := "true") (by decide) (fun _ _ => by rw [show uppered "true" = "TRUE" by decide]; rfl)
        hafter
    | false =>
      exact operand_literal (w := "false") (by decide)
        (fun _ _ => by rw [show uppered "false" = "FALSE" by decide]; rfl) hafter
  | number n =>
    rw [value, Json.Number.tokens, valueExpr]
    cases n.isNegative with
    | false => exact operand_number hcollate
    | true =>
      have hnumber : ExprGrammar.operand inner (.number n.magnitude.text false :: rest) = _ := operand_number hcollate
      -- what the sign stands in front of is an expression of the level below
      refine operand_minus ?_ hcollate
      show ExprGrammar.expr inner Binding.times (.number n.magnitude.text false :: rest) = _
      rw [ExprGrammar.expr, Parser.bind_eq hnumber, Parser.bind_eq (Parser.size_apply _)]
      exact operators_stop _ (binding_le h (by decide)) _
  | string s => exact operand_string hcollate
  | array items => simp [isScalar] at hv
  | object members => simp [isScalar] at hv

/-- A value is read from its tokens. -/
theorem expr_value {v : Json.Value} (hv : isScalar v = true) {prec : Nat} (h : Next AfterCondition rest)
    (hprec : ExprGrammar.binding rest ≤ prec) :
    ExprGrammar.expr inner.above prec (value v ++ rest) = some (valueExpr v, rest) := by
  rw [ExprGrammar.expr, Parser.bind_eq (operand_value hv h), Parser.bind_eq (Parser.size_apply _)]
  exact operators_stop _ hprec _

/-! ### Conditions -/

/-- Behind `a` the tokens are read as a test or comparison that makes `e` of it. -/
def Continues (ts : List Token) (a e : Statement.Expr) : Prop :=
  Next AfterOperand ts ∧ ts ≠ [] ∧ ∀ (inner : Level) (prec n : Nat) (rest : List Token), prec ≤ Binding.and →
    Next AfterCondition rest →
    ExprGrammar.operators inner.above.above prec (n + 1) a (ts ++ rest) =
      ExprGrammar.operators inner.above.above prec n e rest

/-- The words in front of which a comparison or a list means something else. -/
def Plain (t : Token) : Prop :=
  Parser.keywordOf (some t) ∉ ["ANY", "ALL", "SOME", "SELECT", "WITH"]

instance : DecidablePred Plain := fun _ => inferInstanceAs (Decidable (_ ∉ _))

/-- What may stand on the right of a comparison. -/
def IsRight (ts : List Token) (e : Statement.Expr) : Prop :=
  (∀ rest, Next Plain (ts ++ rest)) ∧
    ∀ (inner : Level) (prec : Nat) (rest : List Token), Next AfterCondition rest → ExprGrammar.binding rest ≤ prec →
      ExprGrammar.expr inner.above prec (ts ++ rest) = some (e, rest)

theorem isRight_column (place : Nat) (n : String) : IsRight (column (tableAlias place) n) (columnExpr place n) := by
  refine ⟨fun rest => Next.cons (uppered_tableAlias_notMem (by decide) place), fun inner prec rest h hprec => ?_⟩
  exact expr_column place n (h.mono fun _ ht => ht.afterOperand) hprec

theorem isRight_value {v : Json.Value} (hv : isScalar v = true) : IsRight (value v) (valueExpr v) := by
  refine ⟨fun rest => ?_, fun inner prec rest h hprec => expr_value hv h hprec⟩
  have hempty : "" ∉ ["ANY", "ALL", "SOME", "SELECT", "WITH"] := by decide
  cases v with
  | null => exact Next.cons (by decide)
  | bool b => cases b <;> exact Next.cons (by decide)
  | number n =>
    rw [value, Json.Number.tokens]
    cases n.isNegative <;> exact Next.cons hempty
  | string s => exact Next.cons hempty
  | array items => simp [isScalar] at hv
  | object members => simp [isScalar] at hv

/-- The comparison that is read for an operator. -/
def operatorText : Sql.Operator → String
  | .eq => "="
  | .neq => "<>"
  | .gt => ">"
  | .gte => ">="
  | .lt => "<"
  | .lte => "<="
  | .like => "LIKE"

private theorem withRight_plain {a e : Statement.Expr} {op : String} {prec : Nat} {ts : List Token}
    (hplain : Next Plain ts) (he : inner.expr prec ts = some (e, rest)) :
    ExprGrammar.withRight inner a op prec ts = some (.binary op a e, rest) := by
  have hone : Parser.oneOf ["ANY", "ALL", "SOME"] ts = some (none, ts) :=
    hplain.oneOf fun t ht => Or.inr fun hmem => ht ((by decide : ["ANY", "ALL", "SOME"] ⊆ _) hmem)
  rw [ExprGrammar.withRight, Parser.bind_eq hone]
  simp only
  rw [Parser.bind_eq he]
  rfl

/-- An operator that binds tighter is taken. -/
private theorem operators_take {prec b n : Nat} {a e : Statement.Expr} {ts : List Token}
    (hbinding : ExprGrammar.binding ts = b) (hprec : prec < b)
    (h : ExprGrammar.operator inner a b ts = some (e, rest)) :
    ExprGrammar.operators inner prec (n + 1) a ts = ExprGrammar.operators inner prec n e rest := by
  have hnext : ExprGrammar.nextBinding ts = some (b, ts) := by
    rw [← hbinding]
    rfl
  rw [ExprGrammar.operators, Parser.bind_eq hnext, if_neg (Nat.not_le.2 hprec), Parser.bind_eq h]

/-- A comparison goes on with what is compared. -/
theorem continues_comparison {o : Sql.Operator} (ho : o ≠ .like) {right : List Token} {a e : Statement.Expr}
    (hright : IsRight right e) : Continues (operator o :: right) a (.binary (operatorText o) a e) := by
  have hfind : operator o = .sign o.text ∧ o.text ≠ "::" ∧ o.text ≠ "[" ∧
      (ExprGrammar.signOperators.find? fun x => x.1 == o.text) = some (o.text, operatorText o, Binding.compare) := by
    cases o with
    | like => exact absurd rfl ho
    | _ => decide
  obtain ⟨hsign, hcast, hopen, hfind⟩ := hfind
  refine ⟨Next.cons ?_, by simp, fun inner prec n rest hprec h => ?_⟩
  · unfold AfterOperand
    cases o with
    | like => exact absurd rfl ho
    | _ => decide
  · have hbinding : ExprGrammar.binding (.sign o.text :: (right ++ rest)) = Binding.compare := by
      rw [ExprGrammar.binding, if_neg (by simp [hcast, hopen]), hfind]
      rfl
    have hpeek : Parser.peek? (Token.sign o.text :: (right ++ rest)) =
        some (some (.sign o.text), .sign o.text :: (right ++ rest)) := rfl
    rw [hsign, List.cons_append]
    refine operators_take hbinding (Nat.lt_of_le_of_lt hprec (by decide)) ?_
    rw [ExprGrammar.operator, Parser.bind_eq hpeek]
    simp only [hfind]
    rw [Parser.bind_eq Parser.expect_cons]
    exact withRight_plain (hright.1 rest) (hright.2 _ _ rest h (binding_le h (by decide)))

private theorem operator_is (a : Statement.Expr) (prec : Nat) (ts : List Token) :
    ExprGrammar.operator inner a prec (.word "IS" none :: ts) = ExprGrammar.isTest inner a ts := by
  have hpeek : Parser.peek? (Token.word "IS" none :: ts) = some (some (.word "IS" none), .word "IS" none :: ts) := rfl
  have his : Parser.keywordOf (some (.word "IS" none)) = "IS" := by decide
  rw [ExprGrammar.operator, Parser.bind_eq hpeek]
  simp only
  rw [Parser.bind_eq (Parser.peekKeyword_cons _ _), his, if_neg (by decide),
    Parser.bind_eq (Parser.keyword_cons (by decide))]
  rfl

private theorem operator_test {w : String} (hw : w ∈ ["IN", "LIKE"]) (a : Statement.Expr) (prec : Nat)
    (ts : List Token) :
    ExprGrammar.operator inner a prec (.word w none :: ts) = ExprGrammar.test inner a (.word w none :: ts) := by
  have hkeyword : ∀ w ∈ ["IN", "LIKE"], ¬ (Parser.keywordOf (some (.word w none)) = "AND" ∨
      Parser.keywordOf (some (.word w none)) = "OR" ∨ Parser.keywordOf (some (.word w none)) = "XOR") := by decide
  have hmiss : ∀ k ∈ ["IS", "AT"], ∀ w ∈ ["IN", "LIKE"], Parser.isKeyword k (.word w none) = false := by
    decide
  have hpeek : Parser.peek? (Token.word w none :: ts) = some (some (.word w none), .word w none :: ts) := rfl
  rw [ExprGrammar.operator, Parser.bind_eq hpeek]
  simp only
  rw [Parser.bind_eq (Parser.peekKeyword_cons _ _), if_neg (hkeyword w hw),
    Parser.bind_eq (Parser.keyword_miss (hmiss "IS" (by decide) w hw)), if_neg Bool.false_ne_true,
    Parser.bind_eq (Parser.keywords_miss (hmiss "AT" (by decide) w hw)), if_neg Bool.false_ne_true]

private theorem isTest_null (a : Statement.Expr) (negated : Bool) :
    ExprGrammar.isTest inner a ((if negated then [word "NOT"] else []) ++ word "NULL" :: rest) =
      some (.isNull a negated, rest) := by
  have hnot : Parser.keyword "NOT" ((if negated then [word "NOT"] else []) ++ word "NULL" :: rest) =
      some (negated, word "NULL" :: rest) := by
    cases negated with
    | true => exact Parser.keyword_cons (by decide)
    | false => exact Parser.keyword_miss (by decide)
  rw [ExprGrammar.isTest, Parser.bind_eq hnot, Parser.bind_eq (Parser.keyword_cons (by decide)), if_pos rfl]
  rfl

/-- A test for null goes on with what it tests. -/
theorem continues_isNull (a : Statement.Expr) (negated : Bool) :
    Continues (word "IS" :: ((if negated then [word "NOT"] else []) ++ [word "NULL"])) a (.isNull a negated) := by
  refine ⟨Next.cons (by decide), by simp, fun inner prec n rest hprec h => ?_⟩
  refine operators_take (b := Binding.is) rfl (Nat.lt_of_le_of_lt hprec (by decide)) ?_
  rw [List.cons_append, List.append_assoc, List.singleton_append, word, operator_is]
  exact isTest_null a negated

private theorem test_oneOf {w : String} (hw : w ∈ ["IN", "LIKE"]) (ts : List Token) :
    Parser.keyword "NOT" (.word w none :: ts) = some (false, .word w none :: ts) ∧
      Parser.oneOf ["LIKE", "ILIKE", "RLIKE", "REGEXP", "IN", "BETWEEN", "SIMILAR"] (.word w none :: ts) =
        some (some w, ts) := by
  have hfacts : ∀ w ∈ ["IN", "LIKE"], Parser.isKeyword "NOT" (.word w none) = false ∧
      Parser.keywordOf (some (.word w none)) = w ∧ w ≠ "" ∧
      w ∈ ["LIKE", "ILIKE", "RLIKE", "REGEXP", "IN", "BETWEEN", "SIMILAR"] := by decide
  obtain ⟨hnot, hkeyword, hne, hmem⟩ := hfacts w hw
  exact ⟨Parser.keyword_miss hnot, Parser.oneOf_cons hkeyword hne hmem⟩

/-- A pattern match goes on with what it matches. -/
theorem continues_like {v : Json.Value} (hv : isScalar v = true) (a : Statement.Expr) :
    Continues (word "LIKE" :: value v) a (.like a false false (valueExpr v) none) := by
  refine ⟨Next.cons (by decide), by simp, fun inner prec n rest hprec h => ?_⟩
  refine operators_take (b := Binding.like) rfl (Nat.lt_of_le_of_lt hprec (by decide)) ?_
  have hany : Parser.keyword "ANY" (value v ++ rest) = some (false, value v ++ rest) :=
    ((isRight_value hv).1 rest).keyword fun t ht =>
      Parser.isKeyword_of_ne fun he => ht (by rw [he]; decide)
  have hpattern : inner.above.above.expr Binding.like (value v ++ rest) = some (valueExpr v, rest) :=
    expr_value hv h (binding_le h (by decide))
  have hescape : ExprGrammar.escape? rest = some (none, rest) := by
    rw [ExprGrammar.escape?, Parser.bind_eq (h.keyword fun t ht => ?_)]
    · rfl
    · revert t
      unfold AfterCondition
      decide
  obtain ⟨hnot, hone⟩ := test_oneOf (w := "LIKE") (by decide) (value v ++ rest)
  rw [List.cons_append, word, operator_test (by decide), ExprGrammar.test, Parser.bind_eq hnot,
    Parser.bind_eq hone]
  simp only
  rw [Parser.bind_eq hany, Parser.bind_eq hpattern, Parser.bind_eq hescape]
  rfl

private theorem parenthesized_eq {α : Type} {p : Parser α} {a : α} {ts : List Token}
    (h : p ts = some (a, .sign ")" :: rest)) : Parser.parenthesized p (.sign "(" :: ts) = some (a, rest) := by
  rw [Parser.parenthesized, Parser.bind_eq Parser.expect_cons, Parser.bind_eq h, Parser.bind_eq Parser.expect_cons]
  rfl

/-- Values with commas between them do not begin as a query does. -/
private theorem keywordOf_listed {vs : List Json.Value} (hne : vs ≠ []) (hvs : ∀ v ∈ vs, isScalar v = true)
    (us : List Token) :
    ¬ (Parser.keywordOf (listed (vs.map value) ++ us).head? = "SELECT" ∨
      Parser.keywordOf (listed (vs.map value) ++ us).head? = "WITH") := by
  cases vs with
  | nil => exact absurd rfl hne
  | cons v vs =>
    rw [List.map_cons, listed, intercalate_cons, List.append_assoc]
    have hfirst := (isRight_value (hvs v (List.mem_cons_self ..))).1 ((vs.map value).flatMap ([.sign ","] ++ ·) ++ us)
    cases hts : value v ++ ((vs.map value).flatMap ([.sign ","] ++ ·) ++ us) with
    | nil => simp [Parser.keywordOf]
    | cons t ts =>
      have ht : Plain t := hfirst t (by rw [hts]; rfl)
      rintro (he | he)
      · exact ht (by rw [show Parser.keywordOf (some t) = "SELECT" from he]; decide)
      · exact ht (by rw [show Parser.keywordOf (some t) = "WITH" from he]; decide)

/-- A list test goes on with what it tests. -/
theorem continues_isIn {vs : List Json.Value} (hne : vs ≠ []) (hvs : ∀ v ∈ vs, isScalar v = true)
    (a : Statement.Expr) :
    Continues (word "IN" :: .sign "(" :: (listed (vs.map value) ++ [.sign ")"])) a
      (.isIn a false (vs.map valueExpr)) := by
  refine ⟨Next.cons (by decide), by simp, fun inner prec n rest hprec h => ?_⟩
  refine operators_take (b := Binding.compare) rfl (Nat.lt_of_le_of_lt hprec (by decide)) ?_
  have hclose : Next AfterExpr (.sign ")" :: rest) := Next.cons (by decide)
  have hreads : ReadsParts AfterExpr (inner.above.above.expr 0) (vs.map fun v => (value v, valueExpr v)) := by
    intro x hx us hus
    obtain ⟨v, hv, rfl⟩ := List.mem_map.1 hx
    exact expr_value (hvs v hv) (hus.mono fun _ ht => ht.1) (Nat.le_of_eq (binding_eq_zero hus))
  have hlist := list_parts (by decide) (by simpa using hne) hreads hclose (Next.cons (by decide))
  simp only [List.map_map, Function.comp_def] at hlist
  have hpeek : ∀ ts, Parser.peekKeyword ts = some (Parser.keywordOf ts.head?, ts) := fun _ => rfl
  have hunnest : ∀ ts, Parser.keyword "UNNEST" (.sign "(" :: ts) = some (false, .sign "(" :: ts) := fun _ => rfl
  have hin : ExprGrammar.inTest inner.above.above a false
      (.sign "(" :: (listed (vs.map value) ++ .sign ")" :: rest)) =
        some (.isIn a false (vs.map valueExpr), rest) := by
    rw [ExprGrammar.inTest, Parser.bind_eq (hunnest _), if_neg Bool.false_ne_true]
    refine parenthesized_eq ?_
    rw [Parser.bind_eq (hpeek _), if_neg (keywordOf_listed hne hvs _), Parser.bind_eq hlist]
    rfl
  obtain ⟨hnot, hone⟩ := test_oneOf (w := "IN") (by decide)
    (.sign "(" :: (listed (vs.map value) ++ .sign ")" :: rest))
  rw [List.cons_append, List.cons_append, List.append_assoc, List.singleton_append, word, operator_test (by decide),
    ExprGrammar.test, Parser.bind_eq hnot, Parser.bind_eq hone]
  exact hin

/-! ### Conjunctions -/

/-- The tokens are read as `e`, with operators that bind no tighter than `AND` left behind them. -/
def IsClause (ts : List Token) (e : Statement.Expr) : Prop :=
  (∀ rest, Next Plain (ts ++ rest)) ∧
    ∀ (inner : Level) (prec : Nat) (rest : List Token), prec ≤ Binding.and → Next AfterCondition rest →
      ∃ n, rest.length ≤ n ∧ ExprGrammar.expr inner.above.above prec (ts ++ rest) =
        ExprGrammar.operators inner.above.above prec n e rest

/-- A column with what goes on with it is a clause. -/
theorem isClause_column (place : Nat) (n : String) {ts : List Token} {e : Statement.Expr}
    (h : Continues ts (columnExpr place n) e) : IsClause (column (tableAlias place) n ++ ts) e := by
  refine ⟨fun rest => Next.cons (uppered_tableAlias_notMem (by decide) place), fun inner prec rest hprec hrest => ?_⟩
  obtain ⟨hnext, hne, htake⟩ := h
  have hafter : Next AfterOperand (ts ++ rest) := hnext.append (hrest.mono fun _ ht => ht.afterOperand)
  cases ts with
  | nil => exact absurd rfl hne
  | cons t ts =>
    refine ⟨(ts ++ rest).length, by simp, ?_⟩
    rw [List.append_assoc, ExprGrammar.expr, Parser.bind_eq (operand_column place n hafter),
      Parser.bind_eq (Parser.size_apply _)]
    exact htake inner prec _ rest hprec hrest

private theorem next_conjoined {parts : List (List Token)} (hrest : Next AfterExpr rest) :
    Next AfterCondition (parts.flatMap ([word "AND"] ++ ·) ++ rest) := by
  cases parts with
  | nil => exact hrest.mono fun _ ht => ht.1
  | cons ts parts => exact Next.cons (by decide)

/-- `AND` with a clause behind it is taken. -/
private theorem operators_and {ts : List Token} {e : Statement.Expr} (h : IsClause ts e) (a : Statement.Expr)
    (n : Nat) (hrest : Next AfterCondition rest) :
    ExprGrammar.operators inner.above.above.above 0 (n + 1) a ([word "AND"] ++ ts ++ rest) =
      ExprGrammar.operators inner.above.above.above 0 n (.binary "AND" a e) rest := by
  have hclause : inner.above.above.above.expr Binding.and (ts ++ rest) = some (e, rest) := by
    obtain ⟨m, -, he⟩ := h.2 inner Binding.and rest (Nat.le_refl _) hrest
    exact he.trans (operators_stop e (binding_le hrest (Nat.le_refl _)) m)
  have hpeek : Parser.peek? (Token.word "AND" none :: (ts ++ rest)) =
      some (some (.word "AND" none), .word "AND" none :: (ts ++ rest)) := rfl
  have hkeyword : Parser.keywordOf (some (.word "AND" none)) = "AND" := by decide
  refine operators_take (b := Binding.and) rfl (by decide) ?_
  rw [List.append_assoc, List.singleton_append, word, ExprGrammar.operator, Parser.bind_eq hpeek]
  simp only
  rw [Parser.bind_eq (Parser.peekKeyword_cons _ _), hkeyword, if_pos (Or.inl rfl),
    Parser.bind_eq (Parser.expectKeyword_cons (by decide))]
  exact withRight_plain (h.1 rest) hclause

private theorem operators_conjoined {clauses : List (List Token × Statement.Expr)}
    (hclauses : ∀ x ∈ clauses, IsClause x.1 x.2) (a : Statement.Expr) {n : Nat} (hn : clauses.length ≤ n)
    (hrest : Next AfterExpr rest) :
    ExprGrammar.operators inner.above.above.above 0 n a
        ((clauses.map (·.1)).flatMap ([word "AND"] ++ ·) ++ rest) =
      some ((clauses.map (·.2)).foldl (.binary "AND") a, rest) := by
  induction clauses generalizing a n with
  | nil => exact operators_stop a (Nat.le_of_eq (binding_eq_zero hrest)) n
  | cons x clauses ih =>
    cases n with
    | zero => simp at hn
    | succ n =>
      have hlater := ih (fun y hy => hclauses y (List.mem_cons_of_mem _ hy)) (.binary "AND" a x.2) (by simpa using hn)
      rw [List.map_cons, List.flatMap_cons, List.append_assoc,
        operators_and (hclauses x (List.mem_cons_self ..)) a n (next_conjoined hrest), hlater]
      rfl

/-- Expressions that all must hold, as they are read. -/
def conjoinedExpr : List Statement.Expr → Statement.Expr
  | [] => .other ""
  | e :: es => es.foldl (.binary "AND") e

/-- Conditions that all must hold are read from the left. -/
theorem expr_conjoined (inner : Level) {clauses : List (List Token × Statement.Expr)} (hne : clauses ≠ [])
    (hclauses : ∀ x ∈ clauses, IsClause x.1 x.2) (hrest : Next AfterExpr rest) :
    ExprGrammar.expr inner.above.above.above 0 (conjoined (clauses.map (·.1)) ++ rest) =
      some (conjoinedExpr (clauses.map (·.2)), rest) := by
  cases clauses with
  | nil => exact absurd rfl hne
  | cons x clauses =>
    have hlater : ∀ y ∈ clauses, IsClause y.1 y.2 := fun y hy => hclauses y (List.mem_cons_of_mem _ hy)
    have hnext : Next AfterCondition ((clauses.map (·.1)).flatMap ([word "AND"] ++ ·) ++ rest) := next_conjoined hrest
    obtain ⟨n, hn, hx⟩ := (hclauses x (List.mem_cons_self ..)).2 inner.above 0 _ (Nat.zero_le _) hnext
    have hlen := length_le_flatMap (l := clauses.map (·.1)) (f := ([word "AND"] ++ ·)) (by simp) rest
    rw [List.length_map] at hlen
    rw [conjoined, List.map_cons, intercalate_cons, List.append_assoc, hx]
    exact operators_conjoined hlater x.2 (Nat.le_trans hlen hn) hrest

private theorem conjuncts_foldl {a : Statement.Expr} {es : List Statement.Expr} (hes : ∀ e ∈ es, e.conjuncts = [e]) :
    (es.foldl (.binary "AND") a).conjuncts = a.conjuncts ++ es := by
  induction es generalizing a with
  | nil => rw [List.foldl_nil, List.append_nil]
  | cons e es ih =>
    rw [List.foldl_cons, ih fun f hf => hes f (List.mem_cons_of_mem _ hf), Statement.Expr.conjuncts, if_pos rfl,
      hes e (List.mem_cons_self ..), List.append_assoc]
    rfl

/-- The conjuncts of expressions that all must hold are these. -/
theorem conjuncts_conjoinedExpr {es : List Statement.Expr} (hne : es ≠ []) (hes : ∀ e ∈ es, e.conjuncts = [e]) :
    (conjoinedExpr es).conjuncts = es := by
  cases es with
  | nil => exact absurd rfl hne
  | cons e es =>
    rw [conjoinedExpr, conjuncts_foldl fun f hf => hes f (List.mem_cons_of_mem _ hf), hes e (List.mem_cons_self ..)]
    rfl

end JoinCanvas.Skeleton
