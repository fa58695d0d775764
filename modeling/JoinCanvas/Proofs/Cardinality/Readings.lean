import JoinCanvas.Proofs.Cardinality.Measuring
import JoinCanvas.Proofs.Decimal.Digits
import JoinCanvas.Proofs.Sql.RowLimit

/-!
# Reading statistics

The counts of a side stand in the row that names it, wherever that row is and whatever else the result holds.  A count
is an integer of 64 bits or a text of one; what is neither is never read as some other number.

* `Stats.spells_iff`: the texts of a number.
* `Stats.count_eq_some_iff`, `Stats.bind_count_eq_none_iff`: the values that are counts, and those that are not.
* `Stats.ofSide_eq_ok_iff`, `Stats.ofSide_eq_error_iff`: what is read of a side.
* `measure_reads`: what a measurement returns, or fails with, by the rows of its result.
-/

namespace JoinCanvas

open JoinCanvas.Decimal JoinCanvas.Json JoinCanvas.Text

/-! ### Texts between blanks -/

namespace Text

theorem exists_trim (cs : List Char) :
    ∃ before after, cs = before ++ trim cs ++ after ∧ (∀ c ∈ before, isBlank c = true) ∧
      ∀ c ∈ after, isBlank c = true := by
  obtain ⟨after, hcs, hafter, -⟩ := exists_dropTrailing isBlank cs
  refine ⟨(trimEnd cs).takeWhile isBlank, after, ?_, fun c hc => List.mem_takeWhile_imp hc, hafter⟩
  rw [trim, List.takeWhile_append_dropWhile]
  exact hcs

theorem trim_between {before body after : List Char} (hbefore : ∀ c ∈ before, isBlank c = true) (hne : body ≠ [])
    (hbody : ∀ c ∈ body, isBlank c = false) (hafter : ∀ c ∈ after, isBlank c = true) :
    trim (before ++ body ++ after) = body := by
  have hend : trimEnd (before ++ body ++ after) = before ++ body := by
    refine dropTrailing_append_of_stop hafter fun c hc => hbody c ?_
    rw [List.getLast?_append_of_ne_nil _ hne] at hc
    exact List.mem_of_getLast? hc
  rw [trim, hend]
  exact Statement.dropWhile_append_of_stop hbefore fun c hc => hbody c (List.mem_of_mem_head? hc)

end Text

namespace Stats

/-! ### Counts -/

/-- A text of a number: its digits, perhaps behind zeros and a plus sign, perhaps between blanks. -/
def Spells (s : String) (n : Nat) : Prop :=
  ∃ before sign zeros after, s.toList = before ++ (sign ++ (List.replicate zeros '0' ++ Nat.toDigits 10 n)) ++ after ∧
    (∀ c ∈ before, isBlank c = true) ∧ (sign = [] ∨ sign = ['+']) ∧ ∀ c ∈ after, isBlank c = true

/-- A value is a count: an integer of 64 bits, or a text of one. -/
def IsCount (v : Value) (n : Nat) : Prop :=
  n < 2 ^ 64 ∧ (v = .integer n ∨ ∃ s, v = .string s ∧ Spells s n)

/-- What is no count: nothing at all, an integer that is negative or too large, a number of the floating format, a text
of a number that is too large, a text of no number, or something that is neither a number nor a text. -/
inductive NoCount : Option Value → Prop where
  | absent : NoCount none
  | negative {n : Int} (h : n < 0) : NoCount (some (.integer n))
  | large {n : Int} (h : 2 ^ 64 ≤ n) : NoCount (some (.integer n))
  | float (x : Binary) : NoCount (some (.number (.float x)))
  | largeText {s : String} {n : Nat} (hs : Spells s n) (h : 2 ^ 64 ≤ n) : NoCount (some (.string s))
  | otherText {s : String} (h : ∀ n, ¬ Spells s n) : NoCount (some (.string s))
  | other {v : Value} (hnumber : ∀ n, v ≠ .number n) (hstring : ∀ s, v ≠ .string s) : NoCount (some v)

/-- A text without a plus sign at its start. -/
private def withoutPlus : List Char → List Char
  | '+' :: rest => rest
  | cs => cs

private theorem withoutPlus_eq {cs digits : List Char} (h : digits.head? ≠ some '+') :
    withoutPlus cs = digits ↔ cs = digits ∨ cs = '+' :: digits := by
  unfold withoutPlus
  split
  · next rest =>
    constructor
    · rintro rfl
      exact Or.inr rfl
    · rintro (rfl | h')
      · exact absurd rfl h
      · exact (List.cons.inj h').2
  · next hplus =>
    constructor
    · exact Or.inl
    · rintro (rfl | rfl)
      · rfl
      · exact absurd rfl (hplus digits)

private theorem isDigit_of_mem_written {zeros n : Nat} {c : Char}
    (hc : c ∈ List.replicate zeros '0' ++ Nat.toDigits 10 n) : c.isDigit = true := by
  rcases List.mem_append.1 hc with hc | hc
  · rw [List.eq_of_mem_replicate hc]
    rfl
  · exact Nat.isDigit_of_mem_toDigits (by decide) (by decide) hc

theorem spells_iff {s : String} {n : Nat} : Spells s n ↔ natIn? 10 (withoutPlus (trim s.toList)) = some n := by
  have hhead : ∀ zeros, (List.replicate zeros '0' ++ Nat.toDigits 10 n).head? ≠ some '+' := fun zeros h =>
    absurd (isDigit_of_mem_written (List.mem_of_mem_head? h)) (by decide)
  rw [natIn_eq_some_iff]
  constructor
  · rintro ⟨before, sign, zeros, after, hs, hbefore, hsign, hafter⟩
    refine ⟨zeros, (withoutPlus_eq (hhead zeros)).2 ?_⟩
    have hsolid : ∀ c ∈ sign ++ (List.replicate zeros '0' ++ Nat.toDigits 10 n), isBlank c = false := by
      intro c hc
      rcases List.mem_append.1 hc with hc | hc
      · rcases hsign with rfl | rfl
        · exact absurd hc List.not_mem_nil
        · rw [List.mem_singleton.1 hc]
          decide
      · exact not_isBlank_of_isAnyDigit (isAnyDigit_of_isDigit (isDigit_of_mem_written hc))
    rw [hs, trim_between hbefore (by simp) hsolid hafter]
    rcases hsign with rfl | rfl
    · exact Or.inl rfl
    · exact Or.inr rfl
  · rintro ⟨zeros, h⟩
    obtain ⟨before, after, hs, hbefore, hafter⟩ := exists_trim s.toList
    rcases (withoutPlus_eq (hhead zeros)).1 h with h | h
    · exact ⟨before, [], zeros, after, by rw [List.nil_append, ← h, ← hs], hbefore, Or.inl rfl, hafter⟩
    · exact ⟨before, ['+'], zeros, after, by rw [List.singleton_append, ← h, ← hs], hbefore, Or.inr rfl, hafter⟩

theorem Spells.unique {s : String} {m n : Nat} (hm : Spells s m) (hn : Spells s n) : m = n :=
  Option.some.inj ((spells_iff.1 hm).symm.trans (spells_iff.1 hn))

theorem countOfText_eq_some_iff {s : String} {n : Nat} : countOfText? s = some n ↔ Spells s n ∧ n < 2 ^ 64 := by
  rw [spells_iff, countOfText?]
  split
  · next m hm =>
    have hread : natIn? 10 (withoutPlus (trim s.toList)) = some m := hm
    rw [hread, Option.ite_none_right_eq_some, Option.some.injEq]
    constructor
    · rintro ⟨hlt, rfl⟩
      exact ⟨rfl, hlt⟩
    · rintro ⟨rfl, hlt⟩
      exact ⟨hlt, rfl⟩
  · next hm =>
    have hread : natIn? 10 (withoutPlus (trim s.toList)) = none := hm
    simp only [hread, reduceCtorEq, false_and]

theorem count_eq_some_iff {v : Value} {n : Nat} : count? v = some n ↔ IsCount v n := by
  cases v with
  | number x =>
    cases x with
    | integer i =>
      have hcount : count? (.number (.integer i)) = some n ↔ (0 ≤ i ∧ i < 2 ^ 64) ∧ i.toNat = n := by
        rw [count?, Option.ite_none_right_eq_some, Option.some.injEq]
      have hinteger : IsCount (.number (.integer i)) n ↔ n < 2 ^ 64 ∧ i = n := by simp [IsCount, Value.integer]
      rw [hcount, hinteger]
      omega
    | float x => simp [count?, IsCount, Value.integer]
  | string s =>
    have hstring : IsCount (.string s) n ↔ n < 2 ^ 64 ∧ Spells s n := by simp [IsCount, Value.integer]
    rw [hstring, and_comm]
    exact countOfText_eq_some_iff
  | _ => simp [count?, IsCount, Value.integer]

/-- A sign and zeros do not matter, a point does. -/
example : count? (.string " +007\n") = some 7 ∧ count? (.string "7.0") = none := by
  decide +kernel

/-- What is not read as a count is none, and the other way round. -/
theorem bind_count_eq_none_iff {v? : Option Value} : v?.bind count? = none ↔ NoCount v? := by
  constructor
  · intro h
    match v? with
    | none => exact .absent
    | some (.number (.integer i)) =>
      have hi : ¬ (0 ≤ i ∧ i < 2 ^ 64) := by simpa [count?] using h
      rcases Int.lt_or_le i 0 with hneg | hnonneg
      · exact .negative hneg
      · exact .large (Int.not_lt.1 fun hlt => hi ⟨hnonneg, hlt⟩)
    | some (.number (.float x)) => exact .float x
    | some (.string s) =>
      by_cases hs : ∃ n, Spells s n
      · obtain ⟨n, hn⟩ := hs
        refine .largeText hn (Nat.not_lt.1 fun hlt => ?_)
        have hcount : count? (.string s) = some n := countOfText_eq_some_iff.2 ⟨hn, hlt⟩
        exact absurd (hcount.symm.trans h) nofun
      · exact .otherText fun n hn => hs ⟨n, hn⟩
    | some .null => exact .other nofun nofun
    | some (.bool b) => exact .other nofun nofun
    | some (.array items) => exact .other nofun nofun
    | some (.object members) => exact .other nofun nofun
  · intro h
    rw [Option.eq_none_iff_forall_ne_some]
    intro n hn
    obtain ⟨v, rfl, hv⟩ := Option.bind_eq_some_iff.1 hn
    obtain ⟨hlt, rfl | ⟨s, rfl, hs⟩⟩ := count_eq_some_iff.1 hv
    · cases h with
      | negative h => omega
      | large h => omega
      | other hnumber => exact hnumber _ rfl
    · cases h with
      | largeText hm h =>
        rw [hm.unique hs] at h
        omega
      | otherText h => exact h n hs
      | other _ hstring => exact hstring s rfl

/-- A row holds a count in a field. -/
def Holds (row : Members) (field : String) (n : Nat) : Prop :=
  ∃ v, row.get? field = some v ∧ IsCount v n

theorem countIn_eq_ok_iff {row : Members} {field : String} {n : Nat} :
    countIn row field = .ok n ↔ Holds row field n := by
  have hholds : (row.get? field).bind count? = some n ↔ Holds row field n := by
    rw [Option.bind_eq_some_iff]
    exact exists_congr fun v => and_congr_right fun _ => count_eq_some_iff
  rw [← hholds, countIn]
  cases (row.get? field).bind count? <;> simp

theorem countIn_eq_error_iff {row : Members} {field : String} {f : Fault} :
    countIn row field = .error f ↔ f = .notCount field ∧ NoCount (row.get? field) := by
  rw [← bind_count_eq_none_iff, countIn]
  cases (row.get? field).bind count? <;> simp [eq_comm]

/-! ### Sides -/

/-- A row names a side. -/
def RowOf (side : String) (row : Members) : Prop :=
  row.get? "side" = some (.string side)

/-- No two rows that differ name a side. -/
def AtMostOne (rows : List Members) (side : String) : Prop :=
  ∀ x ∈ rows, ∀ y ∈ rows, RowOf side x → RowOf side y → x = y

/-- A row of a side holds its counts. -/
def Gives (rows : List Members) (side : String) (s : SideStats) : Prop :=
  ∃ row ∈ rows, RowOf side row ∧ Holds row "total_rows" s.totalRows ∧ Holds row "distinct_keys" s.distinctKeys

/-- Why no counts can be read of a side: no row names it, or the row that does holds no count in one of the fields. -/
inductive Lacks (rows : List Members) (side : String) : Fault → Prop where
  | row (h : ∀ row ∈ rows, ¬ RowOf side row) : Lacks rows side (.noStatistics side)
  | total {row : Members} (hrow : row ∈ rows) (hside : RowOf side row) (h : NoCount (row.get? "total_rows")) :
      Lacks rows side (.notCount "total_rows")
  | distinct {row : Members} {n : Nat} (hrow : row ∈ rows) (hside : RowOf side row)
      (htotal : Holds row "total_rows" n) (h : NoCount (row.get? "distinct_keys")) :
      Lacks rows side (.notCount "distinct_keys")

theorem Lacks.kind_eq {rows : List Members} {side : String} {f : Fault} (h : Lacks rows side f) :
    f.kind = .execution := by
  cases h <;> rfl

/-- The counts in a row. -/
def ofRow (row : Members) : Except Fault SideStats := do
  return ⟨← countIn row "total_rows", ← countIn row "distinct_keys"⟩

theorem rowOf_iff {row : Members} {side : String} :
    (((row.get? "side").bind Value.text?) == some side) = true ↔ RowOf side row := by
  rw [beq_iff_eq, RowOf]
  cases row.get? "side" with
  | none => simp
  | some v => cases v <;> simp [Value.text?]

/-- Where one row at most names a side, that row is read. -/
theorem ofSide_eq {rows : List Members} {side : String} {row : Members} (honce : AtMostOne rows side)
    (hrow : row ∈ rows) (hside : RowOf side row) : ofSide rows side = ofRow row := by
  have hfind : rows.find? (fun x => ((x.get? "side").bind Value.text?) == some side) = some row := by
    cases hfound : rows.find? (fun x => ((x.get? "side").bind Value.text?) == some side) with
    | none => exact absurd (rowOf_iff.2 hside) (List.find?_eq_none.1 hfound row hrow)
    | some x =>
      have hnamed := List.find?_some hfound
      rw [honce x (List.mem_of_find?_eq_some hfound) row hrow (rowOf_iff.1 hnamed) hside]
  rw [ofSide, hfind]
  rfl

theorem ofSide_of_none {rows : List Members} {side : String} (h : ∀ row ∈ rows, ¬ RowOf side row) :
    ofSide rows side = .error (.noStatistics side) := by
  have hfind : rows.find? (fun x => ((x.get? "side").bind Value.text?) == some side) = none :=
    List.find?_eq_none.2 fun row hrow hside => h row hrow (rowOf_iff.1 hside)
  rw [ofSide, hfind]

section

variable {α β γ : Type} {x : Except Fault α} {y : Except Fault β} {f : α → β → γ}

private theorem both_eq_ok_iff {c : γ} :
    (do return f (← x) (← y)) = (Except.ok c : Except Fault γ) ↔ ∃ a b, x = .ok a ∧ y = .ok b ∧ f a b = c := by
  cases x <;> cases y <;> simp [bind, Except.bind, pure, Except.pure]

/-- Of two readings that fail, the first one is heard. -/
private theorem both_eq_error_iff {e : Fault} :
    (do return f (← x) (← y)) = (Except.error e : Except Fault γ) ↔ x = .error e ∨ ∃ a, x = .ok a ∧ y = .error e := by
  cases x <;> cases y <;> simp [bind, Except.bind, pure, Except.pure]

end

theorem ofRow_eq_ok_iff {row : Members} {s : SideStats} :
    ofRow row = .ok s ↔ Holds row "total_rows" s.totalRows ∧ Holds row "distinct_keys" s.distinctKeys := by
  rw [← countIn_eq_ok_iff, ← countIn_eq_ok_iff, ofRow, both_eq_ok_iff]
  constructor
  · rintro ⟨total, distinct, htotal, hdistinct, rfl⟩
    exact ⟨htotal, hdistinct⟩
  · exact fun ⟨htotal, hdistinct⟩ => ⟨_, _, htotal, hdistinct, rfl⟩

theorem ofRow_eq_error_iff {row : Members} {f : Fault} :
    ofRow row = .error f ↔ countIn row "total_rows" = .error f ∨
      ∃ n, countIn row "total_rows" = .ok n ∧ countIn row "distinct_keys" = .error f :=
  both_eq_error_iff

theorem ofSide_eq_ok_iff {rows : List Members} {side : String} (honce : AtMostOne rows side) {s : SideStats} :
    ofSide rows side = .ok s ↔ Gives rows side s := by
  constructor
  · intro h
    by_cases hnamed : ∃ row ∈ rows, RowOf side row
    · obtain ⟨row, hrow, hside⟩ := hnamed
      rw [ofSide_eq honce hrow hside, ofRow_eq_ok_iff] at h
      exact ⟨row, hrow, hside, h⟩
    · push Not at hnamed
      rw [ofSide_of_none hnamed] at h
      exact absurd h nofun
  · rintro ⟨row, hrow, hside, hcounts⟩
    rw [ofSide_eq honce hrow hside]
    exact ofRow_eq_ok_iff.2 hcounts

theorem ofSide_eq_error_iff {rows : List Members} {side : String} (honce : AtMostOne rows side) {f : Fault} :
    ofSide rows side = .error f ↔ Lacks rows side f := by
  constructor
  · intro h
    by_cases hnamed : ∃ row ∈ rows, RowOf side row
    · obtain ⟨row, hrow, hside⟩ := hnamed
      rw [ofSide_eq honce hrow hside, ofRow_eq_error_iff] at h
      rcases h with htotal | ⟨n, htotal, hdistinct⟩
      · obtain ⟨rfl, hnone⟩ := countIn_eq_error_iff.1 htotal
        exact .total hrow hside hnone
      · obtain ⟨rfl, hnone⟩ := countIn_eq_error_iff.1 hdistinct
        exact .distinct hrow hside (countIn_eq_ok_iff.1 htotal) hnone
    · push Not at hnamed
      rw [ofSide_of_none hnamed] at h
      obtain rfl := Except.error.inj h
      exact .row hnamed
  · intro h
    cases h with
    | row hnone => exact ofSide_of_none hnone
    | total hrow hside hnone =>
      rw [ofSide_eq honce hrow hside, ofRow_eq_error_iff]
      exact Or.inl (countIn_eq_error_iff.2 ⟨rfl, hnone⟩)
    | distinct hrow hside htotal hnone =>
      rw [ofSide_eq honce hrow hside, ofRow_eq_error_iff]
      exact Or.inr ⟨_, countIn_eq_ok_iff.2 htotal, countIn_eq_error_iff.2 ⟨rfl, hnone⟩⟩

theorem ofRows_eq_ok_iff_sides {rows : List Members} {found : SideStats × SideStats} :
    ofRows rows = .ok found ↔ ofSide rows "source" = .ok found.1 ∧ ofSide rows "target" = .ok found.2 := by
  rw [ofRows, both_eq_ok_iff, sourceSide, targetSide]
  constructor
  · rintro ⟨s, t, hsource, htarget, rfl⟩
    exact ⟨hsource, htarget⟩
  · exact fun ⟨hsource, htarget⟩ => ⟨_, _, hsource, htarget, rfl⟩

/-- The source is read first. -/
theorem ofRows_eq_error_iff_sides {rows : List Members} {f : Fault} :
    ofRows rows = .error f ↔ ofSide rows "source" = .error f ∨
      ∃ s, ofSide rows "source" = .ok s ∧ ofSide rows "target" = .error f :=
  both_eq_error_iff

end Stats

section

open Stats

variable {σ ω : Type} {w : Warehouse σ ω}

/-- A measurement reads its result wherever the rows of the two sides are, among whatever other rows and members, and
whether the counts are integers or texts.  It returns exactly the counts that these rows hold, over all 64 bits.  When a
row is missing or holds no count in a field, it fails with the fault of the first such side, and in no other case. -/
theorem measure_reads {sql : String} {c c' : Course σ ω} {r : QueryResult}
    (hquery : Session.query w sql c = (.returned r, c')) (hsource : AtMostOne r.rows "source")
    (htarget : AtMostOne r.rows "target") :
    ∃ x, Validator.measure w sql c = Work.ofExcept x c' ∧
      (∀ found, x = .ok found ↔ Gives r.rows "source" found.1 ∧ Gives r.rows "target" found.2) ∧
      (∀ f, x = .error f ↔
        Lacks r.rows "source" f ∨ (∃ s, Gives r.rows "source" s) ∧ Lacks r.rows "target" f) ∧
      ∀ f, x = .error f → f.kind = .execution := by
  have hfault (f : Fault) : ofRows r.rows = .error f ↔
      Lacks r.rows "source" f ∨ (∃ s, Gives r.rows "source" s) ∧ Lacks r.rows "target" f := by
    simp only [ofRows_eq_error_iff_sides, ofSide_eq_error_iff hsource, ofSide_eq_error_iff htarget,
      ofSide_eq_ok_iff hsource, exists_and_right]
  have hmeasure : Validator.measure w sql c = Work.ofExcept (countsIn (.ok r)) c' := measure_of_query hquery
  refine ⟨ofRows r.rows, hmeasure, fun found => ?_, hfault, fun f h => ?_⟩
  · rw [ofRows_eq_ok_iff_sides, ofSide_eq_ok_iff hsource, ofSide_eq_ok_iff htarget]
  · rcases (hfault f).1 h with hlacks | ⟨-, hlacks⟩
    · exact hlacks.kind_eq
    · exact hlacks.kind_eq

end

/-- The target before the source, behind a row of neither, and with the largest count in a text between blanks. -/
def shuffledRows : List Members :=
  [[("side", .string "total"), ("total_rows", .integer (-1))],
    [("distinct_keys", .integer 4), ("side", .string "target"), ("total_rows", .string "\t18446744073709551615 ")],
    [("distinct_keys", .string "3"), ("note", .null), ("side", .string "source"), ("total_rows", .integer 3)]]

/-- The theorem at these rows. -/
theorem measure_reads_shuffled :
    let start : Course Script ScriptedReply := { scene := { world := { replies := [{ rows := shuffledRows }] } } }
    ∃ r c', Session.query scripted "SELECT 1" start = (.returned r, c') ∧
      Stats.AtMostOne r.rows "source" ∧ Stats.AtMostOne r.rows "target" ∧
      Validator.measure scripted "SELECT 1" start =
        (.returned (⟨3, 3⟩, ⟨18446744073709551615, 4⟩), c') := by
  intro start
  obtain ⟨r, c', hquery, hrows⟩ : ∃ r c', Session.query scripted "SELECT 1" start = (.returned r, c') ∧
      r.rows = shuffledRows := ⟨_, _, rfl, rfl⟩
  have hsource : Stats.AtMostOne r.rows "source" := by
    rw [hrows]
    simp [Stats.AtMostOne, Stats.RowOf, shuffledRows, Members.get?]
  have htarget : Stats.AtMostOne r.rows "target" := by
    rw [hrows]
    simp [Stats.AtMostOne, Stats.RowOf, shuffledRows, Members.get?]
  refine ⟨r, c', hquery, hsource, htarget, ?_⟩
  obtain ⟨x, hmeasure, hok, -⟩ := measure_reads hquery hsource htarget
  have hfirst : Stats.Gives r.rows "source" ⟨3, 3⟩ := by
    rw [hrows]
    refine ⟨_, List.mem_cons_of_mem _ (List.mem_cons_of_mem _ (List.mem_cons_self ..)), rfl,
      ⟨_, rfl, by decide, Or.inl rfl⟩, ⟨_, rfl, by decide, Or.inr ⟨"3", rfl, ?_⟩⟩⟩
    exact ⟨[], [], 0, [], rfl, by decide, Or.inl rfl, by decide⟩
  have hsecond : Stats.Gives r.rows "target" ⟨18446744073709551615, 4⟩ := by
    rw [hrows]
    refine ⟨_, List.mem_cons_of_mem _ (List.mem_cons_self ..), rfl,
      ⟨_, rfl, by decide, Or.inr ⟨"\t18446744073709551615 ", rfl, ?_⟩⟩, ⟨_, rfl, by decide, Or.inl rfl⟩⟩
    exact ⟨['\t'], [], 0, [' '], by decide +kernel, by decide, Or.inl rfl, by decide⟩
  have hx : x = .ok (⟨3, 3⟩, ⟨18446744073709551615, 4⟩) := (hok _).2 ⟨hfirst, hsecond⟩
  rw [hmeasure, hx]
  rfl

end JoinCanvas
