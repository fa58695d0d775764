import JoinCanvas.Proofs.Join.Aliases
import JoinCanvas.Proofs.Sql.RowLimit
import JoinCanvas.Proofs.Sql.Skeleton

/-!
# Row limits of generated queries

The query of a canvas ends in no row limit of its own, whatever its names and values are: every part that can stand at
its end does (`EndsOpen`).  So it gets the limit of its model, unless a `--` in one of its names or strings is taken
for a comment and a row limit stands before it.

* `endsOpen_literal`, `endsOpen_text`: values and whole queries.
* `compileWithLimit_carries`: when a compiled model carries its row limit.
* `compileWithLimit_drops_marked`: a canvas that loses it.
-/

namespace JoinCanvas.Sql

open JoinCanvas.Text JoinCanvas.Statement

/-- Whatever stands before it, the text ends in no row limit, and in nothing but blanks that could be taken off. -/
def EndsOpen (s : String) : Prop :=
  ∀ front, statementBody (front ++ s.toList) = trimEnd (front ++ s.toList) ∧
    endsInLimit (trimEnd (front ++ s.toList)) = false

theorem EndsOpen.append {b : String} (h : EndsOpen b) (a : String) : EndsOpen (a ++ b) := by
  intro front
  have := h (front ++ a.toList)
  simpa only [String.toList_append, List.append_assoc] using this

/-- A character that stays where the end of a text is taken off. -/
def IsSolid (c : Char) : Prop :=
  isBlank c = false ∧ c ≠ ';'

/-- A character that no row limit ends in. -/
def IsPlain (c : Char) : Prop :=
  IsSolid c ∧ isAnyDigit c = false

instance (c : Char) : Decidable (IsSolid c) :=
  inferInstanceAs (Decidable (_ ∧ _))

instance (c : Char) : Decidable (IsPlain c) :=
  inferInstanceAs (Decidable (_ ∧ _))

theorem statementBody_of_last (cs : List Char) {c : Char} {blanks : List Char} (hc : IsSolid c)
    (hblanks : ∀ b ∈ blanks, isBlank b = true) :
    trimEnd (cs ++ [c] ++ blanks) = cs ++ [c] ∧ statementBody (cs ++ [c] ++ blanks) = cs ++ [c] := by
  have htrim := trimEnd_of_last cs c hc.1
  have htrim' : trimEnd (cs ++ [c] ++ blanks) = cs ++ [c] := by
    rw [trimEnd_append_blank _ _ (List.all_eq_true.2 hblanks), htrim]
  have hdrop : dropTrailing (· = ';') (cs ++ [c]) = cs ++ [c] :=
    dropTrailing_append_singleton _ cs c (by simpa using hc.2)
  exact ⟨htrim', by rw [statementBody, htrim', hdrop, htrim]⟩

/-- A text that ends in a solid character and blanks, and not in the number of a row limit before these. -/
theorem endsOpen_of_not_number {s : String} {cs blanks : List Char} {c : Char} (hs : s.toList = cs ++ [c] ++ blanks)
    (hc : IsSolid c) (hblanks : ∀ b ∈ blanks, isBlank b = true)
    (hnumber : ∀ front, ¬ EndsInNumber (front ++ cs ++ [c])) : EndsOpen s := by
  intro front
  obtain ⟨htrim, hbody⟩ := statementBody_of_last (front ++ cs) hc hblanks
  rw [hs, ← List.append_assoc, ← List.append_assoc, htrim, hbody]
  refine ⟨rfl, Bool.eq_false_iff.2 fun hlimit => ?_⟩
  exact hnumber front ((endsInLimit_of_last hc.1 hc.2).1 hlimit)

theorem endsOpen_of_blanks {s : String} {cs blanks : List Char} {c : Char} (hs : s.toList = cs ++ [c] ++ blanks)
    (hc : IsPlain c) (hblanks : ∀ b ∈ blanks, isBlank b = true) : EndsOpen s := by
  refine endsOpen_of_not_number hs hc.1 hblanks fun front hnumber => ?_
  obtain ⟨d, hd, hdigit⟩ := hnumber.last
  obtain rfl : c = d := by simpa using hd
  rw [hc.2] at hdigit
  cases hdigit

theorem endsOpen_of_last {s : String} {c : Char} (hs : s.toList.getLast? = some c) (hc : IsPlain c) : EndsOpen s := by
  obtain ⟨cs, hcs⟩ := List.getLast?_eq_some_iff.1 hs
  exact endsOpen_of_blanks (hcs.trans (List.append_nil _).symm) hc (List.forall_mem_nil _)

/-- A text that ends in a word with one blank before it, where the word before that is none of a row limit. -/
theorem endsOpen_of_word {s : String} {cs word : List Char} {c : Char} (hs : s.toList = cs ++ [c] ++ [' '] ++ word)
    (hc : isBlank c = false ∧ c.toLower ≠ 't') (hne : word ≠ []) (hword : ∀ d ∈ word, IsSolid d) : EndsOpen s := by
  rcases List.eq_nil_or_concat word with rfl | ⟨letters, d, rfl⟩
  · exact absurd rfl hne
  rw [List.concat_eq_append] at hs hword
  have hs' : s.toList = (cs ++ [c] ++ [' '] ++ letters) ++ [d] ++ [] := by
    rw [hs, List.append_nil, List.append_assoc _ letters]
  refine endsOpen_of_not_number hs' (hword d (by simp)) (List.forall_mem_nil _) fun front hnumber => ?_
  have hall : front ++ (cs ++ [c] ++ [' '] ++ letters) ++ [d] = front ++ cs ++ [c] ++ [' '] ++ (letters ++ [d]) := by
    simp only [List.append_assoc]
  rw [hall] at hnumber
  obtain ⟨x, hx, hlower⟩ := (hnumber.endsInWord (by simpa using hc.1) (by decide) fun d hd => (hword d hd).1).last
  obtain rfl : c = x := by simpa using hx
  exact hc.2 hlower

/-! ### Values -/

/-- A text that can stand before a value: it ends in a plain character, and not as the word of a row limit does. -/
def IsMark (s : String) : Prop :=
  ∃ c, s.toList.getLast? = some c ∧ IsPlain c ∧ c.toLower ≠ 't'

theorem IsMark.append {b : String} (h : IsMark b) (a : String) : IsMark (a ++ b) := by
  obtain ⟨c, hlast, hc⟩ := h
  exact ⟨c, by rw [String.toList_append, List.getLast?_append, hlast, Option.some_or], hc⟩

theorem endsOpen_quotedWith {quote : Char} (h : IsPlain quote) (s : String) : EndsOpen (quotedWith quote s) :=
  endsOpen_of_last (List.getLast?_eq_some_iff.2 ⟨quote :: doubled quote s.toList, by simp [quotedWith]⟩) h

theorem endsOpen_quotedString (s : String) : EndsOpen (quotedString s) :=
  endsOpen_quotedWith (by decide) s

theorem endsOpen_quotedName (s : String) : EndsOpen (quotedName s) :=
  endsOpen_quotedWith (by decide) s

theorem IsMark.word {mark : String} (h : IsMark mark) {word : String} (hne : word.toList ≠ [])
    (hword : ∀ d ∈ word.toList, IsSolid d) : EndsOpen (mark ++ " " ++ word) := by
  obtain ⟨c, hlast, ⟨⟨hblank, -⟩, -⟩, hlower⟩ := h
  obtain ⟨cs, hcs⟩ := List.getLast?_eq_some_iff.1 hlast
  exact endsOpen_of_word (by rw [String.toList_append, String.toList_append, hcs]; rfl) ⟨hblank, hlower⟩ hne hword

/-- A mark and a blank, which does not count. -/
theorem IsMark.blank {mark : String} (h : IsMark mark) : EndsOpen (mark ++ " ") := by
  obtain ⟨c, hlast, hc, -⟩ := h
  obtain ⟨cs, hcs⟩ := List.getLast?_eq_some_iff.1 hlast
  have htext : (mark ++ " ").toList = cs ++ [c] ++ [' '] := by
    rw [String.toList_append, hcs]
    rfl
  exact endsOpen_of_blanks htext hc (by decide)

theorem isSolid_of_isDigit {c : Char} (h : c.isDigit = true) : IsSolid c := by
  have hdigit : 48 ≤ c.toNat ∧ c.toNat ≤ 57 := by
    simpa [Char.isDigit, UInt32.le_iff_toNat_le] using h
  constructor
  · rw [Bool.eq_false_iff]
    intro hblank
    simp only [isBlank, Bool.or_eq_true, Bool.and_eq_true, decide_eq_true_eq, beq_iff_eq] at hblank
    omega
  · rintro rfl
    exact absurd hdigit.2 (by decide)

theorem number_word (n : Json.Number) : n.text.toList ≠ [] ∧ ∀ c ∈ n.text.toList, IsSolid c := by
  obtain ⟨whole, point, exponent, htext, hwhole, hpoint, hexponent⟩ := n.isNumeral_magnitude
  have hpoint' : ∀ c ∈ point, IsSolid c := by
    rcases hpoint with rfl | ⟨ds, rfl, hds⟩
    · exact List.forall_mem_nil _
    · exact List.forall_mem_cons.2 ⟨by decide, fun c hc => isSolid_of_isDigit (hds.2 c hc)⟩
  have hexponent' : ∀ c ∈ exponent, IsSolid c := by
    rcases hexponent with rfl | ⟨s, ds, rfl, hs, hds⟩
    · exact List.forall_mem_nil _
    · refine List.forall_mem_cons.2 ⟨by decide, List.forall_mem_cons.2 ⟨?_, fun c hc =>
        isSolid_of_isDigit (hds.2 c hc)⟩⟩
      rcases hs with rfl | rfl <;> decide
  rw [n.text_eq, String.toList_append, htext]
  constructor
  · simp [hwhole.1]
  · intro c hc
    simp only [List.mem_append] at hc
    rcases hc with hc | (hc | hc) | hc
    · cases hsign : n.isNegative with
      | false => simp [hsign] at hc
      | true =>
        obtain rfl : c = '-' := by simpa [hsign] using hc
        decide
    · exact isSolid_of_isDigit (hwhole.2 c hc)
    · exact hpoint' c hc
    · exact hexponent' c hc

/-- Values with commas between them, behind a mark and a blank.  Without values the blank is all there is. -/
theorem IsMark.listed {f : Json.Value → String} (l : List Json.Value)
    (h : ∀ v ∈ l, ∀ {mark : String}, IsMark mark → EndsOpen (mark ++ " " ++ f v)) {mark : String}
    (hmark : IsMark mark) : EndsOpen (mark ++ " " ++ joined ", " (l.map f)) := by
  induction l generalizing mark with
  | nil => simpa using hmark.blank
  | cons v rest ih =>
    cases rest with
    | nil => simpa using h v (by simp) hmark
    | cons w rest =>
      -- the comma is the mark of the next value
      have hcomma : IsMark (mark ++ " " ++ f v ++ ",") := IsMark.append ⟨',', rfl, by decide⟩ _
      have hrest := ih (fun u hu => h u (List.mem_cons_of_mem _ hu)) hcomma
      rw [List.map_cons] at hrest
      simpa only [List.map_cons, joined_cons_cons, String.append_assoc,
        show ", " = "," ++ " " from rfl] using hrest

/-- A value behind a mark and a blank. -/
theorem endsOpen_literal : ∀ (v : Json.Value) {mark : String}, IsMark mark → EndsOpen (mark ++ " " ++ literal v)
  | .null, _, _ => EndsOpen.append (endsOpen_of_last (c := 'L') rfl (by decide)) _
  | .bool true, _, _ => EndsOpen.append (endsOpen_of_last (c := 'e') rfl (by decide)) _
  | .bool false, _, _ => EndsOpen.append (endsOpen_of_last (c := 'e') rfl (by decide)) _
  | .number n, _, h => h.word (number_word n).1 (number_word n).2
  | .string s, _, _ => (endsOpen_quotedString s).append _
  | .object members, _, _ => (endsOpen_quotedString (Json.Value.object members).text).append _
  | .array items, mark, h => by
    rw [literal, literals_eq_map]
    exact IsMark.listed items (fun v _ => endsOpen_literal v) h

/-! ### Parts of a query -/

/-- A table goes by its alias, which is a word behind `AS`. -/
theorem endsOpen_source {s : Source} {place : Nat} (h : s.alias? = some (tableAlias place)) : EndsOpen s.text := by
  have hmark : IsMark (s.qualified ++ " AS") := IsMark.append ⟨'S', rfl, by decide⟩ _
  have hcs : (tableAlias place).toList = 't' :: Nat.toDigits 10 (place + 1) := by simp [tableAlias]
  have hsolid : ∀ c ∈ (tableAlias place).toList, IsSolid c := by
    intro c hc
    rw [hcs] at hc
    rcases List.mem_cons.1 hc with rfl | hc
    · decide
    · exact isSolid_of_isDigit ((isDigits_toDigits (place + 1)).2 c hc)
  have hword := hmark.word (by simp [hcs]) hsolid
  simpa only [Source.text, h, String.append_assoc, show " AS " = " AS" ++ " " from rfl] using hword

theorem endsOpen_condition {c : Condition} {column e : Expr} (h : c.expr? column = some e) : EndsOpen e.text := by
  rcases expr_cases h with ⟨negated, rfl⟩ | rfl | ⟨o, rfl⟩
  · have hnull : EndsOpen (if negated then " IS NOT NULL" else " IS NULL") := by
      refine endsOpen_of_last (c := 'L') ?_ (by decide)
      cases negated <;> rfl
    exact hnull.append _
  · exact EndsOpen.append (endsOpen_of_last (c := ')') rfl (by decide)) _
  · have hmark : IsMark o.text := by
      cases o
      case gt => exact ⟨'>', rfl, by decide⟩
      case lt => exact ⟨'<', rfl, by decide⟩
      case like => exact ⟨'E', rfl, by decide⟩
      all_goals exact ⟨'=', rfl, by decide⟩
    exact endsOpen_literal c.value (hmark.append (column.text ++ " "))

theorem endsOpen_joined (separator : String) {l : List String} (hne : l ≠ []) (h : ∀ s ∈ l, EndsOpen s) :
    EndsOpen (joined separator l) := by
  induction l with
  | nil => exact absurd rfl hne
  | cons s rest ih =>
    cases rest with
    | nil => exact h s (by simp)
    | cons t rest =>
      rw [joined_cons_cons]
      exact (ih (by simp) fun u hu => h u (List.mem_cons_of_mem _ hu)).append _

theorem EndsOpen.foldr {s : String} (hs : EndsOpen s) (l : List String) (h : ∀ t ∈ l, EndsOpen t) :
    EndsOpen (s ++ l.foldr (· ++ ·) "") := by
  induction l generalizing s with
  | nil => simpa using hs
  | cons t rest ih =>
    have := ih ((h t (by simp)).append s) fun u hu => h u (List.mem_cons_of_mem _ hu)
    rwa [String.append_assoc] at this

theorem EndsOpen.conditions {s : String} (hs : EndsOpen s) (word : String) {l : List Expr}
    (h : ∀ e ∈ l, EndsOpen e.text) :
    EndsOpen (s ++ if l.isEmpty then "" else word ++ joined " AND " (l.map Expr.text)) := by
  split
  · simpa using hs
  · next hne =>
    have hl : l.map Expr.text ≠ [] := by simpa using hne
    have hjoined := endsOpen_joined " AND " hl fun t ht => by
      obtain ⟨e, he, rfl⟩ := List.mem_map.1 ht
      exact h e he
    exact (hjoined.append word).append s

/-- A join of the plan: it ends in a column that it equates, or in the alias of its table. -/
theorem endsOpen_join {base : Table} {rest : List Table} {edges : List Edge} {j : PlannedJoin}
    (hj : j ∈ (Plan.ofCanvas (base :: rest) edges).joins) : EndsOpen j.join.text := by
  have htable : j.table ∈ (Plan.ofCanvas (base :: rest) edges).tables :=
    List.mem_append_right _ (List.mem_map_of_mem hj)
  obtain ⟨place, hplace⟩ := exists_of_aliasOf (aliasOf_of_mem_tables htable)
  have hsource : EndsOpen j.join.source.text := endsOpen_source (congrArg some hplace)
  have hconditions : ∀ e ∈ j.join.conditions, EndsOpen e.text := by
    intro e he
    obtain ⟨k, hk⟩ := List.mem_iff_getElem?.1 hj
    obtain ⟨a, b, x, y, rfl, -⟩ := links_ofCanvas hk rfl he
    exact ((endsOpen_quotedName y).append _).append _
  rw [Join.text, Join.onText]
  split
  · simpa only [String.append_empty] using hsource.append _
  · next hon =>
    have hne : j.join.conditions.isEmpty = false := by
      simpa using fun h => hon (Or.inr (by simpa using h))
    have := (hsource.append (" " ++ j.join.kind.name ++ " JOIN ")).conditions " ON " hconditions
    simpa only [hne, Bool.false_eq_true, if_false] using this

theorem endsOpen_text {m : Model} {base : Table} {rest : List Table} (htables : m.tables = base :: rest) :
    ∃ q, m.query? = some q ∧ EndsOpen q.text := by
  obtain ⟨q, hq, -, hsource, hjoins, hfilters, -⟩ := exists_query htables
  refine ⟨q, hq, ?_⟩
  have hbase : EndsOpen q.source.text := endsOpen_source (congrArg Source.alias? hsource)
  have hjoined := (hbase.append ("SELECT " ++ q.itemsText ++ " FROM ")).foldr (q.joins.map Join.text) fun t ht => by
    rw [hjoins, List.map_map] at ht
    obtain ⟨j, hj, rfl⟩ := List.mem_map.1 ht
    exact endsOpen_join hj
  have hfiltered := hjoined.conditions " WHERE " (l := q.filters) fun e he => by
    rw [hfilters] at he
    obtain ⟨c, name, -, hc⟩ := exists_of_mem_filterExprs he
    exact endsOpen_condition hc
  unfold Query.text Query.groupText
  split
  · exact EndsOpen.append (endsOpen_of_last (c := 'L') rfl (by decide)) _
  · rw [String.append_empty]
    exact hfiltered

end JoinCanvas.Sql

namespace JoinCanvas

open JoinCanvas.Sql JoinCanvas.Text JoinCanvas.Statement

/-- The limited text is the other one without blanks at its end, and the limit as a clause behind it. -/
def CarriesLimit (n : Nat) (sql limited : String) : Prop :=
  ∃ body blanks gap, sql = body ++ blanks ∧ (∀ c ∈ blanks.toList, isBlank c = true) ∧ (gap = " " ∨ gap = "\n") ∧
    limited = body ++ gap ++ limitClause n

/-- A `--` in the last line of the text has a row limit before it. -/
def HidesLimit (sql : String) : Prop :=
  ∃ code, CutsComment (trimEnd sql.toList) code ∧ EndsInLimit code

theorem not_carriesLimit_self (n : Nat) (sql : String) : ¬ CarriesLimit n sql sql := by
  rintro ⟨body, blanks, gap, rfl, hblanks, -, h⟩
  have hclause : blanks = gap ++ limitClause n := by
    rw [String.append_assoc] at h
    exact (String.append_right_inj _).1 h
  have hletter := hblanks 'L' (by rw [hclause]; simp [limitClause])
  exact absurd hletter (by decide)

variable {sql : String}

theorem withRowLimit_of_hides (hopen : EndsOpen sql) (h : HidesLimit sql) (n : Nat) : withRowLimit sql n = sql := by
  obtain ⟨code, hcut, hlimit⟩ := h
  have hbody := (hopen []).1
  rw [List.nil_append] at hbody
  have hcode := (withoutComment_eq_some_iff _ _).2 hcut
  simp only [withRowLimit, hbody, hcode, (endsInLimit_iff code).2 hlimit, if_true]

/-- A text that ends in no row limit gets one, unless it hides one. -/
theorem carriesLimit_withRowLimit (hopen : EndsOpen sql) (h : ¬ HidesLimit sql) (n : Nat) :
    CarriesLimit n sql (withRowLimit sql n) := by
  obtain ⟨hbody, hnone⟩ := hopen []
  rw [List.nil_append] at hbody hnone
  obtain ⟨blanks, hsql, hblanks, -⟩ := exists_dropTrailing isBlank sql.toList
  refine ⟨String.ofList (trimEnd sql.toList), String.ofList blanks,
    if (withoutComment? (trimEnd sql.toList)).isSome then "\n" else " ", ?_, by simpa using hblanks, ?_, ?_⟩
  · rw [← String.ofList_append, trimEnd, ← hsql, String.ofList_toList]
  · split
    · exact Or.inr rfl
    · exact Or.inl rfl
  · simp only [withRowLimit, hbody]
    cases hcode : withoutComment? (trimEnd sql.toList) with
    | none => simp [hnone]
    | some code =>
      have hlimit : endsInLimit code = false := by
        rw [Bool.eq_false_iff]
        intro hlimit
        exact h ⟨code, (withoutComment_eq_some_iff _ _).1 hcode, (endsInLimit_iff code).1 hlimit⟩
      simp [hlimit]

/-- A compiled canvas carries the row limit that it is compiled with, unless a `--` in one of its names or strings
hides one.  Then it stays as it is. -/
theorem compileWithLimit_carries {m : Model} (n : Nat) (hmanual : m.filters.manual? = none) (htables : m.tables ≠ []) :
    ∃ c limited, m.compile? = some c ∧ m.compileWithLimit? (some n) = some { c with sql := limited } ∧
      (CarriesLimit n c.sql limited ↔ ¬ HidesLimit c.sql) ∧ (HidesLimit c.sql → limited = c.sql) := by
  obtain ⟨base, rest, hcanvas⟩ := List.exists_cons_of_ne_nil htables
  obtain ⟨q, hq, hopen⟩ := endsOpen_text hcanvas
  have hcompile := compile_eq_of_query hmanual hq
  refine ⟨_, withRowLimit q.text n, hcompile, by rw [Model.compileWithLimit?, hcompile]; rfl, ?_,
    fun h => withRowLimit_of_hides hopen h n⟩
  constructor
  · intro hcarries hhides
    rw [withRowLimit_of_hides hopen hhides] at hcarries
    exact not_carriesLimit_self n _ hcarries
  · intro hhides
    exact carriesLimit_withRowLimit hopen hhides n

/-- A model whose string holds a row limit before the marks of a comment. -/
def markedLimitModel : Model :=
  { id := "limit"
    tables := [{ id := "a", name := "orders" }]
    filters := .conditions [⟨"a", "note", .eq, .string "LIMIT 5 --"⟩] }

theorem compileWithLimit_carries_marked : markedLimitModel.filters.manual? = none ∧ markedLimitModel.tables ≠ [] ∧
    ∃ c limited, markedLimitModel.compile? = some c ∧
      markedLimitModel.compileWithLimit? (some 7) = some { c with sql := limited } ∧
      (CarriesLimit 7 c.sql limited ↔ ¬ HidesLimit c.sql) ∧ (HidesLimit c.sql → limited = c.sql) :=
  ⟨rfl, by simp [markedLimitModel], compileWithLimit_carries 7 rfl (by simp [markedLimitModel])⟩

/-- The string is taken for the end of the query, and the row limit of the model is dropped. -/
theorem compileWithLimit_drops_marked :
    let c : Compiled := ⟨"SELECT * FROM \x60orders\x60 AS t1 WHERE t1.\x60note\x60 = \x27LIMIT 5 --\x27", [], []⟩
    markedLimitModel.compile? = some c ∧ markedLimitModel.compileWithLimit? (some 7) = some c ∧
      ¬ CarriesLimit 7 c.sql c.sql := by
  intro c
  have hplan : Plan.ofCanvas markedLimitModel.tables markedLimitModel.edges =
      { base? := some ⟨"a", "\x60orders\x60", "t1"⟩ } := by
    simp [markedLimitModel, Plan.ofCanvas, Progress.settle, Progress.pass]
    decide
  have hcompile : markedLimitModel.compile? = some c := by
    simp only [Model.compile?, Model.query?, hplan]
    decide
  refine ⟨hcompile, ?_, not_carriesLimit_self 7 c.sql⟩
  rw [Model.compileWithLimit?, hcompile]
  decide +kernel

end JoinCanvas
