import JoinCanvas.Proofs.Statement.Queries

/-!
# The opening of a compiled query

What a compiled query selects and from which tables stands in front of its conditions.  A list of strings in a
condition is finished text and can hold anything, so that the query may not be readable, or may be read as something
else; but a query that is read as a single `SELECT` has the selected items and the tables of the canvas.

* `Skeleton.tokens_opening`: the tokens in front of the conditions.
* `select_opening`, `query_opening`: what is read of them.
* `read_opening`: the items and tables of a compiled query.
-/

namespace JoinCanvas

open JoinCanvas.Sql JoinCanvas.Statement JoinCanvas.Text

namespace Statement

variable {α β : Type}

/-- Everything that a parser reads has a property. -/
def Parser.Yields (p : Parser α) (P : α → Prop) : Prop :=
  ∀ ts a rest, p ts = some (a, rest) → P a

namespace Parser.Yields

variable {P : β → Prop}

theorem pure {b : β} (h : P b) : Parser.Yields (Pure.pure b) P := by
  intro ts a rest ha
  obtain ⟨rfl, -⟩ := Prod.mk.inj (Option.some.inj ha)
  exact h

theorem fail : Parser.Yields (Parser.fail : Parser β) P := by
  intro ts a rest ha
  exact absurd ha (by simp [Parser.fail])

theorem bind {p : Parser α} {f : α → Parser β} (h : ∀ a, Parser.Yields (f a) P) : Parser.Yields (p >>= f) P := by
  intro ts b rest hb
  obtain ⟨a, us, -, hb⟩ := Parser.bind_eq_some_iff.1 hb
  exact h a us b rest hb

theorem ite {c : Prop} [Decidable c] {p q : Parser β} (hp : Parser.Yields p P) (hq : Parser.Yields q P) :
    Parser.Yields (if c then p else q) P := by
  split
  · exact hp
  · exact hq

end Parser.Yields

/-- A body that is combined with others is no `SELECT` of its own any more. -/
theorem combined_select (inner : Level) (n prec : Nat) (b : Body) :
    Parser.Yields (QueryGrammar.combined inner n prec b) fun body => body = b ∨ ∃ text, body = .other text := by
  induction n generalizing prec b with
  | zero => exact Parser.Yields.pure (Or.inl rfl)
  | succ n ih =>
    rw [QueryGrammar.combined]
    refine Parser.Yields.bind fun k => ?_
    refine Parser.Yields.ite (Parser.Yields.pure (Or.inl rfl)) ?_
    have hother : ∀ text, Parser.Yields (QueryGrammar.combined inner n prec (.other text)) fun body =>
        body = b ∨ ∃ text, body = .other text := by
      intro text ts body rest hbody
      rcases ih prec (.other text) ts body rest hbody with rfl | h
      · exact Or.inr ⟨_, rfl⟩
      · exact Or.inr h
    -- whichever words stand between the bodies, what is combined goes on as a text
    refine Parser.Yields.bind fun _ => Parser.Yields.bind fun _ => Parser.Yields.bind fun _ => ?_
    repeat' first | exact hother _ | refine Parser.Yields.ite ?_ ?_ | refine Parser.Yields.bind fun _ => ?_

/-- What stands behind the tables of a `SELECT` changes neither its items nor its tables. -/
theorem select_opening {inner : Level} {its : List SelectItem} {fromItem : FromItem} {ts us vs ws : List Token}
    (hquantifier : QueryGrammar.quantifier inner ts = some ("", ts))
    (hitems : Parser.list (QueryGrammar.selectItem inner) ts = some (its, .word "FROM" none :: us))
    (hfrom : Parser.list (TableGrammar.fromItem inner) us = some ([fromItem], vs)) {s : Select}
    (h : QueryGrammar.select inner (.word "SELECT" none :: ts) = some (s, ws)) :
    s.items = its ∧ s.tables = [fromItem] := by
  have hinto : Parser.keyword "INTO" (.word "FROM" none :: us) = some (false, .word "FROM" none :: us) :=
    Parser.keyword_miss (by decide)
  rw [QueryGrammar.select, Parser.bind_eq (Parser.expectKeyword_cons (by decide)), Parser.bind_eq hquantifier,
    Parser.bind_eq hitems, Parser.bind_eq hinto] at h
  simp only [Bool.false_eq_true, if_false] at h
  rw [Parser.bind_eq (Parser.pure_apply _), Parser.bind_eq (Parser.keyword_cons (by decide)), if_pos rfl,
    Parser.bind_eq hfrom] at h
  -- the clauses that follow are read one after another, some only where their keyword stands
  refine Parser.Yields.bind (P := fun s : Select => s.items = its ∧ s.tables = [fromItem]) (fun _ => ?_) vs s ws h
  repeat' first | refine Parser.Yields.ite ?_ ?_ | refine Parser.Yields.bind fun _ => ?_
  all_goals exact Parser.Yields.pure ⟨rfl, rfl⟩

/-- A query that starts with `SELECT` and is read as a single `SELECT` is the one that is read there. -/
theorem query_opening {ts rest : List Token} {q : Query} {s : Select}
    (h : QueryGrammar.query inStatement (.word "SELECT" none :: ts) = some (q, rest)) (hs : q.body = .select s) :
    ∃ us, QueryGrammar.select inStatement (.word "SELECT" none :: ts) = some (s, us) := by
  have hwith : Parser.keyword "WITH" (.word "SELECT" none :: ts) = some (false, .word "SELECT" none :: ts) :=
    Parser.keyword_miss (by decide)
  have hdefinitions : QueryGrammar.definitions inStatement (.word "SELECT" none :: ts) =
      some (none, .word "SELECT" none :: ts) := by
    rw [QueryGrammar.definitions, Parser.bind_eq hwith, if_neg Bool.false_ne_true]
    rfl
  have hkeyword : Parser.keywordOf (some (.word "SELECT" none)) = "SELECT" := by decide
  rw [QueryGrammar.query, Parser.bind_eq hdefinitions, Parser.bind_eq (Parser.size_apply _)] at h
  obtain ⟨body, us, hbody, h⟩ := Parser.bind_eq_some_iff.1 h
  rw [QueryGrammar.simpleBody, Parser.bind_eq (Parser.peekKeyword_cons _ _), if_pos hkeyword] at hbody
  obtain ⟨t, vs, ht, hbody⟩ := Parser.bind_eq_some_iff.1 hbody
  obtain ⟨rfl, rfl⟩ := Prod.mk.inj (Option.some.inj hbody)
  obtain ⟨combined, ws, hcombined, h⟩ := Parser.bind_eq_some_iff.1 h
  -- the order and the limits behind the body leave it as it is
  have hbody : q.body = combined := by
    refine Parser.Yields.bind (P := fun q : Query => q.body = combined) (fun _ => ?_) ws q rest h
    repeat' first | refine Parser.Yields.ite ?_ ?_ | refine Parser.Yields.bind fun _ => ?_
    all_goals exact Parser.Yields.pure rfl
  rcases combined_select _ _ _ _ _ _ _ hcombined with rfl | ⟨text, rfl⟩
  · obtain rfl := Body.select.inj (hs.symm.trans hbody)
    exact ⟨_, ht⟩
  · exact absurd (hs.symm.trans hbody) (by simp)

/-- A text of a single statement that starts with `SELECT` is read as one query. -/
theorem statement_opening {ts : List Token} {q : Query} {n : Nat}
    (h : statements? (n + 1) true (.word "SELECT" none :: ts) = some [.query q]) :
    ∃ rest, QueryGrammar.query inStatement (.word "SELECT" none :: ts) = some (q, rest) := by
  have hdrop : (Token.word "SELECT" none :: ts).dropWhile (· == .sign ";") = .word "SELECT" none :: ts := rfl
  have hkeyword : Parser.keywordOf (some (.word "SELECT" none)) = "SELECT" := by decide
  have hpeek : Parser.peek? (Token.word "SELECT" none :: ts) =
      some (some (.word "SELECT" none), .word "SELECT" none :: ts) := rfl
  rw [statements?, hdrop] at h
  simp only [Bool.true_or, if_true] at h
  obtain ⟨⟨sentence, rest⟩, hsentence, h⟩ := Option.bind_eq_some_iff.1 h
  obtain ⟨others, -, hothers⟩ := Option.map_eq_some_iff.1 h
  obtain ⟨rfl, rfl⟩ := List.cons.inj hothers
  rw [statement, Parser.bind_eq (Parser.peekKeyword_cons _ _), hkeyword, Parser.bind_eq hpeek,
    if_pos (Or.inl rfl)] at hsentence
  obtain ⟨t, us, ht, hsentence⟩ := Parser.bind_eq_some_iff.1 hsentence
  obtain ⟨hquery, rfl⟩ := Prod.mk.inj (Option.some.inj hsentence)
  exact ⟨_, Sentence.query.inj hquery ▸ ht⟩

end Statement

namespace Skeleton

/-- The tokens of a compiled query start with its opening, and its conditions or its grouping come next. -/
theorem tokens_opening {m : Model} {base : Table} {rest : List Table} (htables : m.tables = base :: rest)
    {q : Sql.Query} (hq : m.query? = some q) {ts : List Token} (hts : tokens? q.text = some ts) :
    ∃ us, ts = opening base.id m.tables m.edges ++ us ∧ Next AfterJoins us := by
  obtain ⟨q', opened, hq', hfilters, hgroup, htext, hopened⟩ := writes_opening htables
  obtain rfl := Option.some.inj (hq.symm.trans hq')
  rw [htext] at hts
  by_cases hempty : q.filters.isEmpty = true
  · obtain ⟨hall, hopen⟩ := writes_group q
    rw [Sql.Query.filtersText, if_pos hempty, String.append_empty, (hopened.append hall hopen).tokens_eq,
      Option.some_inj] at hts
    exact ⟨group q.groupByAll, hts.symm, next_where [] q.groupByAll⟩
  · -- the conditions can be any text, so only the word in front of them is known
    have hwhere := hopened.spaced (writes_word (w := "WHERE") (by decide))
    have hsplit : opened ++ q.filtersText ++ q.groupText =
        opened ++ " " ++ "WHERE" ++ (" " ++ (joined " AND " (q.filters.map Sql.Expr.text) ++ q.groupText)) := by
      rw [Sql.Query.filtersText, if_neg hempty]
      simp only [String.append_assoc, show " WHERE " = " " ++ ("WHERE" ++ " ") from rfl]
    rw [hsplit] at hts
    obtain ⟨us, rfl⟩ := hwhere.exists_rest (stops_blank _) hts
    exact ⟨word "WHERE" :: us, by rw [List.append_assoc]; rfl, Next.cons (by decide)⟩

end Skeleton

/-- A compiled query that is read as a single `SELECT` has the selected items and the tables of the canvas, whatever
its conditions are. -/
theorem read_opening {m : Model} {base : Table} {rest : List Table} (hmanual : m.filters.manual? = none)
    (htables : m.tables = base :: rest) {c : Compiled} (hc : m.compile? = some c) {q : Statement.Query}
    {s : Statement.Select} (hq : Statement.read c.sql = some [.query q]) (hs : q.body = .select s) :
    s.items = Skeleton.selectedItems m.tables ∧
      s.tables = [Skeleton.fromItem base.id m.tables (reachedFrom base.id m.tables m.edges)] := by
  obtain ⟨query, hquery, -⟩ := exists_query htables
  obtain rfl := Option.some.inj (hc.symm.trans (compile_eq_of_query hmanual hquery))
  obtain ⟨ts, hts, hq⟩ := Option.bind_eq_some_iff.1 hq
  obtain ⟨us, rfl, hus⟩ := Skeleton.tokens_opening htables hquery hts
  have hopening : Skeleton.opening base.id m.tables m.edges ++ us =
      .word "SELECT" none :: (Skeleton.items m.tables ++ .word "FROM" none :: (Skeleton.table m.tables base.id ++
        (Skeleton.joins m.tables (reachedFrom base.id m.tables m.edges) ++ us))) := by
    simp [Skeleton.opening, Skeleton.word]
  rw [hopening] at hq
  obtain ⟨others, hq⟩ := Statement.statement_opening hq
  obtain ⟨vs, hselect⟩ := Statement.query_opening hq hs
  have hfrom : TableGrammar.fromItem (Level.ofDepth 48) (Skeleton.table m.tables base.id ++
      (Skeleton.joins m.tables (reachedFrom base.id m.tables m.edges) ++ us)) =
      some (Skeleton.fromItem base.id m.tables (reachedFrom base.id m.tables m.edges), us) := by
    rw [htables]
    exact Skeleton.fromItem_canvas base rest m.edges hus
  have hcomma : Next (· ≠ .sign ",") us := hus.mono fun t ht => by
    rintro rfl
    revert ht
    decide
  exact Statement.select_opening (Skeleton.quantifier_items m.tables _) (Skeleton.list_items m.tables _)
    (Statement.list_one hfrom hcomma) hselect

end JoinCanvas
