import JoinCanvas.Proofs.Sql.LimitedQuery
import JoinCanvas.Proofs.Statement.Endings

/-!
# Limited texts

What becomes of a text that gets a row limit.  Only blanks and semicolons are taken off at its end, and the limit goes
where no comment of the text reaches.  So the limit is found again, and it is read as tokens of its own behind those
of the text.  A semicolon that has a comment behind it, or a blank and one more semicolon, is not at the end of the
text and stays.

* `withRowLimit_idem`: a second limit changes nothing, and when the first one does.
* `tokens_limited`: the tokens of a limited text, and when none of its last semicolons is left.
* `withRowLimit_keeps_semicolon`: a text where one is left.
-/

namespace JoinCanvas.Sql

open JoinCanvas.Text JoinCanvas.Statement

/-! ### The text that a limit is appended to -/

/-- Blanks and semicolons are all that is taken off at the end of a text. -/
theorem exists_statementBody (cs : List Char) :
    ∃ run, cs = statementBody cs ++ run ∧ ∀ c ∈ run, isBreak c = true := by
  obtain ⟨outer, houter, hblanks, -⟩ := exists_dropTrailing isBlank cs
  obtain ⟨semicolons, hmiddle, hsemicolons, -⟩ := exists_dropTrailing (· = ';') (trimEnd cs)
  obtain ⟨inner, hinner, hblanks', -⟩ := exists_dropTrailing isBlank (dropTrailing (· = ';') (trimEnd cs))
  refine ⟨inner ++ semicolons ++ outer, ?_, ?_⟩
  · calc cs = trimEnd cs ++ outer := houter
      _ = dropTrailing (· = ';') (trimEnd cs) ++ semicolons ++ outer := by rw [← hmiddle]
      _ = statementBody cs ++ inner ++ semicolons ++ outer := by rw [hinner]; rfl
      _ = statementBody cs ++ (inner ++ semicolons ++ outer) := by simp
  · intro c hc
    simp only [List.mem_append] at hc
    rcases hc with (hc | hc) | hc
    · simp [isBreak, hblanks' c hc]
    · simpa [isBreak] using Or.inr (hsemicolons c hc)
    · simp [isBreak, hblanks c hc]

theorem limitClause_chars (n : Nat) :
    (limitClause n).toList = ['L', 'I', 'M', 'I', 'T', ' '] ++ Nat.toDigits 10 n := by
  simp [limitClause]

theorem limitGap_cases (body : List Char) : limitGap body = '\n' ∨ limitGap body = ' ' := by
  unfold limitGap
  split
  · exact Or.inl rfl
  · exact Or.inr rfl

theorem isBlank_limitGap (body : List Char) : isBlank (limitGap body) = true := by
  rcases limitGap_cases body with h | h <;> rw [h] <;> decide

/-! ### Limits are appended once -/

/-- Behind an appended limit nothing more is taken off. -/
theorem statementBody_limited (cs : List Char) (n : Nat) :
    statementBody (cs ++ (limitClause n).toList) = cs ++ (limitClause n).toList := by
  obtain ⟨hne, hdigits⟩ := isDigits_toDigits n
  have hlast := isSolid_of_isDigit (hdigits _ (List.getLast_mem hne))
  have hnone : ∀ c ∈ ([] : List Char), isBlank c = true := List.forall_mem_nil _
  have hbody := (statementBody_of_last (cs ++ ['L', 'I', 'M', 'I', 'T', ' '] ++ (Nat.toDigits 10 n).dropLast) hlast
    hnone).2
  rwa [List.append_nil, List.append_assoc _ _ [_], List.dropLast_append_getLast hne, List.append_assoc,
    ← limitClause_chars] at hbody

/-- The limit is no part of a comment: it stands on a line of its own, or on one that has none. -/
theorem withoutComment_limited (body : List Char) (n : Nat) :
    withoutComment? (body ++ limitGap body :: (limitClause n).toList) = none := by
  have hclause : ∀ c ∈ (limitClause n).toList, c ≠ '\n' ∧ c ≠ '-' := by
    intro c hc
    rw [limitClause_chars, List.mem_append] at hc
    rcases hc with hc | hc
    · revert c
      decide
    · have hdigit := (isDigits_toDigits n).2 c hc
      constructor <;> rintro rfl <;> exact absurd hdigit (by decide)
  have hfeed : '\n' ∉ (limitClause n).toList := fun h => (hclause _ h).1 rfl
  have hminus : '-' ∉ (limitClause n).toList := fun h => (hclause _ h).2 rfl
  cases hcode : withoutComment? body with
  | some code =>
    have hgap : limitGap body = '\n' := by simp [limitGap, hcode]
    have hsplit : splitLastLine (body ++ '\n' :: (limitClause n).toList) =
        (body ++ ['\n'], (limitClause n).toList) := by
      have hbefore : ∀ c ∈ (body ++ ['\n']).getLast?, c = '\n' := by simp
      have hline := splitLastLine_of hbefore hfeed
      rwa [List.append_assoc, List.singleton_append] at hline
    have hempty : beforeComment? [] = none := rfl
    have hnone := beforeComment_append_of_none hempty hminus
    rw [List.nil_append] at hnone
    simp only [hgap, withoutComment?, hsplit, hnone, Option.map_none]
  | none =>
    have hgap : limitGap body = ' ' := by simp [limitGap, hcode]
    obtain ⟨hbefore, hline⟩ := splitLastLine_spec body
    have hnone : beforeComment? (splitLastLine body).2 = none := Option.map_eq_none_iff.1 hcode
    have hfeed' : '\n' ∉ (splitLastLine body).2 ++ ' ' :: (limitClause n).toList := by simp [hline, hfeed]
    have hminus' : '-' ∉ ' ' :: (limitClause n).toList := by simp [hminus]
    have hsplit := splitLastLine_of hbefore hfeed'
    rw [← List.append_assoc, splitLastLine_append] at hsplit
    have hnone' := beforeComment_append_of_none hnone hminus'
    simp only [hgap, withoutComment?, hsplit, hnone', Option.map_none]

theorem endsInLimit_limited (body : List Char) (n : Nat) :
    EndsInLimit (body ++ limitGap body :: (limitClause n).toList) := by
  obtain ⟨hne, hdigits⟩ := isDigits_toDigits n
  have hgap : isWordChar (limitGap body) = false := by
    rcases limitGap_cases body with h | h <;> rw [h] <;> decide +kernel
  have hword : EndsInWord (body ++ [limitGap body] ++ ['L', 'I', 'M', 'I', 'T']) :=
    ⟨_, _, rfl, rfl, by simpa using hgap⟩
  have hnumber : EndsInNumber (body ++ [limitGap body] ++ ['L', 'I', 'M', 'I', 'T'] ++ [' '] ++ Nat.toDigits 10 n) :=
    ⟨_, _, _, rfl, hword, ⟨by simp, by decide⟩, hne, fun c hc => isAnyDigit_of_isDigit (hdigits c hc)⟩
  refine ⟨_, [], [], [], ?_, hnumber, List.forall_mem_nil _, Or.inl rfl, List.forall_mem_nil _⟩
  simp [limitClause_chars]

/-- All of a limited text is looked at when it gets a limit again. -/
theorem limitedPart_limited (body : List Char) (n : Nat) :
    limitedPart (statementBody (body ++ limitGap body :: (limitClause n).toList)) =
      body ++ limitGap body :: (limitClause n).toList := by
  have hbody : statementBody (body ++ limitGap body :: (limitClause n).toList) =
      body ++ limitGap body :: (limitClause n).toList := by
    rw [List.append_cons]
    exact statementBody_limited (body ++ [limitGap body]) n
  rw [hbody, limitedPart, withoutComment_limited, Option.getD_none]

/-- A text stays as it is exactly when it ends in a row limit. -/
theorem withRowLimit_eq_self_iff (sql : String) (n : Nat) :
    withRowLimit sql n = sql ↔ EndsInLimit (limitedPart (statementBody sql.toList)) := by
  rw [← endsInLimit_iff, withRowLimit_eq]
  constructor
  · intro h
    by_contra hlimit
    rw [if_neg hlimit] at h
    obtain ⟨run, hsql, hrun⟩ := exists_statementBody sql.toList
    -- the limit would be all blanks and semicolons
    have hchars := congrArg String.toList h
    rw [String.toList_ofList] at hchars
    have hclause : limitGap (statementBody sql.toList) :: (limitClause n).toList = run :=
      List.append_cancel_left (hchars.trans hsql)
    have hletter := hrun 'L' (by rw [← hclause, limitClause_chars]; simp)
    exact absurd hletter (by decide)
  · intro hlimit
    rw [if_pos hlimit]

theorem withRowLimit_of_ne {sql : String} {n : Nat} (h : withRowLimit sql n ≠ sql) :
    withRowLimit sql n = String.ofList (statementBody sql.toList ++
      limitGap (statementBody sql.toList) :: (limitClause n).toList) := by
  rw [withRowLimit_eq] at h ⊢
  exact if_neg fun hlimit => h (if_pos hlimit)

/-- A second limit changes nothing, and the first one nothing else than a text that ends in none. -/
theorem withRowLimit_idem (sql : String) (n k : Nat) :
    withRowLimit (withRowLimit sql n) k = withRowLimit sql n ∧
      (withRowLimit sql n = sql ↔ EndsInLimit (limitedPart (statementBody sql.toList))) := by
  refine ⟨?_, withRowLimit_eq_self_iff sql n⟩
  rw [withRowLimit_eq_self_iff]
  by_cases h : withRowLimit sql n = sql
  · rw [h]
    exact (withRowLimit_eq_self_iff sql n).1 h
  · rw [withRowLimit_of_ne h, String.toList_ofList, limitedPart_limited]
    exact endsInLimit_limited _ n

/-! ### Tokens of a limited text -/

/-- The tokens of an appended row limit. -/
def limitTokens (n : Nat) : List Token :=
  [.word "LIMIT" none, .number (String.ofList (Nat.toDigits 10 n)) false]

/-- The tokens without the semicolons at their end. -/
def withoutSemicolons (ts : List Token) : List Token :=
  dropTrailing (· = .sign ";") ts

theorem reads_limitClause (n : Nat) : Reads [] (limitClause n).toList (limitTokens n) := by
  have hnumeral : IsNumeral (Nat.toDigits 10 n) := ⟨_, [], [], by simp, isDigits_toDigits n, Or.inl rfl, Or.inl rfl⟩
  have hend : EndsNumber [] := by simp [EndsNumber]
  have hnumber := reads_numeral hnumeral hend (reads_tail [])
  have hword := reads_word (w := ['L', 'I', 'M', 'I', 'T']) (by decide) (endsWord_cons _ (by decide))
    (hnumber.blank (c := ' ') (by decide))
  rw [List.append_nil] at hword
  rwa [limitClause_chars]

/-- Semicolons behind the tokens of a text are the only ones taken off, unless the text ends in one itself. -/
theorem withoutSemicolons_append_iff (kept : List Token) (k : Nat) :
    withoutSemicolons (kept ++ List.replicate k (.sign ";")) = kept ↔ kept.getLast? ≠ some (.sign ";") := by
  have hall : (List.replicate k (Token.sign ";")).all (· = .sign ";") = true :=
    List.all_eq_true.2 fun t ht => by simpa using List.eq_of_mem_replicate ht
  rw [withoutSemicolons, dropTrailing_append_of_all _ _ _ hall, dropTrailing_eq_self_iff]
  constructor
  · intro h hlast
    simpa using h _ hlast
  · rintro h t ht
    have : t ≠ .sign ";" := fun heq => h (heq ▸ ht)
    simpa using this

/-- In front of breaks a text has its own tokens, and behind them the semicolons that no comment of it takes in. -/
theorem tokens_breaks {resume : List Char → List Char} {body run : List Char} {kept : List Token}
    (h : ReadsBefore resume body kept) (hresume : resume run <:+ run) (hrun : ∀ c ∈ run, isBreak c = true) :
    tokens? (String.ofList (body ++ run)) = some (kept ++ List.replicate ((resume run).count ';') (.sign ";")) := by
  have hrest := reads_breaks fun c hc => hrun c (hresume.subset hc)
  have hall := (h run (breaks_of_all hrun)).trans hrest
  rw [← String.toList_ofList (l := body ++ run)] at hall
  exact hall.tokens_eq

/-- Behind a blank that no comment of the text takes in, a row limit is read. -/
theorem tokens_limit {resume : List Char → List Char} {body : List Char} {kept : List Token} {gap : Char} {n : Nat}
    (h : ReadsBefore resume body kept) (hgap : isBlank gap = true)
    (hresume : resume (gap :: (limitClause n).toList) = gap :: (limitClause n).toList) :
    tokens? (String.ofList (body ++ gap :: (limitClause n).toList)) = some (kept ++ limitTokens n) := by
  have hbreaks : Breaks (gap :: (limitClause n).toList) := by
    intro c hc
    obtain rfl : gap = c := by simpa using hc
    simp [isBreak, hgap]
  have hall := h _ hbreaks
  rw [hresume] at hall
  have hlimited := hall.trans ((reads_limitClause n).blank hgap)
  rw [← String.toList_ofList (l := body ++ _)] at hlimited
  exact hlimited.tokens_eq

/-- A text in front of breaks: its tokens, those with the breaks, and those with a row limit. -/
theorem tokens_of_settled {body run : List Char} {kept : List Token} (h : Settled body kept)
    (hrun : ∀ c ∈ run, isBreak c = true) (n : Nat) :
    tokens? (String.ofList body) = some kept ∧
      (∃ k, tokens? (String.ofList (body ++ run)) = some (kept ++ List.replicate k (.sign ";"))) ∧
      tokens? (String.ofList (body ++ limitGap body :: (limitClause n).toList)) = some (kept ++ limitTokens n) := by
  have hnil : ∀ c ∈ ([] : List Char), isBreak c = true := List.forall_mem_nil _
  rcases h with hread | ⟨hread, front, comment, rfl, hcomment⟩
  · have hself := tokens_breaks hread (List.suffix_refl _) hnil
    rw [List.append_nil] at hself
    exact ⟨hself.trans (by simp), ⟨_, tokens_breaks hread (List.suffix_refl _) hrun⟩,
      tokens_limit hread (isBlank_limitGap body) rfl⟩
  · have hgap : limitGap (front ++ '-' :: '-' :: comment) = '\n' := if_pos (isSome_withoutComment front hcomment)
    have hself := tokens_breaks hread (List.dropWhile_suffix _) hnil
    rw [List.append_nil] at hself
    refine ⟨hself.trans (by simp [afterLine]), ⟨_, tokens_breaks hread (List.dropWhile_suffix _) hrun⟩, ?_⟩
    rw [hgap]
    exact tokens_limit hread (by decide) rfl

/-- A text that gets a row limit keeps the tokens of what stands before its end, and the limit comes behind them.  So
the semicolons at the end of the tokens are gone exactly when none of them stands before the end of the text. -/
theorem tokens_limited {sql : String} {ts : List Token} {n : Nat} (hts : tokens? sql = some ts)
    (hne : withRowLimit sql n ≠ sql) :
    ∃ kept k, ts = kept ++ List.replicate k (.sign ";") ∧
      tokens? (String.ofList (statementBody sql.toList)) = some kept ∧
      tokens? (withRowLimit sql n) = some (kept ++ limitTokens n) ∧
      (tokens? (withRowLimit sql n) = some (withoutSemicolons ts ++ limitTokens n) ↔
        kept.getLast? ≠ some (.sign ";")) := by
  obtain ⟨run, hsql, hrun⟩ := exists_statementBody sql.toList
  have hread := hts
  rw [tokens?, hsql] at hread
  obtain ⟨kept, hkept⟩ := exists_settled hrun hread
  obtain ⟨hbody, ⟨k, hall⟩, hlimit⟩ := tokens_of_settled hkept hrun n
  rw [← hsql, String.ofList_toList, hts, Option.some_inj] at hall
  rw [← withRowLimit_of_ne hne] at hlimit
  refine ⟨kept, k, hall, hbody, hlimit, ?_⟩
  rw [hlimit, Option.some_inj, List.append_left_inj, hall, ← withoutSemicolons_append_iff kept k]
  exact eq_comm

theorem tokens_limited_quoted :
    let sql := "SELECT \x27;\x27 -- of 5 rows;;\n;; "
    let ts : List Token := [.word "SELECT" none, .string .single ";", .sign ";", .sign ";"]
    tokens? sql = some ts ∧ withRowLimit sql 7 ≠ sql ∧
      ∃ kept k, ts = kept ++ List.replicate k (.sign ";") ∧
        tokens? (String.ofList (statementBody sql.toList)) = some kept ∧
        tokens? (withRowLimit sql 7) = some (kept ++ limitTokens 7) ∧
        (tokens? (withRowLimit sql 7) = some (withoutSemicolons ts ++ limitTokens 7) ↔
          kept.getLast? ≠ some (.sign ";")) := by
  intro sql ts
  have hts : tokens? sql = some ts := by decide +kernel
  have hne : withRowLimit sql 7 ≠ sql := by decide +kernel
  exact ⟨hts, hne, tokens_limited hts hne⟩

/-- A semicolon in front of a comment stays between the statement and its limit. -/
theorem withRowLimit_keeps_semicolon :
    let sql := "SELECT 1; -- note"
    let ts : List Token := [.word "SELECT" none, .number "1" false, .sign ";"]
    tokens? sql = some ts ∧ withRowLimit sql 5 = "SELECT 1; -- note\nLIMIT 5" ∧
      tokens? (withRowLimit sql 5) = some (ts ++ limitTokens 5) ∧
      tokens? (withRowLimit sql 5) ≠ some (withoutSemicolons ts ++ limitTokens 5) := by
  decide +kernel

end JoinCanvas.Sql
