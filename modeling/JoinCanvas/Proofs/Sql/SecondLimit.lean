import JoinCanvas.Proofs.Sql.LimitedText
import JoinCanvas.Proofs.Statement.Spelling

/-!
# Texts that have a row limit

A statement whose tokens end in a row limit should get no second one.  The test for a row limit does not read tokens:
it cuts the last line at its first `--` and looks at what stands before that.  So it sees the limit of the statement
exactly when only blanks stand between the word and the number and what is left of the text goes on behind the number
with blanks and at most one semicolon.  A quoted `--` or a comment can hide the limit, and then there are two.

* `limitAt_iff`: when the test sees the limit of the statement.
* `withRowLimit_limited`: the texts that stay as they are, and the tokens of the other ones.
* `withRowLimit_repeats`: a text that gets a second limit.
-/

namespace JoinCanvas.Sql

open JoinCanvas.Text JoinCanvas.Statement

/-! ### Where a text is seen to end in a limit -/

/-- What may follow a row limit: blanks, a semicolon or none, and blanks. -/
def IsClosing (cs : List Char) : Prop :=
  ∃ before semicolon after, cs = before ++ semicolon ++ after ∧ (∀ c ∈ before, isBlank c = true) ∧
    (semicolon = [] ∨ semicolon = [';']) ∧ ∀ c ∈ after, isBlank c = true

/-- The text ends in a row limit whose word starts behind `front`. -/
def LimitAt (cs front : List Char) : Prop :=
  ∃ word gap digits closing, cs = front ++ word ++ gap ++ digits ++ closing ∧
    (IsLimitWord word ∧ ∀ c ∈ front.getLast?, isWordChar c = false) ∧ (gap ≠ [] ∧ ∀ c ∈ gap, isBlank c = true) ∧
    (digits ≠ [] ∧ ∀ c ∈ digits, isAnyDigit c = true) ∧ IsClosing closing

theorem IsClosing.not_isAnyDigit {cs : List Char} (h : IsClosing cs) : ∀ c ∈ cs, isAnyDigit c = false := by
  obtain ⟨before, semicolon, after, rfl, hbefore, hsemicolon, hafter⟩ := h
  intro c hc
  simp only [List.mem_append] at hc
  rcases hc with (hc | hc) | hc
  · exact isAnyDigit_of_isBlank (hbefore c hc)
  · rcases hsemicolon with rfl | rfl
    · cases hc
    · obtain rfl := List.mem_singleton.1 hc
      decide
  · exact isAnyDigit_of_isBlank (hafter c hc)

theorem endsInLimit_iff_limitAt (cs : List Char) : EndsInLimit cs ↔ ∃ front, LimitAt cs front := by
  constructor
  · rintro ⟨_, before, semicolon, after, rfl, ⟨_, gap, digits, rfl, ⟨front, word, rfl, hword⟩, hgap, hdigits⟩, hclosing⟩
    exact ⟨front, word, gap, digits, before ++ semicolon ++ after, by simp, hword, hgap, hdigits, before, semicolon,
      after, rfl, hclosing⟩
  · rintro ⟨front, word, gap, digits, _, rfl, hword, hgap, hdigits, before, semicolon, after, rfl, hclosing⟩
    have hnumber : EndsInNumber (front ++ word ++ gap ++ digits) :=
      ⟨_, gap, digits, rfl, ⟨front, word, rfl, hword⟩, hgap, hdigits⟩
    exact ⟨_, before, semicolon, after, by simp, hnumber, hclosing⟩

/-- What is cut off a text before the test starts with no digit: it is a comment, or blanks and semicolons. -/
theorem exists_limitedPart (cs : List Char) :
    ∃ beyond, cs = limitedPart (statementBody cs) ++ beyond ∧ ∀ c ∈ beyond.head?, isAnyDigit c = false := by
  obtain ⟨run, hcs, hrun⟩ := exists_statementBody cs
  cases hcode : withoutComment? (statementBody cs) with
  | none =>
    refine ⟨run, by rwa [limitedPart, hcode], fun c hc => ?_⟩
    have hbreak := hrun c (List.mem_of_head? hc)
    simp only [isBreak, Bool.or_eq_true, decide_eq_true_eq] at hbreak
    rcases hbreak with hblank | rfl
    · exact isAnyDigit_of_isBlank hblank
    · decide
  | some code =>
    obtain ⟨before, line, comment, hbody, rfl, -⟩ := (withoutComment_eq_some_iff _ _).1 hcode
    refine ⟨['-', '-'] ++ comment ++ run, ?_, ?_⟩
    · rw [limitedPart, hcode, Option.getD_some]
      conv_lhs => rw [hcs, hbody]
      simp
    · intro c hc
      obtain rfl : '-' = c := by simpa using hc
      decide

/-! ### Where a text is read to end in a limit -/

/-- The text is read as the tokens, a word, a number and semicolons; the word and the number stand in it with a gap
between them. -/
structure HoldsLimit (cs : List Char) (us : List Token) (front word gap digits rest : List Char) (k : Nat) : Prop where
  text : cs = front ++ word ++ gap ++ digits ++ rest
  before : Reads (word ++ gap ++ digits ++ rest) cs us
  between : Reads (digits ++ rest) (gap ++ digits ++ rest) []
  behind : Reads [] rest (List.replicate k (.sign ";"))

/-- Semicolons that are read start with no digit. -/
private theorem not_isAnyDigit_of_semicolons {n k : Nat} {rest : List Char}
    (h : read? n rest = some (List.replicate k (.sign ";"))) : ∀ c ∈ rest.head?, isAnyDigit c = false := by
  intro c hc
  obtain ⟨cs, rfl⟩ := List.head?_eq_some_iff.1 hc
  cases n with
  | zero => cases h
  | succ n =>
    rcases read_cases h with ⟨hblank, -⟩ | ⟨rest, rfl, -⟩ | ⟨rest, after, rfl, -⟩ |
      ⟨t, rest, us, -, -, -, htoken, -, hsemicolons⟩
    · exact isAnyDigit_of_isBlank hblank
    · decide
    · decide
    · obtain rfl : t = .sign ";" := List.eq_of_mem_replicate (hsemicolons ▸ List.mem_cons_self)
      have hcs : c :: cs = ';' :: rest := token_spells htoken
      obtain ⟨rfl, -⟩ := List.cons.inj hcs
      decide

/-- Where the limit stands in a text whose tokens end in one. -/
theorem exists_holdsLimit {sql w d : String} {us : List Token} {k : Nat}
    (hts : tokens? sql = some (us ++ [.word w none, .number d false] ++ List.replicate k (.sign ";")))
    (hd : IsDigits d.toList) :
    ∃ front gap rest, HoldsLimit sql.toList us front w.toList gap d.toList rest k ∧ (PassedOver gap ∧ gap ≠ []) ∧
      ∀ c ∈ rest.head?, isAnyDigit c = false := by
  rw [List.append_assoc] at hts
  obtain ⟨front, start, m, hsql, hfront, hread⟩ := exists_parts hts
  obtain ⟨space, mid, between, m', hstart, -, hspace, hword, -, hread'⟩ := exists_next hread
  obtain ⟨gap, number, rest, m'', hbetween, hgap, hnumberGap, hnumber, -, hread''⟩ := exists_next hread'
  obtain ⟨hmid, hend⟩ := token_spells hword
  have hdigits : number = d.toList ++ rest := by simpa [Token.Spells] using token_spells hnumber
  have hne : gap ≠ [] := by
    rintro rfl
    -- without a gap the digits would be part of the word
    obtain ⟨c, cs, hcs⟩ := List.exists_cons_of_ne_nil hd.1
    have hdigit := hd.2 c (by simp [hcs])
    have hstop := hend c (by simp [hbetween, hdigits, hcs])
    rw [continuesWord_iff.2 (Or.inr hdigit)] at hstop
    cases hstop
  subst hdigits hbetween hmid hstart
  refine ⟨front ++ space, gap, rest, ⟨?_, ?_, ?_, reads_of_read hread''⟩, ⟨hgap, hne⟩,
    not_isAnyDigit_of_semicolons hread''⟩
  · simpa using hsql
  · have hbefore := hfront.trans hspace
    simpa using hbefore
  · simpa using hnumberGap

/-! ### The two agree -/

/-- The limit is seen: its word starts a word, only blanks stand between the word and the number, and the text goes
on behind the number with what may follow a limit. -/
def SeesLimit (cs front word gap digits : List Char) : Prop :=
  (∀ c ∈ front.getLast?, isWordChar c = false) ∧ (∀ c ∈ gap, isBlank c = true) ∧
    ∃ closing, IsClosing closing ∧ cs = front ++ word ++ gap ++ digits ++ closing

private theorem exists_head?_append {p : Char → Bool} {cs : List Char} (hne : cs ≠ []) (hcs : ∀ c ∈ cs, p c = true)
    (rest : List Char) : ∃ c ∈ (cs ++ rest).head?, p c = true := by
  obtain ⟨c, cs, rfl⟩ := List.exists_cons_of_ne_nil hne
  exact ⟨c, rfl, hcs c (by simp)⟩

/-- Blanks in front of a digit are all that is passed over there. -/
private theorem eq_of_passedOver {gap gap' digits digits' : List Char} (hgap : PassedOver gap)
    (hgap' : ∀ c ∈ gap', isBlank c = true) (hdigits : ∃ c ∈ digits.head?, isAnyDigit c = true)
    (hdigits' : ∃ c ∈ digits'.head?, isAnyDigit c = true) (heq : gap' ++ digits' = gap ++ digits) :
    gap' = gap ∧ digits' = digits := by
  obtain ⟨c, hc, hdigit⟩ := hdigits
  obtain ⟨c', hc', hdigit'⟩ := hdigits'
  have hdrop : (gap ++ digits).dropWhile isBlank = digits' := by
    rw [← heq]
    refine dropWhile_append_of_stop hgap' fun e he => ?_
    obtain rfl : c' = e := by simpa [Option.mem_def.1 hc'] using he
    exact not_isBlank_of_isAnyDigit hdigit'
  cases hrest : gap.dropWhile isBlank with
  | nil =>
    have hall := List.dropWhile_eq_nil_iff.1 hrest
    have hsame : (gap ++ digits).dropWhile isBlank = digits := by
      refine dropWhile_append_of_stop hall fun e he => ?_
      obtain rfl : c = e := by simpa [Option.mem_def.1 hc] using he
      exact not_isBlank_of_isAnyDigit hdigit
    obtain rfl : digits' = digits := hdrop.symm.trans hsame
    exact ⟨List.append_cancel_right heq, rfl⟩
  | cons e more =>
    -- the digit would be the first character of a comment
    have hmark := hgap e (by simp [hrest])
    rw [List.dropWhile_append, hrest] at hdrop
    have hhead : e = c' := by simpa [← hdrop] using hc'
    subst hhead
    rcases hmark with rfl | rfl <;> exact absurd hdigit' (by decide)

/-- The test sees the limit that the tokens of a text end in exactly when it is in sight. -/
theorem limitAt_iff {cs front word gap digits rest : List Char} {us : List Token} {k : Nat}
    (h : HoldsLimit cs us front word gap digits rest k) (hword : IsLimitWord word) (hdigits : IsDigits digits)
    (hgap : PassedOver gap ∧ gap ≠ []) (hrest : ∀ c ∈ rest.head?, isAnyDigit c = false) :
    LimitAt (limitedPart (statementBody cs)) front ↔
      SeesLimit (limitedPart (statementBody cs)) front word gap digits := by
  have hany : ∀ c ∈ digits, isAnyDigit c = true := fun c hc => isAnyDigit_of_isDigit (hdigits.2 c hc)
  constructor
  · rintro ⟨word', gap', digits', closing, hpart, ⟨hword', hfront⟩, ⟨-, hgap'⟩, ⟨hne', hdigits'⟩, hclosing⟩
    obtain ⟨beyond, hcs, hbeyond⟩ := exists_limitedPart cs
    have hstop : ∀ c ∈ (closing ++ beyond).head?, isAnyDigit c = false := by
      intro c hc
      rw [List.head?_append, Option.mem_def, Option.or_eq_some_iff] at hc
      rcases hc with hc | ⟨-, hc⟩
      · exact hclosing.not_isAnyDigit c (List.mem_of_head? hc)
      · exact hbeyond c hc
    have heq : word' ++ (gap' ++ (digits' ++ (closing ++ beyond))) = word ++ (gap ++ (digits ++ rest)) := by
      have htext := hcs.symm.trans h.text
      rw [hpart] at htext
      simpa using htext
    have hlength : word'.length = word.length := by
      have hfive : word.length = 5 := by simpa using congrArg List.length hword
      have hfive' : word'.length = 5 := by simpa using congrArg List.length hword'
      rw [hfive, hfive']
    -- both words start at the same place and have five letters
    obtain ⟨rfl, heq'⟩ := List.append_inj heq hlength
    obtain ⟨rfl, heq''⟩ := eq_of_passedOver hgap.1 hgap' (exists_head?_append hdigits.1 hany rest)
      (exists_head?_append hne' hdigits' (closing ++ beyond)) heq'
    have htake := takeWhile_append_of_stop hdigits' hstop
    rw [heq'', takeWhile_append_of_stop hany hrest] at htake
    subst htake
    exact ⟨hfront, hgap', closing, hclosing, hpart⟩
  · rintro ⟨hfront, hblank, closing, hclosing, hpart⟩
    exact ⟨word, gap, digits, closing, hpart, ⟨hword, hfront⟩, ⟨hgap.2, hblank⟩, ⟨hdigits.1, hany⟩, hclosing⟩

/-- Of two lists that go on with copies of one member, the one that does not end in it is the start of the other. -/
private theorem exists_replicate {α : Type} {a b : α} {xs ys : List α} {j k : Nat} (hlast : xs.getLast? = some b)
    (hne : b ≠ a) (heq : ys ++ List.replicate j a = xs ++ List.replicate k a) :
    ∃ i ≤ k, ys = xs ++ List.replicate i a := by
  have hnot : b ∉ List.replicate j a := fun hmem => hne (List.eq_of_mem_replicate hmem)
  obtain ⟨mid, rfl, hmid⟩ := exists_middle heq hlast hnot
  have hlength := congrArg List.length hmid
  have hcopies : mid = List.replicate mid.length a := by
    refine List.eq_replicate_iff.2 ⟨rfl, fun e he => List.eq_of_mem_replicate (n := k) ?_⟩
    rw [hmid]
    exact List.mem_append_left _ he
  simp only [List.length_replicate, List.length_append] at hlength
  exact ⟨mid.length, by omega, by rw [← hcopies]⟩

/-- A text whose tokens end in a row limit stays as it is when the test sees that limit, or takes another part of the
text for one.  Otherwise it gets a second limit. -/
theorem withRowLimit_limited {sql w d : String} {us : List Token} {k n : Nat}
    (hts : tokens? sql = some (us ++ [.word w none, .number d false] ++ List.replicate k (.sign ";")))
    (hw : IsLimitWord w.toList) (hd : IsDigits d.toList) :
    ∃ front gap rest, HoldsLimit sql.toList us front w.toList gap d.toList rest k ∧
      (withRowLimit sql n = sql ↔
        SeesLimit (limitedPart (statementBody sql.toList)) front w.toList gap d.toList ∨
          ∃ place ≠ front, LimitAt (limitedPart (statementBody sql.toList)) place) ∧
      (withRowLimit sql n ≠ sql → ∃ j ≤ k, tokens? (withRowLimit sql n) =
        some (us ++ [.word w none, .number d false] ++ List.replicate j (.sign ";") ++ limitTokens n)) := by
  obtain ⟨front, gap, rest, hholds, hgap, hrest⟩ := exists_holdsLimit hts hd
  refine ⟨front, gap, rest, hholds, ?_, fun hne => ?_⟩
  · rw [withRowLimit_eq_self_iff, endsInLimit_iff_limitAt, ← limitAt_iff hholds hw hd hgap hrest]
    constructor
    · rintro ⟨place, hplace⟩
      by_cases hsame : place = front
      · exact Or.inl (hsame ▸ hplace)
      · exact Or.inr ⟨place, hsame, hplace⟩
    · rintro (hplace | ⟨place, -, hplace⟩)
      · exact ⟨front, hplace⟩
      · exact ⟨place, hplace⟩
  · obtain ⟨run, hsql, hrun⟩ := exists_statementBody sql.toList
    have hread := hts
    rw [tokens?, hsql] at hread
    obtain ⟨kept, hkept⟩ := exists_settled hrun hread
    obtain ⟨-, ⟨i, hall⟩, hlimit⟩ := tokens_of_settled hkept hrun n
    rw [← hsql, String.ofList_toList, hts, Option.some_inj] at hall
    have hlast : (us ++ [Token.word w none, .number d false]).getLast? = some (.number d false) := by simp
    obtain ⟨j, hj, rfl⟩ := exists_replicate hlast (by simp) hall.symm
    exact ⟨j, hj, by rw [withRowLimit_of_ne hne, hlimit]⟩

theorem withRowLimit_limited_commented :
    let sql := "SELECT \x27LIMIT 1 -- \x27\nlimit 10; -- at most"
    let us : List Token := [.word "SELECT" none, .string .single "LIMIT 1 -- "]
    tokens? sql = some (us ++ [.word "limit" none, .number "10" false] ++ List.replicate 1 (.sign ";")) ∧
      IsLimitWord "limit".toList ∧ IsDigits "10".toList ∧
      ∃ front gap rest, HoldsLimit sql.toList us front "limit".toList gap "10".toList rest 1 ∧
        (withRowLimit sql 5 = sql ↔
          SeesLimit (limitedPart (statementBody sql.toList)) front "limit".toList gap "10".toList ∨
            ∃ place ≠ front, LimitAt (limitedPart (statementBody sql.toList)) place) ∧
        (withRowLimit sql 5 ≠ sql → ∃ j ≤ 1, tokens? (withRowLimit sql 5) =
          some (us ++ [.word "limit" none, .number "10" false] ++ List.replicate j (.sign ";") ++ limitTokens 5)) := by
  intro sql us
  have hts : tokens? sql = some (us ++ [.word "limit" none, .number "10" false] ++ List.replicate 1 (.sign ";")) := by
    decide +kernel
  have hw : IsLimitWord "limit".toList := rfl
  have hd : IsDigits "10".toList := ⟨by decide, by decide⟩
  exact ⟨hts, hw, hd, withRowLimit_limited hts hw hd⟩

/-- The first `--` of the last line stands in a string, and so the limit behind it is not seen. -/
theorem withRowLimit_repeats :
    let sql := "SELECT \x27a--b\x27 LIMIT 10"
    let ts : List Token :=
      [.word "SELECT" none, .string .single "a--b", .word "LIMIT" none, .number "10" false]
    tokens? sql = some ts ∧ withRowLimit sql 5 = "SELECT \x27a--b\x27 LIMIT 10\nLIMIT 5" ∧
      withRowLimit sql 5 ≠ sql ∧ tokens? (withRowLimit sql 5) = some (ts ++ limitTokens 5) := by
  decide +kernel

end JoinCanvas.Sql
