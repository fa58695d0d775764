import JoinCanvas.Proofs.Statement.Lexing
import JoinCanvas.Sql.RowLimit
import Mathlib.Data.List.TakeWhile

/-!
# When a text ends in a row limit

What the test for a row limit accepts, said without the test: a word, blanks and a number at the end of a text, and
before that the first `--` of the last line, when there is one.

* `endsInLimit_iff`: the texts that end in a row limit.
* `withoutComment_eq_some_iff`: what stands before the comment of the last line.
* `withRowLimit_eq`: what becomes of a text.
-/

namespace JoinCanvas.Text

theorem isAnyDigit_of_isBlank {c : Char} (h : isBlank c = true) : isAnyDigit c = false := by
  have hranges : ∀ r ∈ digitRanges, (13 < r.1 ∨ r.2 < 9) ∧ (0x20 < r.1 ∨ r.2 < 0x20) ∧ (0x85 < r.1 ∨ r.2 < 0x85) ∧
      (0xA0 < r.1 ∨ r.2 < 0xA0) ∧ (0x1680 < r.1 ∨ r.2 < 0x1680) ∧ (0x200A < r.1 ∨ r.2 < 0x2000) ∧
      (0x2028 < r.1 ∨ r.2 < 0x2028) ∧ (0x2029 < r.1 ∨ r.2 < 0x2029) ∧ (0x202F < r.1 ∨ r.2 < 0x202F) ∧
      (0x205F < r.1 ∨ r.2 < 0x205F) ∧ (0x3000 < r.1 ∨ r.2 < 0x3000) := by decide
  rw [Bool.eq_false_iff]
  intro hdigit
  obtain ⟨r, hr, hin⟩ := List.any_eq_true.1 hdigit
  have hr := hranges r hr
  simp only [isBlank, Bool.or_eq_true, Bool.and_eq_true, decide_eq_true_eq, beq_iff_eq] at h hin
  omega

theorem not_isBlank_of_isAnyDigit {c : Char} (h : isAnyDigit c = true) : isBlank c = false := by
  rw [Bool.eq_false_iff]
  intro hblank
  rw [isAnyDigit_of_isBlank hblank] at h
  cases h

theorem isAnyDigit_of_isDigit {c : Char} (h : c.isDigit = true) : isAnyDigit c = true := by
  have hrange : (0x30, 0x39) ∈ digitRanges := by decide
  have hn := Statement.isDigit_iff_toNat.1 h
  exact List.any_eq_true.2 ⟨_, hrange, by simpa using hn⟩

/-- The capital letters are not blank, so a blank that is lowered to a character is that character. -/
theorem eq_of_toLower {c d : Char} (hblank : isBlank c = true) (h : c.toLower = d) : c = d := by
  unfold Char.toLower at h
  split at h
  · next hcapital =>
    have hlow : 65 ≤ c.toNat := hcapital.1
    have hhigh : c.toNat ≤ 90 := hcapital.2
    simp only [isBlank, Bool.or_eq_true, Bool.and_eq_true, decide_eq_true_eq, beq_iff_eq] at hblank
    omega
  · exact h

/-- A list is what is left of it and an end whose members all satisfy the test. -/
theorem exists_dropTrailing {α : Type} (p : α → Bool) (cs : List α) :
    ∃ run, cs = dropTrailing p cs ++ run ∧ (∀ c ∈ run, p c = true) ∧
      ∀ c ∈ (dropTrailing p cs).getLast?, p c = false := by
  induction cs with
  | nil => exact ⟨[], rfl, List.forall_mem_nil _, by simp [dropTrailing]⟩
  | cons c rest ih =>
    obtain ⟨run, hrest, hrun, hstop⟩ := ih
    cases hkept : dropTrailing p rest with
    | nil =>
      rw [hkept, List.nil_append] at hrest
      subst hrest
      by_cases hc : p c = true
      · exact ⟨c :: rest, by simp [dropTrailing, hkept, hc], List.forall_mem_cons.2 ⟨hc, hrun⟩,
          by simp [dropTrailing, hkept, hc]⟩
      · exact ⟨rest, by simp [dropTrailing, hkept, hc], hrun, by simp [dropTrailing, hkept, hc]⟩
    | cons d kept =>
      rw [hkept] at hrest hstop
      refine ⟨run, by simpa [dropTrailing, hkept] using hrest, hrun, ?_⟩
      simpa [dropTrailing, hkept] using hstop

theorem dropTrailing_append_of_stop {α : Type} {p : α → Bool} {cs run : List α} (hrun : ∀ c ∈ run, p c = true)
    (hcs : ∀ c ∈ cs.getLast?, p c = false) : dropTrailing p (cs ++ run) = cs := by
  rw [dropTrailing_append_of_all p cs run (List.all_eq_true.2 hrun)]
  rcases List.eq_nil_or_concat cs with rfl | ⟨front, c, rfl⟩
  · rfl
  · rw [List.concat_eq_append] at hcs ⊢
    exact dropTrailing_append_singleton p front c (hcs c (by simp))

theorem dropTrailing_eq_self_iff {α : Type} {p : α → Bool} {cs : List α} :
    dropTrailing p cs = cs ↔ ∀ c ∈ cs.getLast?, p c = false := by
  constructor
  · intro h
    obtain ⟨-, -, -, hstop⟩ := exists_dropTrailing p cs
    rwa [h] at hstop
  · intro h
    have hnil : ∀ c ∈ ([] : List α), p c = true := List.forall_mem_nil _
    have hdrop := dropTrailing_append_of_stop hnil h
    rwa [List.append_nil] at hdrop

/-- Dropping at the start of the text that is read backwards is dropping its end. -/
theorem dropWhile_reverse (p : Char → Bool) (cs : List Char) :
    cs.reverse.dropWhile p = (dropTrailing p cs).reverse := by
  obtain ⟨run, hcs, hrun, hstop⟩ := exists_dropTrailing p cs
  have hdrop : (run.reverse ++ (dropTrailing p cs).reverse).dropWhile p = (dropTrailing p cs).reverse :=
    Statement.dropWhile_append_of_stop (fun c hc => hrun c (List.mem_reverse.1 hc)) (by rwa [List.head?_reverse])
  rw [← List.reverse_append, ← hcs] at hdrop
  exact hdrop

theorem exists_getLast?_of_run {p : Char → Bool} (front : List Char) {run : List Char} (hne : run ≠ [])
    (hrun : ∀ c ∈ run, p c = true) : ∃ c, (front ++ run).getLast? = some c ∧ p c = true := by
  have hlast := List.getLast_mem hne
  refine ⟨run.getLast hne, ?_, hrun _ hlast⟩
  rw [List.getLast?_append_of_ne_nil _ hne, List.getLast?_eq_some_getLast hne]

theorem run_ne_nil {p : Char → Bool} {front run : List Char} (hstop : ∀ c ∈ front.getLast?, p c = false)
    (h : (front ++ run).getLast?.any p = true) : run ≠ [] := by
  rintro rfl
  obtain ⟨c, hc, hp⟩ := (Option.any_eq_true _ _).1 h
  have hnot := hstop c (by simpa using hc)
  simp [hp] at hnot

end JoinCanvas.Text

namespace JoinCanvas.Sql

open JoinCanvas.Text JoinCanvas.Statement

/-- The word of a row limit, in any case. -/
def IsLimitWord (cs : List Char) : Prop :=
  cs.map Char.toLower = ['l', 'i', 'm', 'i', 't']

/-- A text whose last word is that of a row limit. -/
def EndsInWord (cs : List Char) : Prop :=
  ∃ front word, cs = front ++ word ∧ IsLimitWord word ∧ ∀ c ∈ front.getLast?, isWordChar c = false

/-- A text that ends in a row limit's word, blanks and a number. -/
def EndsInNumber (cs : List Char) : Prop :=
  ∃ front gap digits, cs = front ++ gap ++ digits ∧ EndsInWord front ∧
    (gap ≠ [] ∧ ∀ c ∈ gap, isBlank c = true) ∧ (digits ≠ [] ∧ ∀ c ∈ digits, isAnyDigit c = true)

/-- A text that ends in a row limit.  A semicolon with blanks around it may follow. -/
def EndsInLimit (cs : List Char) : Prop :=
  ∃ front before semicolon after, cs = front ++ before ++ semicolon ++ after ∧ EndsInNumber front ∧
    (∀ c ∈ before, isBlank c = true) ∧ (semicolon = [] ∨ semicolon = [';']) ∧ ∀ c ∈ after, isBlank c = true

theorem EndsInWord.last {cs : List Char} (h : EndsInWord cs) : ∃ c, cs.getLast? = some c ∧ c.toLower = 't' := by
  obtain ⟨front, word, rfl, hword, -⟩ := h
  have hlast := congrArg List.getLast? hword
  rw [List.getLast?_map] at hlast
  obtain ⟨c, hc, hlower⟩ := Option.map_eq_some_iff.1 hlast
  exact ⟨c, by rw [List.getLast?_append, hc, Option.some_or], hlower⟩

theorem EndsInWord.last_not_blank {cs : List Char} (h : EndsInWord cs) : ∀ c ∈ cs.getLast?, isBlank c = false := by
  obtain ⟨d, hd, hlower⟩ := h.last
  intro c hc
  obtain rfl : d = c := by simpa [hd] using hc
  rw [Bool.eq_false_iff]
  intro hblank
  rw [eq_of_toLower hblank hlower] at hblank
  exact absurd hblank (by decide)

theorem EndsInNumber.last {cs : List Char} (h : EndsInNumber cs) : ∃ c, cs.getLast? = some c ∧ isAnyDigit c = true := by
  obtain ⟨front, gap, digits, rfl, -, -, hne, hdigits⟩ := h
  exact exists_getLast?_of_run (front ++ gap) hne hdigits

/-- What stands before the last word of a text that ends in a number, when one blank stands between them. -/
theorem EndsInNumber.endsInWord {front digits : List Char} {b : Char} (h : EndsInNumber (front ++ [b] ++ digits))
    (hfront : ∀ c ∈ front.getLast?, isBlank c = false) (hb : isBlank b = true)
    (hdigits : ∀ c ∈ digits, isBlank c = false) : EndsInWord front := by
  obtain ⟨front', gap, digits', heq, hword, ⟨hne, hgap⟩, -, hdigits'⟩ := h
  obtain ⟨d, hd, hblank⟩ := exists_getLast?_of_run front' hne hgap
  -- the last blank of the text is `b`, and the last of the gap
  have hgapEnd : front ++ [b] = front' ++ gap := by
    have h : dropTrailing (!isBlank ·) (front ++ [b] ++ digits) = front ++ [b] :=
      dropTrailing_append_of_stop (fun c hc => by simp [hdigits c hc]) (by simp [hb])
    have h' : dropTrailing (!isBlank ·) (front' ++ gap ++ digits') = front' ++ gap :=
      dropTrailing_append_of_stop (fun c hc => by simp [not_isBlank_of_isAnyDigit (hdigits' c hc)])
        (by simp [hd, hblank])
    rw [← h, ← h', heq]
  have hfrontEnd : front = front' := by
    have h : dropTrailing isBlank (front ++ [b]) = front := dropTrailing_append_of_stop (by simp [hb]) hfront
    have h' := dropTrailing_append_of_stop hgap hword.last_not_blank
    rw [← h, ← h', hgapEnd]
  exact hfrontEnd ▸ hword

theorem isLimitWord_reverse_iff (cs : List Char) : isLimitWord cs.reverse = true ↔ EndsInWord cs := by
  have hlimit : ['l', 'i', 'm', 'i', 't'].reverse = limitBackwards := rfl
  constructor
  · intro h
    simp only [isLimitWord, Bool.and_eq_true, beq_iff_eq] at h
    refine ⟨(cs.reverse.drop 5).reverse, (cs.reverse.take 5).reverse, ?_, ?_, fun c hc => ?_⟩
    · rw [← List.reverse_append, List.take_append_drop, List.reverse_reverse]
    · rw [IsLimitWord, List.map_reverse, h.1, ← hlimit, List.reverse_reverse]
    · rw [List.getLast?_reverse] at hc
      have hstart := h.2
      rw [Option.mem_def.1 hc] at hstart
      simpa using hstart
  · rintro ⟨front, word, rfl, hword, hfront⟩
    have hlength : word.reverse.length = 5 := by
      have := congrArg List.length hword
      simpa using this
    have hword' : word.reverse.map Char.toLower = limitBackwards := by
      rw [List.map_reverse, hword, hlimit]
    simp only [isLimitWord, List.reverse_append, List.take_left' hlength, List.drop_left' hlength, hword',
      Bool.and_eq_true, beq_self_eq_true, true_and, List.head?_reverse]
    cases hlast : front.getLast? with
    | none => rfl
    | some c => simpa using hfront c hlast

theorem isLimitNumber_reverse_iff (cs : List Char) : isLimitNumber cs.reverse = true ↔ EndsInNumber cs := by
  constructor
  · intro h
    obtain ⟨digits, hcs, hdigits, hstop⟩ := exists_dropTrailing isAnyDigit cs
    obtain ⟨gap, hfront, hgap, hstop'⟩ := exists_dropTrailing isBlank (dropTrailing isAnyDigit cs)
    simp only [isLimitNumber, dropWhile_reverse, List.head?_reverse, Bool.and_eq_true] at h
    obtain ⟨⟨hfirst, hblank⟩, hword⟩ := h
    rw [hcs] at hfirst
    rw [hfront] at hblank
    refine ⟨_, gap, digits, ?_, (isLimitWord_reverse_iff _).1 hword, ⟨run_ne_nil hstop' hblank, hgap⟩,
      run_ne_nil hstop hfirst, hdigits⟩
    rw [← hfront, ← hcs]
  · rintro ⟨front, gap, digits, rfl, hword, ⟨hne', hgap⟩, hne, hdigits⟩
    obtain ⟨d, hd, hdigit⟩ := exists_getLast?_of_run (front ++ gap) hne hdigits
    obtain ⟨b, hb, hblank⟩ := exists_getLast?_of_run front hne' hgap
    have hstop : ∀ c ∈ (front ++ gap).getLast?, isAnyDigit c = false := by
      intro c hc
      obtain rfl : b = c := by simpa [hb] using hc
      exact isAnyDigit_of_isBlank hblank
    have hdrop := dropTrailing_append_of_stop hdigits hstop
    have hdrop' := dropTrailing_append_of_stop hgap hword.last_not_blank
    have hlimit := (isLimitWord_reverse_iff front).2 hword
    simp only [isLimitNumber, dropWhile_reverse, List.head?_reverse, hdrop, hdrop', hlimit, hd, hb, Option.any_some,
      hdigit, hblank, Bool.and_true]

/-- What the test for a row limit accepts. -/
theorem endsInLimit_iff (cs : List Char) : endsInLimit cs = true ↔ EndsInLimit cs := by
  constructor
  · intro h
    obtain ⟨after, hcs, hafter, -⟩ := exists_dropTrailing isBlank cs
    simp only [endsInLimit, dropWhile_reverse] at h
    split at h
    · next backwards hback =>
      have hkept : dropTrailing isBlank cs = backwards.reverse ++ [';'] := by
        rw [← List.reverse_reverse (dropTrailing isBlank cs), hback, List.reverse_cons]
      obtain ⟨before, hrest, hbefore, -⟩ := exists_dropTrailing isBlank backwards.reverse
      rw [← List.reverse_reverse backwards, dropWhile_reverse] at h
      refine ⟨_, before, [';'], after, ?_, (isLimitNumber_reverse_iff _).1 h, hbefore, Or.inr rfl, hafter⟩
      rw [← hrest, ← hkept, ← hcs]
    · refine ⟨_, [], [], after, ?_, (isLimitNumber_reverse_iff _).1 h, List.forall_mem_nil _, Or.inl rfl, hafter⟩
      simpa using hcs
  · rintro ⟨front, before, semicolon, after, rfl, hnumber, hbefore, hsemicolon, hafter⟩
    obtain ⟨d, hd, hdigit⟩ := hnumber.last
    have hlast : ∀ c ∈ front.getLast?, isBlank c = false := by
      intro c hc
      obtain rfl : d = c := by simpa [hd] using hc
      exact not_isBlank_of_isAnyDigit hdigit
    have hlimit := (isLimitNumber_reverse_iff front).2 hnumber
    rcases hsemicolon with rfl | rfl
    · have hdrop : dropTrailing isBlank (front ++ before ++ [] ++ after) = front := by
        rw [List.append_nil, List.append_assoc]
        exact dropTrailing_append_of_stop (fun c hc => (List.mem_append.1 hc).elim (hbefore c) (hafter c)) hlast
      simp only [endsInLimit, dropWhile_reverse, hdrop]
      split
      · next rest hrest =>
        -- the last character of a number is no semicolon
        have hback := congrArg List.head? hrest
        rw [List.head?_reverse, hd] at hback
        obtain rfl : d = ';' := by simpa using hback
        exact absurd hdigit (by decide)
      · exact hlimit
    · have hdrop : dropTrailing isBlank (front ++ before ++ [';'] ++ after) = front ++ before ++ [';'] :=
        dropTrailing_append_of_stop hafter (by simp; decide)
      have hdrop' := dropTrailing_append_of_stop hbefore hlast
      have hback : (front ++ before ++ [';'] ++ after).reverse.dropWhile isBlank =
          ';' :: (front ++ before).reverse := by
        rw [dropWhile_reverse, hdrop, List.reverse_append]
        rfl
      simp only [endsInLimit, hback]
      rwa [dropWhile_reverse, hdrop']

/-- A text whose last character is no blank and no semicolon ends in a row limit when it ends in its number. -/
theorem endsInLimit_of_last {cs : List Char} {c : Char} (hblank : isBlank c = false) (hc : c ≠ ';') :
    endsInLimit (cs ++ [c]) = true ↔ EndsInNumber (cs ++ [c]) := by
  rw [← isLimitNumber_reverse_iff]
  have hback : (cs ++ [c]).reverse.dropWhile isBlank = (cs ++ [c]).reverse := by
    simp [hblank]
  simp only [endsInLimit, hback]
  split
  · next rest hrest =>
    obtain ⟨h, -⟩ : c = ';' ∧ _ := by simpa using hrest
    exact absurd h hc
  · exact Iff.rfl

/-! ### The comment of the last line -/

/-- The text is cut in front of the first `--` of its last line. -/
def CutsComment (cs code : List Char) : Prop :=
  ∃ before line comment, cs = before ++ line ++ ['-', '-'] ++ comment ∧ code = before ++ line ∧
    (∀ c ∈ before.getLast?, c = '\n') ∧ '\n' ∉ line ∧ '\n' ∉ comment ∧ ¬ ['-', '-'] <:+: line ++ ['-']

/-- Of a text that is split, the first part ends with a line feed and the second holds none. -/
theorem splitLastLine_spec (cs : List Char) :
    (∀ c ∈ (splitLastLine cs).1.getLast?, c = '\n') ∧ '\n' ∉ (splitLastLine cs).2 := by
  induction cs with
  | nil => simp [splitLastLine]
  | cons c rest ih =>
    simp only [splitLastLine]
    split
    · next line h =>
      rw [h] at ih
      split
      · next hc => simpa [hc] using ih.2
      · next hc => simpa [Ne.symm hc] using ih.2
    · next before line hbefore h =>
      rw [h] at ih
      cases before with
      | nil => exact (hbefore rfl).elim
      | cons d before => simpa using ih

theorem splitLastLine_of {before line : List Char} (hbefore : ∀ c ∈ before.getLast?, c = '\n') (hline : '\n' ∉ line) :
    splitLastLine (before ++ line) = (before, line) := by
  induction before with
  | nil =>
    rw [List.nil_append]
    induction line with
    | nil => rfl
    | cons c line ih =>
      rw [List.mem_cons, not_or] at hline
      simp only [splitLastLine, ih hline.2, if_neg (Ne.symm hline.1)]
  | cons c before ih =>
    cases before with
    | nil =>
      obtain rfl : c = '\n' := by simpa using hbefore
      have hline' := ih (by simp)
      rw [List.nil_append] at hline'
      simp only [List.singleton_append, splitLastLine, hline', if_pos]
    | cons d before =>
      have := ih (by simpa using hbefore)
      rw [List.cons_append]
      simp only [splitLastLine, this]

private theorem beforeComment_cons {c : Char} {rest : List Char} (h : ¬ (c = '-' ∧ rest.head? = some '-')) :
    beforeComment? (c :: rest) = (beforeComment? rest).map (c :: ·) := by
  rw [beforeComment?]
  rintro tail rfl rfl
  exact h ⟨rfl, rfl⟩

private theorem not_starts {c : Char} {code : List Char} (h : ¬ ['-', '-'] <:+: c :: code) :
    ¬ (c = '-' ∧ code.head? = some '-') ∧ ¬ ['-', '-'] <:+: code := by
  rw [List.infix_cons_iff, not_or] at h
  refine ⟨?_, h.2⟩
  rintro ⟨rfl, hhead⟩
  obtain ⟨rest, rfl⟩ := List.head?_eq_some_iff.1 hhead
  exact h.1 (by simp)

/-- The text before the first comment of a line. -/
theorem beforeComment_eq_some_iff (cs code : List Char) : beforeComment? cs = some code ↔
    ∃ comment, cs = code ++ ['-', '-'] ++ comment ∧ ¬ ['-', '-'] <:+: code ++ ['-'] := by
  constructor
  · intro h
    fun_induction beforeComment? cs generalizing code with
    | case1 rest =>
      obtain rfl : [] = code := by simpa using h
      exact ⟨rest, rfl, by decide⟩
    | case2 => cases h
    | case3 c rest hstart ih =>
      obtain ⟨code, hcode, rfl⟩ := Option.map_eq_some_iff.1 h
      obtain ⟨comment, rfl, hnot⟩ := ih code hcode
      refine ⟨comment, rfl, ?_⟩
      rw [List.cons_append, List.infix_cons_iff, not_or]
      refine ⟨fun hprefix => ?_, hnot⟩
      -- a second minus behind the first would have started the comment
      obtain ⟨rfl, hnext⟩ := List.cons_prefix_cons.1 hprefix
      cases code with
      | nil => exact hstart _ rfl rfl
      | cons d code =>
        obtain ⟨rfl, -⟩ := List.cons_prefix_cons.1 hnext
        exact hstart _ rfl rfl
  · rintro ⟨comment, rfl, hnot⟩
    induction code with
    | nil => rfl
    | cons c code ih =>
      obtain ⟨hstart, hnot⟩ := not_starts hnot
      have hstart' : ¬ (c = '-' ∧ (code ++ ['-', '-'] ++ comment).head? = some '-') := by
        cases code <;> simpa using hstart
      rw [List.cons_append, List.cons_append, beforeComment_cons hstart', ih hnot]
      rfl

/-- What stands before the comment of the last line. -/
theorem withoutComment_eq_some_iff (cs code : List Char) : withoutComment? cs = some code ↔ CutsComment cs code := by
  constructor
  · intro h
    obtain ⟨code, hcode, rfl⟩ := Option.map_eq_some_iff.1 h
    obtain ⟨comment, hline, hnot⟩ := (beforeComment_eq_some_iff _ _).1 hcode
    obtain ⟨hbefore, hfeed⟩ := splitLastLine_spec cs
    have hcs := splitLastLine_append cs
    rw [hline] at hfeed hcs
    refine ⟨_, code, comment, ?_, rfl, hbefore, ?_, ?_, hnot⟩
    · simpa using hcs.symm
    · exact fun hmem => hfeed (by simp [hmem])
    · exact fun hmem => hfeed (by simp [hmem])
  · rintro ⟨before, line, comment, rfl, rfl, hbefore, hline, hcomment, hnot⟩
    have hfeed : '\n' ∉ line ++ ['-', '-'] ++ comment := by
      simp [hline, hcomment]
    have hsplit := splitLastLine_of hbefore hfeed
    have hcut := (beforeComment_eq_some_iff _ line).2 ⟨comment, rfl, hnot⟩
    rw [List.append_assoc, List.append_assoc, ← List.append_assoc line]
    simp only [withoutComment?, hsplit, hcut, Option.map_some]

/-- What has no minus adds no comment to a line. -/
theorem beforeComment_append_of_none {line rest : List Char} (hline : beforeComment? line = none)
    (hrest : '-' ∉ rest) : beforeComment? (line ++ rest) = none := by
  induction line with
  | nil =>
    rw [List.nil_append, Option.eq_none_iff_forall_ne_some]
    intro code hcode
    obtain ⟨comment, rfl, -⟩ := (beforeComment_eq_some_iff _ _).1 hcode
    simp at hrest
  | cons c line ih =>
    by_cases hstart : c = '-' ∧ line.head? = some '-'
    · obtain ⟨rfl, hhead⟩ := hstart
      obtain ⟨after, rfl⟩ := List.head?_eq_some_iff.1 hhead
      cases hline
    · rw [beforeComment_cons hstart, Option.map_eq_none_iff] at hline
      have hstart' : ¬ (c = '-' ∧ (line ++ rest).head? = some '-') := by
        rintro ⟨rfl, hhead⟩
        cases line with
        | nil => exact hrest (List.mem_of_head? hhead)
        | cons d line => exact hstart ⟨rfl, hhead⟩
      rw [List.cons_append, beforeComment_cons hstart', ih hline, Option.map_none]

theorem isSome_beforeComment (line comment : List Char) :
    (beforeComment? (line ++ '-' :: '-' :: comment)).isSome = true := by
  induction line with
  | nil => rfl
  | cons c line ih =>
    by_cases hstart : c = '-' ∧ (line ++ '-' :: '-' :: comment).head? = some '-'
    · obtain ⟨rfl, hhead⟩ := hstart
      obtain ⟨after, hafter⟩ := List.head?_eq_some_iff.1 hhead
      rw [List.cons_append, hafter]
      rfl
    · rwa [List.cons_append, beforeComment_cons hstart, Option.isSome_map]

/-- A comment that goes on to the end of the text is found in its last line. -/
theorem isSome_withoutComment (front : List Char) {comment : List Char} (hcomment : '\n' ∉ comment) :
    (withoutComment? (front ++ '-' :: '-' :: comment)).isSome = true := by
  obtain ⟨hbefore, hline⟩ := splitLastLine_spec front
  have hfeed : '\n' ∉ (splitLastLine front).2 ++ '-' :: '-' :: comment := by
    simp [hline, hcomment]
  have hsplit := splitLastLine_of hbefore hfeed
  rw [← List.append_assoc, splitLastLine_append] at hsplit
  simp only [withoutComment?, hsplit, Option.isSome_map, isSome_beforeComment]

/-! ### What becomes of a text -/

/-- What is looked at for a row limit: the text before the comment of its last line, or all of it. -/
def limitedPart (body : List Char) : List Char :=
  (withoutComment? body).getD body

/-- What stands before an appended row limit: a line feed behind a comment, else a blank. -/
def limitGap (body : List Char) : Char :=
  if (withoutComment? body).isSome then '\n' else ' '

/-- A text that ends in a row limit stays as it is.  Any other one is left without the blanks and semicolons at its
end and goes on with the limit. -/
theorem withRowLimit_eq (sql : String) (n : Nat) :
    withRowLimit sql n =
      if endsInLimit (limitedPart (statementBody sql.toList)) then sql
      else String.ofList (statementBody sql.toList ++ limitGap (statementBody sql.toList) ::
        (limitClause n).toList) := by
  cases hcode : withoutComment? (statementBody sql.toList) <;>
    simp [withRowLimit, limitedPart, limitGap, hcode, String.append_assoc]

end JoinCanvas.Sql
