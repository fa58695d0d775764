import JoinCanvas.Proofs.Statement.Lexing
import Mathlib.Data.List.TakeWhile

/-!
# Tokens in front of breaks

Blanks and semicolons are breaks: whatever stands before them has ended, unless it is a quoted text or a comment that
waits for its closing mark.  No break is part of such a mark.  So a token that was read in front of breaks is the
same in front of any other break.

* `number_append_break`, `sign_append_break`: tokens that end where a character does not go on with them.
* `quoted_of_breaks`, `dollar_of_breaks`, `afterBlock_of_breaks`: texts with a closing mark.
* `token_of_breaks`: every token.
* `token_suffix`: what is left behind a token.
-/

namespace JoinCanvas.Statement

open JoinCanvas.Text

/-- The characters that end whatever token stands before them, unless it waits for a closing mark. -/
def isBreak (c : Char) : Bool :=
  isBlank c || c = ';'

/-- The rest of a text is empty or starts with a break. -/
def Breaks (rest : List Char) : Prop :=
  ∀ c ∈ rest.head?, isBreak c = true

theorem breaks_of_all {run : List Char} (h : ∀ c ∈ run, isBreak c = true) : Breaks run :=
  fun c hc => h c (List.mem_of_head? hc)

theorem ne_of_isBreak {c d : Char} (hc : isBreak c = true) (hd : isBreak d = false) : c ≠ d := by
  rintro rfl
  rw [hc] at hd
  cases hd

theorem notMem_of_isBreak {run : List Char} (h : ∀ c ∈ run, isBreak c = true) {d : Char} (hd : isBreak d = false) :
    d ∉ run :=
  fun hmem => ne_of_isBreak (h d hmem) hd rfl

theorem Breaks.head?_ne {rest : List Char} (h : Breaks rest) {d : Char} (hd : isBreak d = false) :
    rest.head? ≠ some d :=
  fun hhead => ne_of_isBreak (h d hhead) hd rfl

theorem not_isBreak_of_toNat {c : Char} (h : 48 ≤ c.toNat ∧ c.toNat ≤ 122) (hsemicolon : c.toNat ≠ 59) :
    isBreak c = false := by
  have hne : c ≠ ';' := by
    rintro rfl
    exact hsemicolon rfl
  have hblank : isBlank c = false := isBlank_of_toNat (by omega)
  simp [isBreak, hblank, hne]

theorem not_isBreak_of_isDigit {c : Char} (h : c.isDigit = true) : isBreak c = false := by
  have hn := isDigit_iff_toNat.1 h
  exact not_isBreak_of_toNat (by omega) (by omega)

theorem not_isBreak_of_startsWord {c : Char} (h : startsWord c = true) : isBreak c = false := by
  have hn := toNat_of_startsWord h
  exact not_isBreak_of_toNat (by omega) (by omega)

theorem not_isBreak_of_continuesWord {c : Char} (h : continuesWord c = true) : isBreak c = false := by
  rcases continuesWord_iff.1 h with hword | hdigit
  · exact not_isBreak_of_startsWord hword
  · exact not_isBreak_of_isDigit hdigit

theorem not_isBreak_of_hexDigit {c : Char}
    (h : (c.isDigit || ('a' ≤ c && c ≤ 'f') || ('A' ≤ c && c ≤ 'F')) = true) : isBreak c = false := by
  simp only [Bool.or_eq_true, Bool.and_eq_true, decide_eq_true_eq] at h
  rcases h with (hdigit | ⟨hlow, hhigh⟩) | ⟨hlow, hhigh⟩
  · exact not_isBreak_of_isDigit hdigit
  · have hlow : 97 ≤ c.toNat := hlow
    have hhigh : c.toNat ≤ 102 := hhigh
    exact not_isBreak_of_toNat (by omega) (by omega)
  · have hlow : 65 ≤ c.toNat := hlow
    have hhigh : c.toNat ≤ 70 := hhigh
    exact not_isBreak_of_toNat (by omega) (by omega)

variable {tail : List Char}

/-! ### Tokens without a closing mark -/

/-- A run of characters that are no breaks ends where the text does. -/
theorem takeWhile_append_break {p : Char → Bool} (hp : ∀ c, p c = true → isBreak c = false) (cs : List Char)
    (h : Breaks tail) : (cs ++ tail).takeWhile p = cs.takeWhile p := by
  induction cs with
  | nil =>
    refine takeWhile_append_of_stop (List.forall_mem_nil _) fun c hc => Bool.eq_false_iff.2 fun hpc => ?_
    exact ne_of_isBreak (h c hc) (hp c hpc) rfl
  | cons c cs ih =>
    rw [List.cons_append, List.takeWhile_cons, List.takeWhile_cons, ih]

theorem dropWhile_append_break {p : Char → Bool} (hp : ∀ c, p c = true → isBreak c = false) (cs : List Char)
    (h : Breaks tail) : (cs ++ tail).dropWhile p = cs.dropWhile p ++ tail := by
  induction cs with
  | nil =>
    refine dropWhile_append_of_stop (List.forall_mem_nil _) fun c hc => Bool.eq_false_iff.2 fun hpc => ?_
    exact ne_of_isBreak (h c hc) (hp c hpc) rfl
  | cons c cs ih =>
    rw [List.cons_append, List.dropWhile_cons, List.dropWhile_cons, ih]
    split <;> rfl

/-- What is read at the start of a text, and what is left when the text goes on. -/
def goingOn {α : Type} (tail : List Char) (x : α × List Char) : α × List Char :=
  (x.1, x.2 ++ tail)

theorem takeWhile_isDigit_append (cs : List Char) (h : Breaks tail) :
    (cs ++ tail).takeWhile Char.isDigit = cs.takeWhile Char.isDigit :=
  takeWhile_append_break (fun _ => not_isBreak_of_isDigit) cs h

theorem dropWhile_isDigit_append (cs : List Char) (h : Breaks tail) :
    (cs ++ tail).dropWhile Char.isDigit = cs.dropWhile Char.isDigit ++ tail :=
  dropWhile_append_break (fun _ => not_isBreak_of_isDigit) cs h

theorem spanExponent_append_break (cs : List Char) (h : Breaks tail) :
    spanExponent (cs ++ tail) = goingOn tail (spanExponent cs) := by
  match cs with
  | [] =>
    match tail with
    | [] => rfl
    | [c] => rfl
    | c :: d :: tail =>
      have he : c ≠ 'e' ∧ c ≠ 'E' := ⟨ne_of_isBreak (h c rfl) (by decide), ne_of_isBreak (h c rfl) (by decide)⟩
      simp [spanExponent, goingOn, he]
  | [e] =>
    match tail with
    | [] => rfl
    | c :: tail =>
      have hdigit := takeWhile_isDigit_append [] h
      have hsign : c ≠ '+' ∧ c ≠ '-' := ⟨ne_of_isBreak (h c rfl) (by decide), ne_of_isBreak (h c rfl) (by decide)⟩
      rw [List.nil_append] at hdigit
      simp [spanExponent, goingOn, hsign, hdigit]
  | e :: s :: cs =>
    have htake := takeWhile_isDigit_append cs h
    have hdrop := dropWhile_isDigit_append cs h
    have htake' := takeWhile_isDigit_append (s :: cs) h
    have hdrop' := dropWhile_isDigit_append (s :: cs) h
    rw [List.cons_append] at htake' hdrop'
    simp only [spanExponent, List.cons_append, htake, hdrop, htake', hdrop']
    split_ifs <;> simp [goingOn]

/-- The point at the start of a text with the digits behind it, and the rest. -/
def spanPoint : List Char → List Char × List Char
  | '.' :: rest => ('.' :: rest.takeWhile Char.isDigit, rest.dropWhile Char.isDigit)
  | rest => ([], rest)

/-- The number that goes on behind its digits. -/
def numberBehind (whole point rest : List Char) : Token × List Char :=
  if whole ++ point = ['.'] then (.sign ".", rest)
  else
    let (exponent, rest) := spanExponent rest
    match rest with
    | 'L' :: rest => (.number (String.ofList (whole ++ point ++ exponent)) true, rest)
    | rest => (.number (String.ofList (whole ++ point ++ exponent)) false, rest)

theorem number_eq_numberBehind {cs : List Char}
    (h : ¬ (cs.takeWhile Char.isDigit = ['0'] ∧ (cs.dropWhile Char.isDigit).head? = some 'x')) :
    number cs = numberBehind (cs.takeWhile Char.isDigit) (spanPoint (cs.dropWhile Char.isDigit)).1
      (spanPoint (cs.dropWhile Char.isDigit)).2 := by
  unfold number
  generalize cs.takeWhile Char.isDigit = whole at *
  generalize cs.dropWhile Char.isDigit = rest at *
  dsimp only
  split
  · simp at h
  · rfl

theorem spanPoint_append_break (cs : List Char) (h : Breaks tail) :
    spanPoint (cs ++ tail) = goingOn tail (spanPoint cs) := by
  match cs with
  | [] =>
    match tail with
    | [] => rfl
    | c :: tail =>
      have hpoint : c ≠ '.' := ne_of_isBreak (h c rfl) (by decide)
      simp [spanPoint, goingOn, hpoint]
  | c :: cs =>
    by_cases hpoint : c = '.'
    · subst hpoint
      simp [spanPoint, goingOn, takeWhile_isDigit_append cs h, dropWhile_isDigit_append cs h]
    · simp [spanPoint, goingOn, hpoint]

theorem numberBehind_append_break (whole point cs : List Char) (h : Breaks tail) :
    numberBehind whole point (cs ++ tail) = goingOn tail (numberBehind whole point cs) := by
  simp only [numberBehind, spanExponent_append_break cs h, goingOn]
  split_ifs
  · rfl
  · match hrest : (spanExponent cs).2 with
    | [] =>
      match tail with
      | [] => rfl
      | c :: tail =>
        have hlong : c ≠ 'L' := ne_of_isBreak (h c rfl) (by decide)
        simp [hlong]
    | c :: rest =>
      by_cases hlong : c = 'L'
      · subst hlong
        rfl
      · simp [hlong]

theorem number_append_break (cs : List Char) (h : Breaks tail) :
    number (cs ++ tail) = goingOn tail (number cs) := by
  have htake := takeWhile_isDigit_append cs h
  have hdrop := dropWhile_isDigit_append cs h
  by_cases hhex : cs.takeWhile Char.isDigit = ['0'] ∧ (cs.dropWhile Char.isDigit).head? = some 'x'
  · obtain ⟨hzero, hx⟩ := hhex
    obtain ⟨rest, hrest⟩ := List.head?_eq_some_iff.1 hx
    rw [number, number, htake, hdrop, hzero, hrest]
    simp only [List.cons_append, takeWhile_append_break (fun _ => not_isBreak_of_hexDigit) rest h,
      dropWhile_append_break (fun _ => not_isBreak_of_hexDigit) rest h]
    rfl
  · have hhex' : ¬ ((cs ++ tail).takeWhile Char.isDigit = ['0'] ∧
        ((cs ++ tail).dropWhile Char.isDigit).head? = some 'x') := by
      rw [htake, hdrop]
      rintro ⟨hzero, hx⟩
      refine hhex ⟨hzero, ?_⟩
      cases hrest : cs.dropWhile Char.isDigit with
      | nil => exact absurd (by simpa [hrest] using hx) (h.head?_ne (by decide : isBreak 'x' = false))
      | cons c rest => simpa [hrest] using hx
    rw [number_eq_numberBehind hhex, number_eq_numberBehind hhex', htake, hdrop, spanPoint_append_break _ h]
    exact numberBehind_append_break _ _ _ h

theorem isPrefixOf_append_break {s : List Char} (hs : ∀ d ∈ s, isBreak d = false) (cs : List Char)
    (h : Breaks tail) : s.isPrefixOf? (cs ++ tail) = (s.isPrefixOf? cs).map (· ++ tail) := by
  induction s generalizing cs with
  | nil => rfl
  | cons d s ih =>
    cases cs with
    | nil =>
      cases tail with
      | nil => rfl
      | cons c tail =>
        have hne := ne_of_isBreak (h c rfl) (hs d (by simp))
        simp [List.isPrefixOf?, Ne.symm hne]
    | cons c cs =>
      simp only [List.cons_append, List.isPrefixOf?, ih fun e he => hs e (List.mem_cons_of_mem _ he)]
      split <;> rfl

private theorem findSome_signs_append (cs : List Char) (list : List String)
    (hlist : ∀ s ∈ list, s.toList.isPrefixOf? (cs ++ tail) = (s.toList.isPrefixOf? cs).map (· ++ tail)) :
    (list.findSome? fun s => (s.toList.isPrefixOf? (cs ++ tail)).map fun rest => (Token.sign s, rest)) =
      (list.findSome? fun s => (s.toList.isPrefixOf? cs).map fun rest => (Token.sign s, rest)).map
        (goingOn tail) := by
  induction list with
  | nil => rfl
  | cons s list ih =>
    rw [List.findSome?_cons, List.findSome?_cons, hlist s (by simp), ih fun t ht => hlist t (by simp [ht])]
    cases s.toList.isPrefixOf? cs <;> rfl

theorem sign_append_break (c : Char) (cs : List Char) (h : Breaks tail) :
    sign? (c :: (cs ++ tail)) = (sign? (c :: cs)).map (goingOn tail) := by
  -- a sign may start with a semicolon, but no other character of it is a break
  have hsigns : ∀ s ∈ signs, ∃ d ds, s.toList = d :: ds ∧ ∀ e ∈ ds, isBreak e = false := by
    have hall : ∀ s ∈ signs, s.toList ≠ [] ∧ ∀ e ∈ s.toList.tail, isBreak e = false := by decide
    intro s hs
    obtain ⟨d, ds, hds⟩ := List.exists_cons_of_ne_nil (hall s hs).1
    exact ⟨d, ds, hds, by simpa [hds] using (hall s hs).2⟩
  refine findSome_signs_append (c :: cs) signs fun s hs => ?_
  obtain ⟨d, ds, hs, hds⟩ := hsigns s hs
  rw [hs, List.cons_append]
  simp only [List.isPrefixOf?, isPrefixOf_append_break hds cs h]
  split <;> rfl

/-! ### Tokens with a closing mark -/

/-- Where a text was cut, when what stands before the other cut ends in a character that the run does not hold. -/
theorem exists_middle {α : Type} {cs run used rest : List α} (heq : cs ++ run = used ++ rest) {d : α}
    (hlast : used.getLast? = some d) (hd : d ∉ run) : ∃ mid, cs = used ++ mid ∧ rest = mid ++ run := by
  rcases List.append_eq_append_iff.1 heq with ⟨beyond, hused, hrun⟩ | ⟨mid, hcs, hrest⟩
  · rcases List.eq_nil_or_concat beyond with rfl | ⟨front, e, rfl⟩
    · exact ⟨[], by simpa using hused.symm, by simpa using hrun.symm⟩
    · rw [List.concat_eq_append] at hused hrun
      obtain rfl : e = d := by simpa [hused] using hlast
      exact absurd (by simp [hrun]) hd
  · exact ⟨mid, hcs, hrest⟩

/-- A quoted token is read up to its closing quote. -/
theorem unquoted_eq_some_iff {quote : Char} {cs text rest : List Char} :
    Sql.unquoted? quote cs = some (text, rest) ↔
      cs = Sql.doubled quote text ++ quote :: rest ∧ rest.head? ≠ some quote := by
  constructor
  · intro h
    fun_induction Sql.unquoted? quote cs generalizing text rest with
    | case1 => cases h
    | case2 =>
      obtain ⟨rfl, rfl⟩ := Prod.mk.inj (Option.some.inj h)
      exact ⟨rfl, by simp⟩
    | case3 => cases h
    | case4 cs ih =>
      obtain ⟨⟨inner, rest⟩, hinner, heq⟩ := Option.map_eq_some_iff.1 h
      obtain ⟨rfl, rfl⟩ := Prod.mk.inj heq
      obtain ⟨rfl, hrest⟩ := ih hinner
      exact ⟨by rw [Sql.doubled_cons_self]; rfl, hrest⟩
    | case5 d cs hd =>
      obtain ⟨rfl, rfl⟩ := Prod.mk.inj (Option.some.inj h)
      exact ⟨rfl, by simpa using hd⟩
    | case6 c d cs hc ih =>
      obtain ⟨⟨inner, rest⟩, hinner, heq⟩ := Option.map_eq_some_iff.1 h
      obtain ⟨rfl, rfl⟩ := Prod.mk.inj heq
      obtain ⟨hcs, hrest⟩ := ih hinner
      exact ⟨by rw [Sql.doubled_cons_of_ne hc, hcs]; rfl, hrest⟩
  · rintro ⟨rfl, hrest⟩
    exact Sql.unquoted_quoted quote text rest hrest

theorem quoted_eq_some_iff {quote : Char} {token : String → Token} {cs rest : List Char} {t : Token} :
    quoted? quote token cs = some (t, rest) ↔ ∃ text, t = token (String.ofList text) ∧
      cs = Sql.doubled quote text ++ quote :: rest ∧ rest.head? ≠ some quote := by
  rw [quoted?, Option.map_eq_some_iff]
  constructor
  · rintro ⟨⟨text, rest⟩, h, heq⟩
    obtain ⟨rfl, rfl⟩ := Prod.mk.inj heq
    exact ⟨text, rfl, unquoted_eq_some_iff.1 h⟩
  · rintro ⟨text, rfl, h⟩
    exact ⟨(text, rest), unquoted_eq_some_iff.2 h, rfl⟩

/-- The closing quote is no break, so it stands before the breaks at the end of a text. -/
theorem quoted_of_breaks {quote : Char} {token : String → Token} {cs run rest : List Char} {t : Token}
    (hquote : isBreak quote = false) (hrun : ∀ d ∈ run, isBreak d = true)
    (h : quoted? quote token (cs ++ run) = some (t, rest)) :
    ∃ mid, ∀ tail, Breaks tail → quoted? quote token (cs ++ tail) = some (t, mid ++ tail) := by
  obtain ⟨text, rfl, heq, hhead⟩ := quoted_eq_some_iff.1 h
  rw [← List.singleton_append, ← List.append_assoc] at heq
  obtain ⟨mid, rfl, rfl⟩ := exists_middle heq List.getLast?_concat (notMem_of_isBreak hrun hquote)
  refine ⟨mid, fun tail htail => quoted_eq_some_iff.2 ⟨text, rfl, by simp, ?_⟩⟩
  cases mid with
  | nil => exact htail.head?_ne hquote
  | cons d mid => exact hhead

theorem dollarBody_cons (mark read : List Char) (c : Char) (cs : List Char) :
    dollar?.body mark read (c :: cs) =
      match ('$' :: (mark ++ ['$'])).isPrefixOf? (c :: cs) with
      | some rest =>
        some (.string .dollar (String.ofList ('$' :: (mark ++ ['$']) ++ read.reverse ++ '$' :: (mark ++ ['$']))), rest)
      | none => dollar?.body mark (c :: read) cs :=
  rfl

/-- The mark of a string between dollar signs ends in one, so it stands before the breaks at the end of a text. -/
theorem dollarBody_of_breaks {mark read cs run rest : List Char} {t : Token}
    (hmark : ∀ d ∈ mark, isBreak d = false) (hrun : ∀ d ∈ run, isBreak d = true)
    (h : dollar?.body mark read (cs ++ run) = some (t, rest)) :
    ∃ mid, ∀ tail, Breaks tail → dollar?.body mark read (cs ++ tail) = some (t, mid ++ tail) := by
  have hpattern : ∀ d ∈ '$' :: (mark ++ ['$']), isBreak d = false := by
    have hdollar : isBreak '$' = false := by decide
    simpa [hdollar, or_imp, forall_and] using hmark
  induction cs generalizing read with
  | nil =>
    -- no mark starts among breaks
    exfalso
    rw [List.nil_append] at h
    induction run generalizing read with
    | nil => cases h
    | cons c run ih =>
      have hc : '$' ≠ c := Ne.symm (ne_of_isBreak (hrun c (by simp)) (by decide))
      rw [dollarBody_cons] at h
      simp only [List.isPrefixOf?, beq_iff_eq, hc, if_false] at h
      exact ih (fun d hd => hrun d (List.mem_cons_of_mem _ hd)) h
  | cons c cs ih =>
    have hprefix : ∀ tail, Breaks tail → ('$' :: (mark ++ ['$'])).isPrefixOf? (c :: (cs ++ tail)) =
        (('$' :: (mark ++ ['$'])).isPrefixOf? (c :: cs)).map (· ++ tail) :=
      fun tail => isPrefixOf_append_break hpattern (c :: cs)
    rw [List.cons_append, dollarBody_cons, hprefix run (breaks_of_all hrun)] at h
    cases hpre : ('$' :: (mark ++ ['$'])).isPrefixOf? (c :: cs) with
    | some mid =>
      simp only [hpre, Option.map_some] at h
      obtain ⟨rfl, -⟩ := Prod.mk.inj (Option.some.inj h)
      refine ⟨mid, fun tail htail => ?_⟩
      rw [List.cons_append, dollarBody_cons, hprefix tail htail, hpre]
      rfl
    | none =>
      simp only [hpre, Option.map_none] at h
      obtain ⟨mid, hmid⟩ := ih h
      refine ⟨mid, fun tail htail => ?_⟩
      rw [List.cons_append, dollarBody_cons, hprefix tail htail, hpre]
      exact hmid tail htail

theorem dollar_eq (cs : List Char) :
    dollar? cs = match cs.dropWhile continuesWord with
      | '$' :: rest => dollar?.body (cs.takeWhile continuesWord) [] rest
      | rest => some (.placeholder (String.ofList ('$' :: cs.takeWhile continuesWord)), rest) := by
  have hdrop : cs.drop (cs.takeWhile continuesWord).length = cs.dropWhile continuesWord := by
    have hsplit : (cs.takeWhile continuesWord ++ cs.dropWhile continuesWord).drop (cs.takeWhile continuesWord).length =
        cs.dropWhile continuesWord := List.drop_left
    rwa [List.takeWhile_append_dropWhile] at hsplit
  rw [← hdrop]
  rfl

theorem dollar_of_breaks {cs run rest : List Char} {t : Token} (hrun : ∀ d ∈ run, isBreak d = true)
    (h : dollar? (cs ++ run) = some (t, rest)) :
    ∃ mid, ∀ tail, Breaks tail → dollar? (cs ++ tail) = some (t, mid ++ tail) := by
  have htake : ∀ tail, Breaks tail → (cs ++ tail).takeWhile continuesWord = cs.takeWhile continuesWord :=
    fun _ htail => takeWhile_append_break (fun _ => not_isBreak_of_continuesWord) cs htail
  have hdrop : ∀ tail, Breaks tail → (cs ++ tail).dropWhile continuesWord = cs.dropWhile continuesWord ++ tail :=
    fun _ htail => dropWhile_append_break (fun _ => not_isBreak_of_continuesWord) cs htail
  rw [dollar_eq, htake run (breaks_of_all hrun), hdrop run (breaks_of_all hrun)] at h
  by_cases hafter : (cs.dropWhile continuesWord).head? = some '$'
  · obtain ⟨after, hafter⟩ := List.head?_eq_some_iff.1 hafter
    have hmark : ∀ d ∈ cs.takeWhile continuesWord, isBreak d = false :=
      fun d hd => not_isBreak_of_continuesWord (List.mem_takeWhile_imp hd)
    rw [hafter] at h
    obtain ⟨mid, hmid⟩ := dollarBody_of_breaks hmark hrun h
    refine ⟨mid, fun tail htail => ?_⟩
    rw [dollar_eq, htake tail htail, hdrop tail htail, hafter]
    exact hmid tail htail
  · -- no tail brings the second dollar sign, as that is no break
    have hplaceholder : ∀ tail, Breaks tail → dollar? (cs ++ tail) =
        some (.placeholder (String.ofList ('$' :: cs.takeWhile continuesWord)),
          cs.dropWhile continuesWord ++ tail) := by
      intro tail htail
      rw [dollar_eq, htake tail htail, hdrop tail htail]
      split
      · next rest hrest =>
        have hhead := congrArg List.head? hrest
        rw [List.head?_append, List.head?_cons, Option.or_eq_some_iff] at hhead
        rcases hhead with hhead | ⟨-, hhead⟩
        · exact absurd hhead hafter
        · exact absurd hhead (htail.head?_ne (by decide))
      · rfl
    rw [← hdrop run (breaks_of_all hrun), ← htake run (breaks_of_all hrun), ← dollar_eq,
      hplaceholder run (breaks_of_all hrun)] at h
    obtain ⟨rfl, -⟩ := Prod.mk.inj (Option.some.inj h)
    exact ⟨_, hplaceholder⟩

/-- A block comment ends in a slash, and nothing behind that matters to it. -/
theorem exists_of_afterBlock {depth : Nat} {cs rest : List Char} (h : afterBlock? depth cs = some rest) :
    ∃ used, cs = used ++ rest ∧ used.getLast? = some '/' ∧
      ∀ tail, afterBlock? depth (used ++ tail) = some tail := by
  fun_induction afterBlock? depth cs with
  | case1 => cases h
  | case2 depth cs ih =>
    obtain ⟨used, rfl, hlast, hused⟩ := ih h
    refine ⟨'/' :: '*' :: used, rfl, ?_, fun tail => ?_⟩
    · rw [List.getLast?_cons_cons, List.getLast?_cons, hlast]
      rfl
    · exact hused tail
  | case3 cs =>
    obtain rfl := Option.some.inj h
    exact ⟨['*', '/'], rfl, rfl, fun tail => rfl⟩
  | case4 depth cs hdepth ih =>
    obtain ⟨used, rfl, hlast, hused⟩ := ih h
    refine ⟨'*' :: '/' :: used, rfl, ?_, fun tail => ?_⟩
    · rw [List.getLast?_cons_cons, List.getLast?_cons, hlast]
      rfl
    · rw [List.cons_append, List.cons_append, afterBlock?, if_neg hdepth]
      exact hused tail
  | case5 depth c cs hopen hclose ih =>
    obtain ⟨used, rfl, hlast, hused⟩ := ih h
    cases used with
    | nil => cases hlast
    | cons d used =>
      -- both characters of a mark would be used, so there is none in front of another tail either
      refine ⟨c :: d :: used, rfl, by rwa [List.getLast?_cons_cons], fun tail => ?_⟩
      rw [List.cons_append, afterBlock?]
      · exact hused tail
      · rintro _ rfl hstar
        exact hopen _ rfl (congrArg (· :: (used ++ rest)) (List.cons.inj hstar).1)
      · rintro _ rfl hslash
        exact hclose _ rfl (congrArg (· :: (used ++ rest)) (List.cons.inj hslash).1)

theorem afterBlock_of_breaks {cs run rest : List Char} {depth : Nat} (hrun : ∀ d ∈ run, isBreak d = true)
    (h : afterBlock? depth (cs ++ run) = some rest) :
    ∃ mid, mid <:+ cs ∧ ∀ tail, afterBlock? depth (cs ++ tail) = some (mid ++ tail) := by
  obtain ⟨used, heq, hlast, hused⟩ := exists_of_afterBlock h
  obtain ⟨mid, rfl, rfl⟩ := exists_middle heq hlast (notMem_of_isBreak hrun (by decide))
  exact ⟨mid, List.suffix_append .., fun tail => by rw [List.append_assoc, hused]⟩

/-! ### The token at the start of a text -/

/-- A token that starts with a quote is read up to the next one that stands alone. -/
private theorem token_of_quote {c : Char} (hc : c ∈ ['\x27', '"', '\x60']) :
    ∃ token : String → Token, ∀ rest, token? (c :: rest) = quoted? c token rest := by
  simp only [List.mem_cons, List.not_mem_nil, or_false] at hc
  rcases hc with rfl | rfl | rfl
  · exact ⟨.string .single, fun _ => rfl⟩
  · exact ⟨.string .double, fun _ => rfl⟩
  · exact ⟨fun s => .word s (some '\x60'), fun _ => rfl⟩

/-- A letter right before a single quote belongs to the string. -/
private theorem token_of_letter {c : Char} (hc : c ∈ ['N', 'n', 'X', 'x']) :
    ∃ kind, ∀ rest, token? (c :: '\x27' :: rest) = quoted? '\x27' (.string kind) rest := by
  simp only [List.mem_cons, List.not_mem_nil, or_false] at hc
  rcases hc with rfl | rfl | rfl | rfl
  · exact ⟨.national, fun _ => rfl⟩
  · exact ⟨.national, fun _ => rfl⟩
  · exact ⟨.hexadecimal, fun _ => rfl⟩
  · exact ⟨.hexadecimal, fun _ => rfl⟩

private theorem token_of_question (rest : List Char) :
    token? ('?' :: rest) =
      some (.placeholder (String.ofList ('?' :: rest.takeWhile Char.isDigit)), rest.dropWhile Char.isDigit) :=
  rfl

/-- The ways in which a token can start. -/
theorem start_cases (c : Char) (cs : List Char) :
    c ∈ ['\x27', '"', '\x60'] ∨ c = '?' ∨ c = '$' ∨ (c ∈ ['N', 'n', 'X', 'x'] ∧ cs.head? = some '\x27') ∨
      isMark c = false ∧ (c ∈ ['N', 'n', 'X', 'x'] → cs.head? ≠ some '\x27') := by
  by_cases hmark : isMark c = true
  · simp only [isMark, Bool.or_eq_true, decide_eq_true_eq] at hmark
    rcases hmark with (((rfl | rfl) | rfl) | rfl) | rfl <;> simp
  · by_cases hletter : c ∈ ['N', 'n', 'X', 'x'] ∧ cs.head? = some '\x27'
    · exact Or.inr (Or.inr (Or.inr (Or.inl hletter)))
    · exact Or.inr (Or.inr (Or.inr (Or.inr ⟨by simpa using hmark, fun hc hhead => hletter ⟨hc, hhead⟩⟩)))

/-- A token in front of breaks stays what it is in front of any other break. -/
theorem token_of_breaks {c : Char} {cs run rest : List Char} {t : Token} (hrun : ∀ d ∈ run, isBreak d = true)
    (h : token? (c :: (cs ++ run)) = some (t, rest)) :
    ∃ mid, ∀ tail, Breaks tail → token? (c :: (cs ++ tail)) = some (t, mid ++ tail) := by
  have hbreaks := breaks_of_all hrun
  rcases start_cases c cs with hquote | rfl | rfl | ⟨hletter, hhead⟩ | ⟨hmark, hletter⟩
  · obtain ⟨token, htoken⟩ := token_of_quote hquote
    have hbreak : ∀ d ∈ ['\x27', '"', '\x60'], isBreak d = false := by decide
    simp only [htoken] at h ⊢
    exact quoted_of_breaks (hbreak c hquote) hrun h
  · refine ⟨cs.dropWhile Char.isDigit, fun tail htail => ?_⟩
    rw [token_of_question, takeWhile_isDigit_append cs hbreaks] at h
    obtain ⟨rfl, -⟩ := Prod.mk.inj (Option.some.inj h)
    rw [token_of_question, takeWhile_isDigit_append cs htail, dropWhile_isDigit_append cs htail]
  · exact dollar_of_breaks hrun h
  · obtain ⟨cs, rfl⟩ := List.head?_eq_some_iff.1 hhead
    obtain ⟨kind, hkind⟩ := token_of_letter hletter
    simp only [List.cons_append, hkind] at h ⊢
    exact quoted_of_breaks (by decide) hrun h
  · have hnext : ∀ tail, Breaks tail → c ∈ ['N', 'n', 'X', 'x'] → (cs ++ tail).head? ≠ some '\x27' := by
      intro tail htail hc
      cases cs with
      | nil => exact htail.head?_ne (by decide)
      | cons d cs => exact hletter hc
    have htoken : ∀ tail, Breaks tail → token? (c :: (cs ++ tail)) = (token? (c :: cs)).map (goingOn tail) := by
      intro tail htail
      rw [token_of_not_mark hmark (hnext tail htail), token_of_not_mark hmark hletter]
      split_ifs
      · rw [← List.cons_append, number_append_break (c :: cs) htail]
        rfl
      · have hp : ∀ d, continuesWord d = true → isBreak d = false := fun _ => not_isBreak_of_continuesWord
        rw [← List.cons_append, word, takeWhile_append_break hp _ htail, dropWhile_append_break hp _ htail]
        rfl
      · exact sign_append_break c cs htail
    rw [htoken run hbreaks] at h
    obtain ⟨⟨t', mid⟩, hmid, heq⟩ := Option.map_eq_some_iff.1 h
    obtain ⟨rfl, -⟩ := Prod.mk.inj heq
    exact ⟨mid, fun tail htail => by rw [htoken tail htail, hmid]; rfl⟩

/-! ### What is left behind a token -/

private theorem spanExponent_suffix (cs : List Char) : (spanExponent cs).2 <:+ cs := by
  unfold spanExponent
  dsimp only
  split
  · next e s rest =>
    have hrest : rest.dropWhile Char.isDigit <:+ e :: s :: rest :=
      (List.dropWhile_suffix _).trans ((List.suffix_cons s rest).trans (List.suffix_cons e _))
    have hsigned : (s :: rest).dropWhile Char.isDigit <:+ e :: s :: rest :=
      (List.dropWhile_suffix _).trans (List.suffix_cons e _)
    split_ifs <;> first | exact List.suffix_refl _ | assumption
  · exact List.suffix_refl _

private theorem numberBehind_suffix (whole point cs : List Char) : (numberBehind whole point cs).2 <:+ cs := by
  have hexponent := spanExponent_suffix cs
  simp only [numberBehind]
  split_ifs
  · exact List.suffix_refl _
  · split
    · next rest hrest =>
      rw [hrest] at hexponent
      exact (List.suffix_cons ..).trans hexponent
    · exact hexponent

private theorem spanPoint_suffix (cs : List Char) : (spanPoint cs).2 <:+ cs := by
  unfold spanPoint
  split
  · exact (List.dropWhile_suffix _).trans (List.suffix_cons ..)
  · exact List.suffix_refl _

private theorem number_suffix {c : Char} {cs : List Char} (hc : (c.isDigit || c = '.') = true) :
    (number (c :: cs)).2 <:+ cs := by
  by_cases hhex : (c :: cs).takeWhile Char.isDigit = ['0'] ∧ ((c :: cs).dropWhile Char.isDigit).head? = some 'x'
  · obtain ⟨hzero, hx⟩ := hhex
    obtain ⟨rest, hrest⟩ := List.head?_eq_some_iff.1 hx
    have hdigit : c.isDigit = true := by
      by_contra hdigit
      rw [List.takeWhile_cons_of_neg hdigit] at hzero
      cases hzero
    have hdrop : 'x' :: rest <:+ cs := by
      rw [← hrest, List.dropWhile_cons_of_pos hdigit]
      exact List.dropWhile_suffix _
    rw [number, hzero, hrest]
    exact (List.dropWhile_suffix _).trans ((List.suffix_cons ..).trans hdrop)
  · rw [number_eq_numberBehind hhex]
    refine (numberBehind_suffix ..).trans ?_
    by_cases hdigit : c.isDigit = true
    · rw [List.dropWhile_cons_of_pos hdigit]
      exact (spanPoint_suffix _).trans (List.dropWhile_suffix _)
    · obtain rfl : c = '.' := by simpa [hdigit] using hc
      rw [List.dropWhile_cons_of_neg hdigit]
      exact List.dropWhile_suffix _

theorem suffix_of_isPrefixOf {s cs rest : List Char} (h : s.isPrefixOf? cs = some rest) : cs = s ++ rest := by
  induction s generalizing cs with
  | nil => exact Option.some.inj h
  | cons d s ih =>
    cases cs with
    | nil => cases h
    | cons c cs =>
      simp only [List.isPrefixOf?, beq_iff_eq] at h
      split at h
      · next hd => rw [hd, ih h, List.cons_append]
      · cases h

private theorem dollarBody_suffix {mark read cs rest : List Char} {t : Token}
    (h : dollar?.body mark read cs = some (t, rest)) : rest <:+ cs := by
  induction cs generalizing read with
  | nil => cases h
  | cons c cs ih =>
    rw [dollarBody_cons] at h
    split at h
    · next after hafter =>
      obtain ⟨-, rfl⟩ := Prod.mk.inj (Option.some.inj h)
      rw [suffix_of_isPrefixOf hafter]
      exact List.suffix_append ..
    · exact (ih h).trans (List.suffix_cons ..)

private theorem dollar_suffix {cs rest : List Char} {t : Token} (h : dollar? cs = some (t, rest)) : rest <:+ cs := by
  have hdrop := List.dropWhile_suffix (l := cs) continuesWord
  rw [dollar_eq] at h
  split at h
  · next after hafter =>
    rw [hafter] at hdrop
    exact (dollarBody_suffix h).trans ((List.suffix_cons ..).trans hdrop)
  · obtain ⟨-, rfl⟩ := Prod.mk.inj (Option.some.inj h)
    exact hdrop

private theorem quoted_suffix {quote : Char} {token : String → Token} {cs rest : List Char} {t : Token}
    (h : quoted? quote token cs = some (t, rest)) : rest <:+ cs := by
  obtain ⟨text, -, rfl, -⟩ := quoted_eq_some_iff.1 h
  exact (List.suffix_cons ..).trans (List.suffix_append ..)

private theorem sign_suffix {c : Char} {cs rest : List Char} {t : Token} (h : sign? (c :: cs) = some (t, rest)) :
    rest <:+ cs := by
  obtain ⟨s, hs, hprefix⟩ := List.exists_of_findSome?_eq_some h
  obtain ⟨after, hafter, heq⟩ := Option.map_eq_some_iff.1 hprefix
  obtain ⟨-, rfl⟩ := Prod.mk.inj heq
  have hne : ∀ s ∈ signs, s.toList ≠ [] := by decide
  obtain ⟨d, ds, hds⟩ := List.exists_cons_of_ne_nil (hne s hs)
  have hcs := suffix_of_isPrefixOf hafter
  rw [hds, List.cons_append] at hcs
  rw [(List.cons.inj hcs).2]
  exact List.suffix_append ..

/-- A token takes the first character of the text, and what is left is the end of the text. -/
theorem token_suffix {c : Char} {cs rest : List Char} {t : Token} (h : token? (c :: cs) = some (t, rest)) :
    rest <:+ cs := by
  rcases start_cases c cs with hquote | rfl | rfl | ⟨hletter, hhead⟩ | ⟨hmark, hletter⟩
  · obtain ⟨token, htoken⟩ := token_of_quote hquote
    exact quoted_suffix ((htoken cs).symm.trans h)
  · rw [token_of_question] at h
    obtain ⟨-, rfl⟩ := Prod.mk.inj (Option.some.inj h)
    exact List.dropWhile_suffix _
  · exact dollar_suffix h
  · obtain ⟨cs, rfl⟩ := List.head?_eq_some_iff.1 hhead
    obtain ⟨kind, hkind⟩ := token_of_letter hletter
    exact (quoted_suffix ((hkind cs).symm.trans h)).trans (List.suffix_cons ..)
  · rw [token_of_not_mark hmark hletter] at h
    split_ifs at h with hdigit hword
    · obtain ⟨-, rfl⟩ := Prod.mk.inj (Option.some.inj h)
      exact number_suffix hdigit
    · obtain ⟨-, rfl⟩ := Prod.mk.inj (Option.some.inj h)
      rw [List.dropWhile_cons_of_pos (continuesWord_iff.2 (Or.inl hword))]
      exact List.dropWhile_suffix _
    · exact sign_suffix h

end JoinCanvas.Statement
