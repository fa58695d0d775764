import JoinCanvas.Proofs.Statement.Endings

/-!
# Where the tokens of a text stand

What a token that was read says of the characters it was read from, and what stands between two tokens.  A word
without quotes, a number and a sign are written in the text as they are kept; a blank, a comment or nothing at all
stands in front of them.

* `token_spells`: the characters of a token.
* `exists_next`, `exists_parts`: where the first tokens of a text end and the other ones start.
* `reads_of_read`: a text that has tokens is read as them.
-/

namespace JoinCanvas.Statement

open JoinCanvas.Text

/-! ### The characters of a token -/

/-- The text is that of the token and the rest, where the token is kept as it is written. -/
def Token.Spells (cs rest : List Char) : Token → Prop
  | .word text none => cs = text.toList ++ rest ∧ ∀ c ∈ rest.head?, continuesWord c = false
  | .number text long => cs = text.toList ++ (if long then ['L'] else []) ++ rest
  | .sign text => cs = text.toList ++ rest
  | .word _ (some _) | .string .. | .placeholder _ => True

private theorem spanExponent_split (cs : List Char) : (spanExponent cs).1 ++ (spanExponent cs).2 = cs := by
  unfold spanExponent
  dsimp only
  split
  · next e s rest =>
    have hrest := List.takeWhile_append_dropWhile (p := Char.isDigit) (l := rest)
    have hsigned := List.takeWhile_append_dropWhile (p := Char.isDigit) (l := s :: rest)
    split_ifs <;> simp_all
  · rfl

private theorem spanPoint_split (cs : List Char) : (spanPoint cs).1 ++ (spanPoint cs).2 = cs := by
  unfold spanPoint
  split
  · rw [List.cons_append, List.takeWhile_append_dropWhile]
  · rfl

private theorem numberBehind_spells (whole point cs : List Char) :
    (numberBehind whole point cs).1.Spells (whole ++ point ++ cs) (numberBehind whole point cs).2 := by
  have hexponent := spanExponent_split cs
  rcases hspan : spanExponent cs with ⟨exponent, after⟩
  rw [hspan] at hexponent
  simp only [numberBehind, hspan]
  split_ifs with hpoint
  · show whole ++ point ++ cs = ['.'] ++ cs
    rw [hpoint]
  · split
    · simp [Token.Spells, ← hexponent]
    · simp [Token.Spells, ← hexponent]

private theorem number_spells (cs : List Char) : (number cs).1.Spells cs (number cs).2 := by
  by_cases hhex : cs.takeWhile Char.isDigit = ['0'] ∧ (cs.dropWhile Char.isDigit).head? = some 'x'
  · obtain ⟨hzero, hx⟩ := hhex
    obtain ⟨rest, hrest⟩ := List.head?_eq_some_iff.1 hx
    rw [number, hzero, hrest]
    trivial
  · have hbehind := numberBehind_spells (cs.takeWhile Char.isDigit) (spanPoint (cs.dropWhile Char.isDigit)).1
      (spanPoint (cs.dropWhile Char.isDigit)).2
    rw [List.append_assoc, spanPoint_split, List.takeWhile_append_dropWhile] at hbehind
    rwa [number_eq_numberBehind hhex]

private theorem dollarBody_eq_string {mark read cs rest : List Char} {t : Token}
    (h : dollar?.body mark read cs = some (t, rest)) : ∃ text, t = .string .dollar text := by
  induction cs generalizing read with
  | nil => cases h
  | cons c cs ih =>
    rw [dollarBody_cons] at h
    split at h
    · obtain ⟨rfl, -⟩ := Prod.mk.inj (Option.some.inj h)
      exact ⟨_, rfl⟩
    · exact ih h

/-- A token is kept as it is written, or it is quoted or a placeholder. -/
theorem token_spells {cs rest : List Char} {t : Token} (h : token? cs = some (t, rest)) : t.Spells cs rest := by
  cases cs with
  | nil => cases h
  | cons c cs =>
    rcases start_cases c cs with hquote | rfl | rfl | ⟨hletter, hhead⟩ | ⟨hmark, hletter⟩
    · simp only [List.mem_cons, List.not_mem_nil, or_false] at hquote
      rcases hquote with rfl | rfl | rfl
      · obtain ⟨text, rfl, -⟩ := quoted_eq_some_iff.1 h
        trivial
      · obtain ⟨text, rfl, -⟩ := quoted_eq_some_iff.1 h
        trivial
      · have hname : quoted? '\x60' (fun s => .word s (some '\x60')) cs = some (t, rest) := h
        obtain ⟨text, rfl, -⟩ := quoted_eq_some_iff.1 hname
        trivial
    · obtain ⟨rfl, -⟩ := Prod.mk.inj (Option.some.inj h)
      trivial
    · have hdollar : dollar? cs = some (t, rest) := h
      rw [dollar_eq] at hdollar
      split at hdollar
      · obtain ⟨text, rfl⟩ := dollarBody_eq_string hdollar
        trivial
      · obtain ⟨rfl, -⟩ := Prod.mk.inj (Option.some.inj hdollar)
        trivial
    · obtain ⟨cs, rfl⟩ := List.head?_eq_some_iff.1 hhead
      simp only [List.mem_cons, List.not_mem_nil, or_false] at hletter
      rcases hletter with rfl | rfl | rfl | rfl
      all_goals
        obtain ⟨text, rfl, -⟩ := quoted_eq_some_iff.1 h
        trivial
    · rw [token_of_not_mark hmark hletter] at h
      split_ifs at h
      · have hnumber := number_spells (c :: cs)
        rwa [Option.some.inj h] at hnumber
      · obtain ⟨rfl, rfl⟩ := Prod.mk.inj (Option.some.inj h)
        refine ⟨by simp, fun d hd => ?_⟩
        have := List.head?_dropWhile_not continuesWord (c :: cs)
        rw [Option.mem_def.1 hd] at this
        simpa using this
      · obtain ⟨s, hs, hprefix⟩ := List.exists_of_findSome?_eq_some h
        obtain ⟨after, hafter, heq⟩ := Option.map_eq_some_iff.1 hprefix
        obtain ⟨rfl, rfl⟩ := Prod.mk.inj heq
        exact suffix_of_isPrefixOf hafter

/-! ### Between tokens -/

/-- What is passed over between two tokens: blanks, and from the first comment on anything. -/
def PassedOver (gap : List Char) : Prop :=
  ∀ c ∈ (gap.dropWhile isBlank).head?, c = '-' ∨ c = '/'

theorem PassedOver.blank {c : Char} {gap : List Char} (hc : isBlank c = true) (h : PassedOver gap) :
    PassedOver (c :: gap) := by
  rwa [PassedOver, List.dropWhile_cons_of_pos hc]

theorem passedOver_comment {c : Char} (hc : c = '-' ∨ c = '/') (gap : List Char) : PassedOver (c :: gap) := by
  have hblank : isBlank c = false := by
    rcases hc with rfl | rfl <;> decide
  intro d hd
  rw [List.dropWhile_cons_of_neg (by simp [hblank])] at hd
  obtain rfl : c = d := by simpa using hd
  exact hc

private theorem read_nil (n : Nat) : read? n [] = some [] := by
  cases n <;> rfl

/-- The first token of a text: what is passed over in front of it, and what is left behind it. -/
theorem exists_next {n : Nat} {cs : List Char} {t : Token} {us : List Token} (h : read? n cs = some (t :: us)) :
    ∃ gap mid rest m, cs = gap ++ mid ∧ PassedOver gap ∧ Reads mid cs [] ∧ token? mid = some (t, rest) ∧
      Reads rest mid [t] ∧ read? m rest = some us := by
  induction n generalizing cs with
  | zero =>
    cases cs with
    | nil => cases h
    | cons c cs => cases h
  | succ n ih =>
    cases cs with
    | nil =>
      rw [read_nil] at h
      cases h
    | cons c cs =>
      rcases read_cases h with ⟨hblank, hread⟩ | ⟨rest, rfl, rfl, hread⟩ | ⟨rest, after, rfl, rfl, hafter, hread⟩ |
        ⟨t', rest, us', hblank, hline, hblock, htoken, hread, heq⟩
      · obtain ⟨gap, mid, rest, m, rfl, hgap, hmid, htoken⟩ := ih hread
        exact ⟨c :: gap, mid, rest, m, rfl, hgap.blank hblank, hmid.blank hblank, htoken⟩
      · -- what is passed over behind a comment belongs to the gap that the comment opens
        obtain ⟨gap, mid, after, m, hcs, -, hmid, htoken⟩ := ih hread
        obtain ⟨comment, hcomment⟩ : afterLine rest <:+ rest := List.dropWhile_suffix _
        refine ⟨'-' :: '-' :: (comment ++ gap), mid, after, m, ?_, passedOver_comment (Or.inl rfl) _, hmid.line,
          htoken⟩
        rw [← hcomment, hcs]
        simp
      · obtain ⟨gap, mid, after', m, rfl, -, hmid, htoken⟩ := ih hread
        obtain ⟨used, rfl, -⟩ := exists_of_afterBlock hafter
        exact ⟨'/' :: '*' :: (used ++ gap), mid, after', m, by simp, passedOver_comment (Or.inr rfl) _,
          hmid.block hafter, htoken⟩
      · obtain ⟨rfl, rfl⟩ := List.cons.inj heq
        have hlength := (token_suffix htoken).length_le
        exact ⟨[], c :: cs, rest, n, rfl, by simp [PassedOver], reads_tail _, htoken,
          Reads.taken hblank hline hblock htoken hlength (reads_tail rest), hread⟩

/-- Where the first tokens of a text end and the other ones start. -/
theorem exists_parts {n : Nat} {cs : List Char} {ts us : List Token} (h : read? n cs = some (ts ++ us)) :
    ∃ front mid m, cs = front ++ mid ∧ Reads mid cs ts ∧ read? m mid = some us := by
  induction ts generalizing n cs with
  | nil => exact ⟨[], cs, n, rfl, reads_tail cs, h⟩
  | cons t ts ih =>
    obtain ⟨gap, mid, rest, m, rfl, -, hgap, htoken, hmid, hread⟩ := exists_next h
    obtain ⟨front, last, k, rfl, hrest, hlast⟩ := ih hread
    obtain ⟨used, hused⟩ : front ++ last <:+ mid := by
      cases mid with
      | nil => cases htoken
      | cons c mid => exact (token_suffix htoken).trans (List.suffix_cons ..)
    exact ⟨gap ++ used ++ front, last, k, by simp [← hused], (hgap.trans hmid).trans hrest, hlast⟩

/-- A text that has tokens is read as them. -/
theorem reads_of_read {n : Nat} {cs : List Char} {ts : List Token} (h : read? n cs = some ts) : Reads [] cs ts := by
  induction n generalizing cs ts with
  | zero =>
    cases cs with
    | nil =>
      rw [read_nil] at h
      obtain rfl := Option.some.inj h
      exact reads_tail []
    | cons c cs => cases h
  | succ n ih =>
    cases cs with
    | nil =>
      rw [read_nil] at h
      obtain rfl := Option.some.inj h
      exact reads_tail []
    | cons c cs =>
      rcases read_cases h with ⟨hblank, hread⟩ | ⟨rest, rfl, rfl, hread⟩ | ⟨rest, after, rfl, rfl, hafter, hread⟩ |
        ⟨t, rest, us, hblank, hline, hblock, htoken, hread, rfl⟩
      · exact (ih hread).blank hblank
      · exact (ih hread).line
      · exact Reads.block hafter (ih hread)
      · exact Reads.taken hblank hline hblock htoken (token_suffix htoken).length_le (ih hread)

end JoinCanvas.Statement
