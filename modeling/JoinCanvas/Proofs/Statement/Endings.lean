import JoinCanvas.Proofs.Statement.Breaks

/-!
# Texts in front of breaks

A text that can be read with blanks and semicolons behind it is settled: it has tokens of its own, and these are read
in front of any other break as well.  There are two ways in which it can end.  Either the break itself is read next,
or the text ends inside a line comment and everything up to the next line belongs to that.

* `exists_settled`: the text is settled, by induction on the steps of reading.
* `reads_breaks`: what the breaks themselves are read as.
-/

namespace JoinCanvas.Statement

open JoinCanvas.Text

/-- One step of reading that succeeds. -/
theorem read_cases {n : Nat} {c : Char} {cs : List Char} {ts : List Token} (h : read? (n + 1) (c :: cs) = some ts) :
    (isBlank c = true ∧ read? n cs = some ts) ∨
    (∃ rest, c = '-' ∧ cs = '-' :: rest ∧ read? n (afterLine rest) = some ts) ∨
    (∃ rest after, c = '/' ∧ cs = '*' :: rest ∧ afterBlock? 0 rest = some after ∧ read? n after = some ts) ∨
    ∃ t rest us, isBlank c = false ∧ (c = '-' → cs.head? ≠ some '-') ∧ (c = '/' → cs.head? ≠ some '*') ∧
      token? (c :: cs) = some (t, rest) ∧ read? n rest = some us ∧ ts = t :: us := by
  rw [read_succ_cons] at h
  split at h
  · next hblank => exact Or.inl ⟨hblank, h⟩
  · next hblank =>
    split at h
    · next rest => exact Or.inr (Or.inl ⟨rest, rfl, rfl, h⟩)
    · next rest =>
      obtain ⟨after, hafter, hread⟩ := Option.bind_eq_some_iff.1 h
      exact Or.inr (Or.inr (Or.inl ⟨rest, after, rfl, rfl, hafter, hread⟩))
    · next hline hblock =>
      split at h
      · next t rest htoken =>
        obtain ⟨us, hus, rfl⟩ := Option.map_eq_some_iff.1 h
        refine Or.inr (Or.inr (Or.inr ⟨t, rest, us, by simpa using hblank, ?_, ?_, htoken, hus, rfl⟩))
        · rintro rfl hhead
          obtain ⟨after, rfl⟩ := List.head?_eq_some_iff.1 hhead
          exact hline _ rfl rfl
        · rintro rfl hhead
          obtain ⟨after, rfl⟩ := List.head?_eq_some_iff.1 hhead
          exact hblock _ rfl rfl
      · cases h

/-- A line comment is passed over. -/
theorem Reads.line {tail cs : List Char} {ts : List Token} (h : Reads tail (afterLine cs) ts) :
    Reads tail ('-' :: '-' :: cs) ts := by
  have hlength : (afterLine cs).length ≤ cs.length := List.length_dropWhile_le ..
  exact h.passed (by simp; omega) fun _ => rfl

/-- A block comment is passed over. -/
theorem Reads.block {tail cs rest : List Char} {ts : List Token} (hblock : afterBlock? 0 cs = some rest)
    (h : Reads tail rest ts) : Reads tail ('/' :: '*' :: cs) ts := by
  obtain ⟨used, hused, -⟩ := exists_of_afterBlock hblock
  refine h.passed (by simp [hused]; omega) fun n => ?_
  rw [read_succ_cons, if_neg (by decide)]
  simp only [hblock, Option.bind_some]

/-- The text ends inside a line comment. -/
def EndsInComment (cs : List Char) : Prop :=
  ∃ front comment, cs = front ++ '-' :: '-' :: comment ∧ '\n' ∉ comment

theorem EndsInComment.of_suffix {mid cs : List Char} (h : EndsInComment mid) (hmid : mid <:+ cs) :
    EndsInComment cs := by
  obtain ⟨front, comment, rfl, hcomment⟩ := h
  obtain ⟨before, rfl⟩ := hmid
  exact ⟨before ++ front, comment, by simp, hcomment⟩

/-- In front of any break the text is read as the tokens; what follows the break is read from where `resume` leaves
it. -/
def ReadsBefore (resume : List Char → List Char) (cs : List Char) (ts : List Token) : Prop :=
  ∀ tail, Breaks tail → Reads (resume tail) (cs ++ tail) ts

/-- A text is read up to its end, or it ends inside a line comment, behind which the next line is read. -/
def Settled (cs : List Char) (ts : List Token) : Prop :=
  ReadsBefore id cs ts ∨ ReadsBefore afterLine cs ts ∧ EndsInComment cs

theorem Settled.of_suffix {mid cs : List Char} {ts us : List Token} (h : Settled mid us) (hmid : mid <:+ cs)
    (hstep : ∀ resume, ReadsBefore resume mid us → ReadsBefore resume cs ts) : Settled cs ts :=
  h.imp (hstep id) fun hcomment => ⟨hstep afterLine hcomment.1, hcomment.2.of_suffix hmid⟩

theorem afterLine_append_of_mem {cs : List Char} (h : '\n' ∈ cs) (tail : List Char) :
    afterLine (cs ++ tail) = afterLine cs ++ tail := by
  have hne : (cs.dropWhile (· ≠ '\n')).isEmpty = false := by
    rw [List.isEmpty_eq_false_iff, ne_eq, List.dropWhile_eq_nil_iff]
    intro hall
    simpa using hall '\n' h
  rw [afterLine, List.dropWhile_append, hne]
  rfl

theorem afterLine_append_of_notMem {cs : List Char} (h : '\n' ∉ cs) (tail : List Char) :
    afterLine (cs ++ tail) = afterLine tail :=
  List.dropWhile_append_of_pos fun c hc => by
    have : c ≠ '\n' := fun heq => h (heq ▸ hc)
    simpa using this

theorem Settled.blank {c : Char} {cs : List Char} {us : List Token} (hblank : isBlank c = true)
    (h : Settled cs us) : Settled (c :: cs) us :=
  h.of_suffix (List.suffix_cons ..) fun _ hread tail htail => (hread tail htail).blank hblank

/-- A line comment that ends before the text does. -/
theorem Settled.line {cs : List Char} {us : List Token} (hfeed : '\n' ∈ cs) (h : Settled (afterLine cs) us) :
    Settled ('-' :: '-' :: cs) us := by
  have hsuffix : afterLine cs <:+ '-' :: '-' :: cs :=
    (List.dropWhile_suffix _).trans ((List.suffix_cons '-' cs).trans (List.suffix_cons '-' _))
  refine h.of_suffix hsuffix fun resume hread tail htail => ?_
  have hcomment := hread tail htail
  rw [← afterLine_append_of_mem hfeed] at hcomment
  exact hcomment.line

/-- A line comment up to the end of the text. -/
theorem settled_comment {cs : List Char} (hfeed : '\n' ∉ cs) : Settled ('-' :: '-' :: cs) [] := by
  refine Or.inr ⟨fun tail _ => ?_, [], cs, rfl, hfeed⟩
  have hcomment : Reads (afterLine tail) (afterLine (cs ++ tail)) [] := by
    rw [afterLine_append_of_notMem hfeed]
    exact reads_tail _
  exact hcomment.line

theorem Settled.block {cs mid : List Char} {us : List Token} (hmid : mid <:+ cs)
    (hclosed : ∀ tail, afterBlock? 0 (cs ++ tail) = some (mid ++ tail)) (h : Settled mid us) :
    Settled ('/' :: '*' :: cs) us :=
  h.of_suffix (hmid.trans ((List.suffix_cons '*' cs).trans (List.suffix_cons '/' _))) fun _ hread tail htail =>
    Reads.block (hclosed tail) (hread tail htail)

theorem Settled.token {c : Char} {cs mid : List Char} {t : Token} {us : List Token} (hblank : isBlank c = false)
    (hline : c = '-' → cs.head? ≠ some '-') (hblock : c = '/' → cs.head? ≠ some '*')
    (htaken : ∀ tail, Breaks tail → token? (c :: (cs ++ tail)) = some (t, mid ++ tail)) (h : Settled mid us) :
    Settled (c :: cs) (t :: us) := by
  have hmid : mid <:+ cs := by
    have := htaken [] (breaks_of_all (List.forall_mem_nil _))
    rw [List.append_nil, List.append_nil] at this
    exact token_suffix this
  refine h.of_suffix (hmid.trans (List.suffix_cons ..)) fun _ hread tail htail => ?_
  -- no break is the second character of a mark of comments
  have hnext : ∀ d, isBreak d = false → cs.head? ≠ some d → (cs ++ tail).head? ≠ some d := by
    intro d hd hcs
    cases cs with
    | nil => exact htail.head?_ne hd
    | cons e cs => exact hcs
  exact Reads.taken hblank (fun hc => hnext '-' (by decide) (hline hc)) (fun hc => hnext '*' (by decide) (hblock hc))
    (htaken tail htail) (token_suffix (htaken tail htail)).length_le (hread tail htail)

/-- A text that can be read with breaks behind it is read in the same way in front of any break. -/
theorem exists_settled {n : Nat} {cs run : List Char} {ts : List Token} (hrun : ∀ d ∈ run, isBreak d = true)
    (h : read? n (cs ++ run) = some ts) : ∃ us, Settled cs us := by
  induction n generalizing cs ts with
  | zero =>
    cases cs with
    | nil => exact ⟨[], Or.inl fun tail _ => reads_tail tail⟩
    | cons c cs => cases h
  | succ n ih =>
    cases cs with
    | nil => exact ⟨[], Or.inl fun tail _ => reads_tail tail⟩
    | cons c cs =>
      have hbreaks := breaks_of_all hrun
      -- a mark of comments that starts in the text also ends there
      have hmark : ∀ d rest, isBreak d = false → cs ++ run = d :: rest →
          ∃ inner, cs = d :: inner ∧ rest = inner ++ run := by
        intro d rest hd heq
        cases cs with
        | nil => exact absurd (congrArg List.head? heq) (hbreaks.head?_ne hd)
        | cons e inner =>
          obtain ⟨rfl, rfl⟩ := List.cons.inj heq
          exact ⟨inner, rfl, rfl⟩
      rcases read_cases h with ⟨hblank, hread⟩ | ⟨rest, rfl, heq, hread⟩ | ⟨rest, after, rfl, heq, hafter, hread⟩ |
        ⟨t, rest, us, hblank, hline, hblock, htoken, hread, rfl⟩
      · obtain ⟨us, hus⟩ := ih hread
        exact ⟨us, hus.blank hblank⟩
      · obtain ⟨inner, rfl, rfl⟩ := hmark '-' rest (by decide) heq
        by_cases hfeed : '\n' ∈ inner
        · rw [afterLine_append_of_mem hfeed] at hread
          obtain ⟨us, hus⟩ := ih hread
          exact ⟨us, hus.line hfeed⟩
        · exact ⟨[], settled_comment hfeed⟩
      · obtain ⟨inner, rfl, rfl⟩ := hmark '*' rest (by decide) heq
        obtain ⟨mid, hmid, hclosed⟩ := afterBlock_of_breaks hrun hafter
        obtain rfl : mid ++ run = after := Option.some.inj ((hclosed run).symm.trans hafter)
        obtain ⟨us, hus⟩ := ih hread
        exact ⟨us, hus.block hmid hclosed⟩
      · obtain ⟨mid, htaken⟩ := token_of_breaks hrun htoken
        obtain ⟨-, rfl⟩ := Prod.mk.inj (Option.some.inj ((htaken run hbreaks).symm.trans htoken))
        obtain ⟨us, hus⟩ := ih hread
        have hhead : ∀ d, (cs ++ run).head? ≠ some d → cs.head? ≠ some d := by
          intro d hne hhead
          rw [List.head?_append, hhead] at hne
          exact hne rfl
        exact ⟨t :: us, hus.token hblank (fun hc => hhead '-' (hline hc)) (fun hc => hhead '*' (hblock hc)) htaken⟩

/-! ### Breaks -/

/-- Blanks and semicolons are read as the semicolons. -/
theorem reads_breaks {run : List Char} (hrun : ∀ d ∈ run, isBreak d = true) :
    Reads [] run (List.replicate (run.count ';') (.sign ";")) := by
  induction run with
  | nil => exact reads_tail []
  | cons c run ih =>
    have hrest := ih fun d hd => hrun d (List.mem_cons_of_mem _ hd)
    by_cases hc : c = ';'
    · subst hc
      rw [List.count_cons_self, List.replicate_succ]
      exact Reads.taken (by decide) (fun hm => absurd hm (by decide)) (fun hm => absurd hm (by decide)) rfl
        (Nat.le_refl _) hrest
    · have hblank : isBlank c = true := by simpa [isBreak, hc] using hrun c (by simp)
      rw [List.count_cons_of_ne hc]
      exact hrest.blank hblank

end JoinCanvas.Statement
