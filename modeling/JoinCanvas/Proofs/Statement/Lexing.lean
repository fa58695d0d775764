import JoinCanvas.Statement.Token
import Mathlib.Data.List.Basic

/-!
# Reading written tokens

How a text that was put together from tokens is taken apart again.  `Reads` says that characters are read as tokens;
`Writes` that a text is read as tokens in front of anything that starts with a blank, a comma or a closing
parenthesis, which is what stands behind every part of a written query.

* `writes_word`, `writes_quotedName`, `writes_quotedString`: words, names and strings.
* `Writes.append`, `Writes.spaced`, `writes_joined`: parts of a text one after another.
* `Writes.tokens_eq`: what a whole text is read as.
-/

namespace JoinCanvas.Statement

open JoinCanvas.Text

-- A property of all characters of a list is decided along the list, never by a search through all characters.
instance decidableForallMemChars {p : Char → Prop} [DecidablePred p] (cs : List Char) : Decidable (∀ c ∈ cs, p c) :=
  List.decidableBAll p cs

instance decidableForallMemChar? {p : Char → Prop} [DecidablePred p] (o : Option Char) : Decidable (∀ c ∈ o, p c) :=
  Option.decidableForallMem o

/-- One step of reading: a blank or a comment is passed over, a token is taken. -/
theorem read_succ_cons (n : Nat) (c : Char) (cs : List Char) :
    read? (n + 1) (c :: cs) =
      if isBlank c then read? n cs
      else
        match c, cs with
        | '-', '-' :: rest => read? n (afterLine rest)
        | '/', '*' :: rest => (afterBlock? 0 rest).bind (read? n)
        | _, _ =>
          match token? (c :: cs) with
          | some (t, rest) => (read? n rest).map (t :: ·)
          | none => none :=
  rfl

/-- The characters are read as the tokens up to the tail, in as many steps as there are characters or more; the tail
is read from there, whatever it is. -/
def Reads (tail cs : List Char) (ts : List Token) : Prop :=
  ∀ n, cs.length ≤ n → ∃ k, tail.length ≤ k ∧ read? n cs = (read? k tail).map (ts ++ ·)

variable {tail : List Char}

theorem reads_tail (tail : List Char) : Reads tail tail [] :=
  fun n hn => ⟨n, hn, by simp⟩

/-- What was read up to the tail goes on with what is read of the tail. -/
theorem Reads.trans {mid cs : List Char} {ts us : List Token} (h : Reads mid cs ts) (hmid : Reads tail mid us) :
    Reads tail cs (ts ++ us) := by
  intro n hn
  obtain ⟨m, hm, hcs⟩ := h n hn
  obtain ⟨k, hk, htail⟩ := hmid m hm
  refine ⟨k, hk, ?_⟩
  rw [hcs, htail, Option.map_map]
  simp only [Function.comp_def, List.append_assoc]

/-- What a step passes over leaves no token. -/
theorem Reads.passed {c : Char} {cs rest : List Char} {ts : List Token} (hlen : rest.length ≤ cs.length)
    (hstep : ∀ n, read? (n + 1) (c :: cs) = read? n rest) (h : Reads tail rest ts) : Reads tail (c :: cs) ts := by
  intro n hn
  obtain ⟨n, rfl⟩ : ∃ k, n = k + 1 := ⟨n - 1, by simp at hn; omega⟩
  rw [hstep]
  exact h n (by simp at hn; omega)

theorem Reads.blank {c : Char} {cs : List Char} {ts : List Token} (hc : isBlank c = true) (h : Reads tail cs ts) :
    Reads tail (c :: cs) ts :=
  h.passed (Nat.le_refl _) fun n => by rw [read_succ_cons, if_pos hc]

/-- A token that is not the start of a comment is read, and then the rest. -/
theorem Reads.taken {c : Char} {cs rest : List Char} {t : Token} {ts : List Token} (hb : isBlank c = false)
    (hline : c = '-' → cs.head? ≠ some '-') (hblock : c = '/' → cs.head? ≠ some '*')
    (ht : token? (c :: cs) = some (t, rest)) (hlen : rest.length ≤ cs.length) (h : Reads tail rest ts) :
    Reads tail (c :: cs) (t :: ts) := by
  intro n hn
  obtain ⟨n, rfl⟩ : ∃ k, n = k + 1 := ⟨n - 1, by simp at hn; omega⟩
  obtain ⟨k, hk, hrest⟩ := h n (by simp at hn; omega)
  refine ⟨k, hk, ?_⟩
  rw [read_succ_cons, if_neg (by simp [hb])]
  split
  · exact absurd rfl (hline rfl)
  · exact absurd rfl (hblock rfl)
  · simp only [ht, hrest, Option.map_map, Function.comp_def, List.cons_append]

theorem Reads.token {c : Char} {cs rest : List Char} {t : Token} {ts : List Token} (hb : isBlank c = false)
    (hline : c = '-' → cs.head? ≠ some '-') (hblock : c ≠ '/') (ht : token? (c :: cs) = some (t, rest))
    (hlen : rest.length ≤ cs.length) (h : Reads tail rest ts) : Reads tail (c :: cs) (t :: ts) :=
  h.taken hb hline (fun hc => absurd hc hblock) ht hlen

/-- A text has the tokens of what it is read as. -/
theorem Reads.tokens_eq {s : String} {ts : List Token} (h : Reads [] s.toList ts) : tokens? s = some ts := by
  obtain ⟨k, -, hk⟩ := h _ (Nat.le_refl _)
  have hnil : read? k [] = some [] := by cases k <;> rfl
  rw [tokens?, hk, hnil, Option.map_some, List.append_nil]

/-! ### Single tokens -/

/-- The characters that start a token of their own kind. -/
def isMark (c : Char) : Bool :=
  c = '\x27' || c = '"' || c = '\x60' || c = '?' || c = '$'

/-- A token that is neither quoted nor a placeholder is a number, a word or a sign. -/
theorem token_of_not_mark {c : Char} {cs : List Char} (hc : isMark c = false)
    (hcs : c ∈ ['N', 'n', 'X', 'x'] → cs.head? ≠ some '\x27') :
    token? (c :: cs) =
      if c.isDigit || c = '.' then some (number (c :: cs))
      else if startsWord c then some (word (c :: cs)) else sign? (c :: cs) := by
  unfold token?
  split <;> simp_all [isMark]

/-- A word without quotes: a start and characters that can go on with it. -/
def IsWord (cs : List Char) : Prop :=
  (∃ c ∈ cs.head?, startsWord c = true) ∧ ∀ c ∈ cs, continuesWord c = true

instance (cs : List Char) : Decidable (IsWord cs) :=
  decidable_of_iff (cs.head?.any startsWord = true ∧ cs.all continuesWord = true)
    (by simp [IsWord, Option.any_eq_true])

/-- The rest of a text ends a word. -/
def EndsWord (rest : List Char) : Prop :=
  ∀ c ∈ rest.head?, continuesWord c = false ∧ c ≠ '\x27'

theorem endsWord_cons {c : Char} (rest : List Char) (h : continuesWord c = false ∧ c ≠ '\x27') :
    EndsWord (c :: rest) := by
  intro d hd
  obtain rfl : c = d := by simpa using hd
  exact h

/-- The longest start of a text whose characters satisfy `p`, where the rest does not go on with it. -/
theorem takeWhile_append_of_stop {p : Char → Bool} {cs rest : List Char} (hcs : ∀ c ∈ cs, p c = true)
    (hrest : ∀ c ∈ rest.head?, p c = false) : (cs ++ rest).takeWhile p = cs := by
  rw [List.takeWhile_append_of_pos hcs]
  cases rest with
  | nil => simp
  | cons c rest => simp [hrest c rfl]

theorem dropWhile_append_of_stop {p : Char → Bool} {cs rest : List Char} (hcs : ∀ c ∈ cs, p c = true)
    (hrest : ∀ c ∈ rest.head?, p c = false) : (cs ++ rest).dropWhile p = rest := by
  rw [List.dropWhile_append_of_pos hcs]
  cases rest with
  | nil => simp
  | cons c rest => simp [hrest c rfl]

theorem toNat_of_startsWord {c : Char} (h : startsWord c = true) : 65 ≤ c.toNat ∧ c.toNat ≤ 122 := by
  simp only [startsWord, Bool.or_eq_true, decide_eq_true_eq] at h
  rcases h with h | rfl
  · rcases Bool.or_eq_true_iff.1 h with h | h
    · obtain ⟨hlow, hhigh⟩ := of_decide_eq_true h
      exact ⟨hlow, Nat.le_trans hhigh (by decide)⟩
    · obtain ⟨hlow, hhigh⟩ := Bool.and_eq_true_iff.1 h
      exact ⟨Nat.le_trans (by decide) (of_decide_eq_true hlow), of_decide_eq_true hhigh⟩
  · decide

theorem isBlank_of_toNat {c : Char} (h : 33 ≤ c.toNat ∧ c.toNat ≤ 132) : isBlank c = false := by
  simp only [isBlank, Bool.or_eq_false_iff, Bool.and_eq_false_iff, decide_eq_false_iff_not, beq_eq_false_iff_ne]
  omega

theorem isDigit_iff_toNat {c : Char} : c.isDigit = true ↔ 48 ≤ c.toNat ∧ c.toNat ≤ 57 := by
  simp only [Char.isDigit, Bool.and_eq_true, decide_eq_true_eq, ge_iff_le, UInt32.le_iff_toNat_le]
  exact Iff.rfl

theorem continuesWord_iff {c : Char} : continuesWord c = true ↔ startsWord c = true ∨ c.isDigit = true := by
  simp only [continuesWord, startsWord, Char.isAlphanum, Bool.or_eq_true]
  exact or_right_comm

theorem continuesWord_facts {c : Char} (h : continuesWord c = true) :
    isBlank c = false ∧ isMark c = false ∧ c ≠ '.' ∧ c ≠ '-' ∧ c ≠ '/' := by
  refine ⟨?_, ?_, ?_, ?_, ?_⟩
  · rcases continuesWord_iff.1 h with hword | hdigit
    · have hn := toNat_of_startsWord hword
      exact isBlank_of_toNat (by omega)
    · have hn := isDigit_iff_toNat.1 hdigit
      exact isBlank_of_toNat (by omega)
  · simp only [isMark, Bool.or_eq_false_iff, decide_eq_false_iff_not]
    refine ⟨⟨⟨⟨?_, ?_⟩, ?_⟩, ?_⟩, ?_⟩ <;> rintro rfl <;> exact absurd h (by decide)
  · rintro rfl; exact absurd h (by decide)
  · rintro rfl; exact absurd h (by decide)
  · rintro rfl; exact absurd h (by decide)

private theorem isDigit_of_startsWord {c : Char} (h : startsWord c = true) : c.isDigit = false := by
  have hn := toNat_of_startsWord h
  rw [← Bool.not_eq_true, isDigit_iff_toNat]
  omega

theorem notMem_letters_of_isDigit {c : Char} (h : c.isDigit = true) : c ∉ ['N', 'n', 'X', 'x'] := by
  simp only [List.mem_cons, List.not_mem_nil, or_false, not_or]
  refine ⟨?_, ?_, ?_, ?_⟩ <;> rintro rfl <;> exact absurd h (by decide)

theorem reads_word {w rest : List Char} {ts : List Token} (hw : IsWord w) (hrest : EndsWord rest)
    (h : Reads tail rest ts) : Reads tail (w ++ rest) (.word (String.ofList w) none :: ts) := by
  cases w with
  | nil => simp [IsWord] at hw
  | cons c cs =>
    obtain ⟨⟨d, hd, hc⟩, hall⟩ := hw
    obtain rfl : c = d := by simpa using hd
    obtain ⟨hblank, hmark, hpoint, hminus, hslash⟩ := continuesWord_facts (hall c (by simp))
    have hdigit := isDigit_of_startsWord hc
    have hstop : ∀ c ∈ rest.head?, continuesWord c = false := fun c hc => (hrest c hc).1
    -- a quote right behind the letter N or X would start a string
    have hnext : (cs ++ rest).head? ≠ some '\x27' := by
      cases cs with
      | nil => exact fun hq => (hrest '\x27' hq).2 rfl
      | cons d cs =>
        have hd := hall d (by simp)
        rw [List.cons_append, List.head?_cons]
        rintro ⟨⟩
        exact absurd hd (by decide)
    have hlen : rest.length ≤ (cs ++ rest).length := by simp
    rw [List.cons_append]
    refine Reads.token hblank (fun hm => absurd hm hminus) hslash ?_ hlen h
    rw [token_of_not_mark hmark (fun _ => hnext), if_neg (by simp [hdigit, hpoint]), if_pos hc]
    have htake := takeWhile_append_of_stop hall hstop
    have hdrop := dropWhile_append_of_stop hall hstop
    rw [List.cons_append] at htake hdrop
    rw [word, htake, hdrop]

/-- A quoted text is read up to its closing quote. -/
theorem quoted_doubled (quote : Char) (token : String → Token) (s : String) {rest : List Char}
    (hrest : rest.head? ≠ some quote) :
    quoted? quote token (Sql.doubled quote s.toList ++ quote :: rest) = some (token s, rest) := by
  simp [quoted?, Sql.unquoted_quoted quote s.toList rest hrest]

/-- A text between quotes is read as the token that starts with the quote. -/
private theorem reads_quotedWith (quote : Char) (token : String → Token)
    (hquote : isBlank quote = false ∧ quote ≠ '-' ∧ quote ≠ '/')
    (htoken : ∀ cs, token? (quote :: cs) = quoted? quote token cs) (s : String) {rest : List Char} {ts : List Token}
    (hrest : rest.head? ≠ some quote) (h : Reads tail rest ts) :
    Reads tail ((Sql.quotedWith quote s).toList ++ rest) (token s :: ts) := by
  obtain ⟨hblank, hminus, hslash⟩ := hquote
  have hcs : (Sql.quotedWith quote s).toList ++ rest = quote :: (Sql.doubled quote s.toList ++ quote :: rest) := by
    simp [Sql.quotedWith]
  rw [hcs]
  refine Reads.token hblank (fun hm => absurd hm hminus) hslash ?_ (by simp; omega) h
  rw [htoken, quoted_doubled quote token s hrest]

theorem reads_quotedName (name : String) {rest : List Char} {ts : List Token} (hrest : rest.head? ≠ some '\x60')
    (h : Reads tail rest ts) : Reads tail ((Sql.quotedName name).toList ++ rest) (.word name (some '\x60') :: ts) :=
  reads_quotedWith '\x60' (fun s => .word s (some '\x60')) (by decide) (fun _ => rfl) name hrest h

theorem reads_quotedString (s : String) {rest : List Char} {ts : List Token} (hrest : rest.head? ≠ some '\x27')
    (h : Reads tail rest ts) : Reads tail ((Sql.quotedString s).toList ++ rest) (.string .single s :: ts) :=
  reads_quotedWith '\x27' (.string .single) (by decide) (fun _ => rfl) s hrest h

private theorem findSome_signs_filter (c : Char) (cs : List Char) (list : List String)
    (hne : ∀ s ∈ list, s.toList ≠ []) :
    (list.findSome? fun s => (s.toList.isPrefixOf? (c :: cs)).map fun rest => (Token.sign s, rest)) =
      (list.filter fun s => s.toList.head? = some c).findSome? fun s =>
        (s.toList.isPrefixOf? (c :: cs)).map fun rest => (.sign s, rest) := by
  induction list with
  | nil => rfl
  | cons s list ih =>
    have ih := ih fun t ht => hne t (List.mem_cons_of_mem _ ht)
    by_cases hs : s.toList.head? = some c
    · rw [List.filter_cons_of_pos (by simpa using hs), List.findSome?_cons, List.findSome?_cons, ih]
    · have hnone : s.toList.isPrefixOf? (c :: cs) = none := by
        cases hcs : s.toList with
        | nil => exact absurd hcs (hne s (List.mem_cons_self ..))
        | cons d ds =>
          have hd : d ≠ c := by simpa [hcs] using hs
          simp [List.isPrefixOf?, hd]
      rw [List.filter_cons_of_neg (by simpa using hs), List.findSome?_cons, hnone, ← ih]
      rfl

/-- A sign is looked for among those that start with the same character. -/
theorem sign_cons (c : Char) (cs : List Char) :
    sign? (c :: cs) = (signs.filter fun s => s.toList.head? = some c).findSome? fun s =>
      (s.toList.isPrefixOf? (c :: cs)).map fun rest => (.sign s, rest) :=
  findSome_signs_filter c cs signs (by decide)

private theorem sign_facts {c : Char} (h : c ∈ ['(', ')', ',', '*', '=', '!', '<', '>', '-']) :
    isBlank c = false ∧ isMark c = false ∧ c.isDigit = false ∧ c ≠ '.' ∧ startsWord c = false ∧ c ≠ '/' ∧
      c ∉ ['N', 'n', 'X', 'x'] := by
  revert c
  decide

/-- A sign is read where no longer sign starts. -/
theorem reads_sign {c : Char} {cs rest : List Char} {s : String} {ts : List Token}
    (hc : c ∈ ['(', ')', ',', '*', '=', '!', '<', '>', '-']) (hline : c = '-' → cs.head? ≠ some '-')
    (hs : sign? (c :: cs) = some (.sign s, rest)) (hlen : rest.length ≤ cs.length) (h : Reads tail rest ts) :
    Reads tail (c :: cs) (.sign s :: ts) := by
  obtain ⟨hblank, hmark, hdigit, hpoint, hword, hslash, hletter⟩ := sign_facts hc
  refine Reads.token hblank hline hslash ?_ hlen h
  rw [token_of_not_mark hmark (fun hl => absurd hl hletter), if_neg (by simp [hdigit, hpoint]),
    if_neg (by simp [hword]), hs]

/-- A sign that no longer sign starts with is read whatever follows it. -/
private theorem reads_lone {c : Char} {rest : List Char} {ts : List Token} (hc : c ∈ ['(', ')', ',', '*'])
    (h : Reads tail rest ts) : Reads tail (c :: rest) (.sign (String.singleton c) :: ts) := by
  have hsigns : ∀ c ∈ ['(', ')', ',', '*'],
      (signs.filter fun s => s.toList.head? = some c) = [String.singleton c] := by decide
  have hstart : c ∈ ['(', ')', ',', '*', '=', '!', '<', '>', '-'] :=
    List.mem_append_left ['=', '!', '<', '>', '-'] hc
  refine reads_sign hstart ?_ ?_ (Nat.le_refl _) h
  · rintro rfl
    simp at hc
  · simp [sign_cons, hsigns c hc, List.isPrefixOf?]

theorem reads_open {rest : List Char} {ts : List Token} (h : Reads tail rest ts) :
    Reads tail ('(' :: rest) (.sign "(" :: ts) :=
  reads_lone (by decide) h

theorem reads_close {rest : List Char} {ts : List Token} (h : Reads tail rest ts) :
    Reads tail (')' :: rest) (.sign ")" :: ts) :=
  reads_lone (by decide) h

theorem reads_comma {rest : List Char} {ts : List Token} (h : Reads tail rest ts) :
    Reads tail (',' :: rest) (.sign "," :: ts) :=
  reads_lone (by decide) h

theorem reads_star {rest : List Char} {ts : List Token} (h : Reads tail rest ts) :
    Reads tail ('*' :: rest) (.sign "*" :: ts) :=
  reads_lone (by decide) h

/-- A minus in front of a digit is a sign of its own. -/
theorem reads_minus {rest : List Char} {ts : List Token} (hrest : ∃ c ∈ rest.head?, c.isDigit = true)
    (h : Reads tail rest ts) : Reads tail ('-' :: rest) (.sign "-" :: ts) := by
  obtain ⟨c, hc, hdigit⟩ := hrest
  cases rest with
  | nil => simp at hc
  | cons d cs =>
    obtain rfl : d = c := by simpa using hc
    -- a second minus would start a comment, and an arrow is a sign of its own
    have hminus : d ≠ '-' := by rintro rfl; exact absurd hdigit (by decide)
    have harrow : '>' ≠ d := by rintro rfl; exact absurd hdigit (by decide)
    refine reads_sign (by decide) (fun _ => by simp [hminus]) ?_ (Nat.le_refl _) h
    have hsigns : (signs.filter fun s => s.toList.head? = some '-') = ["->>", "->", "-"] := by decide
    simp [sign_cons, hsigns, List.isPrefixOf?, harrow]

/-- A point that no digit follows is a sign. -/
theorem reads_point {rest : List Char} {ts : List Token} (hrest : ∀ c ∈ rest.head?, c.isDigit = false)
    (h : Reads tail rest ts) : Reads tail ('.' :: rest) (.sign "." :: ts) := by
  refine Reads.token (by decide) (fun hm => absurd hm (by decide)) (by decide) ?_ (Nat.le_refl _) h
  have htake : rest.takeWhile Char.isDigit = [] :=
    takeWhile_append_of_stop (List.forall_mem_nil _) hrest
  have hdrop : rest.dropWhile Char.isDigit = rest :=
    dropWhile_append_of_stop (List.forall_mem_nil _) hrest
  rw [token_of_not_mark (by decide) (fun hl => absurd hl (by decide)), if_pos (by decide)]
  simp [number, htake, hdrop]

/-! ### Parts of a text -/

/-- What may stand behind a part of a written query: its end, a blank, a comma or a closing parenthesis. -/
def Stops (rest : List Char) : Prop :=
  ∀ c ∈ rest.head?, c = ' ' ∨ c = ',' ∨ c = ')'

/-- The text is read as the tokens in front of anything that may stand behind it. -/
def Writes (s : String) (ts : List Token) : Prop :=
  ∀ tail rest us, Stops rest → Reads tail rest us → Reads tail (s.toList ++ rest) (ts ++ us)

theorem stops_nil : Stops [] := by
  simp [Stops]

theorem Stops.append {cs rest : List Char} (hcs : Stops cs) (hrest : Stops rest) : Stops (cs ++ rest) := by
  cases cs with
  | nil => exact hrest
  | cons c cs => simpa [Stops] using hcs

theorem Stops.endsWord {rest : List Char} (h : Stops rest) : EndsWord rest := by
  intro c hc
  rcases h c hc with rfl | rfl | rfl <;> decide

theorem Stops.head?_ne {rest : List Char} (h : Stops rest) {c : Char} (hc : c ∉ [' ', ',', ')']) :
    rest.head? ≠ some c := by
  intro he
  rcases h c he with rfl | rfl | rfl <;> simp at hc

/-- What a whole text is read as. -/
theorem Writes.tokens_eq {s : String} {ts : List Token} (h : Writes s ts) : tokens? s = some ts := by
  have := h [] [] [] stops_nil (reads_tail [])
  rw [List.append_nil, List.append_nil] at this
  exact this.tokens_eq

/-- What goes on behind a part starts with its tokens, whatever else can be read of it. -/
theorem Writes.exists_rest {s t : String} {ts all : List Token} (h : Writes s ts) (ht : Stops t.toList)
    (hall : tokens? (s ++ t) = some all) : ∃ us, all = ts ++ us := by
  obtain ⟨k, -, hk⟩ := h t.toList t.toList [] ht (reads_tail _) _ (Nat.le_refl _)
  rw [tokens?, String.toList_append, hk] at hall
  obtain ⟨us, -, rfl⟩ := Option.map_eq_some_iff.1 hall
  exact ⟨us, by rw [List.append_nil]⟩

theorem writes_empty : Writes "" [] :=
  fun _ _ _ _ h => h

theorem writes_word {w : String} (hw : IsWord w.toList) : Writes w [.word w none] := by
  intro tail rest us hrest h
  have := reads_word hw hrest.endsWord h
  rwa [String.ofList_toList] at this

theorem writes_quotedName (name : String) : Writes (Sql.quotedName name) [.word name (some '\x60')] :=
  fun _ _ _ hrest h => reads_quotedName name (hrest.head?_ne (by decide)) h

theorem writes_quotedString (s : String) : Writes (Sql.quotedString s) [.string .single s] :=
  fun _ _ _ hrest h => reads_quotedString s (hrest.head?_ne (by decide)) h

private theorem sign_of_stops {s : String} (hs : s ∈ ["=", "!=", ">", ">=", "<", "<="]) {rest : List Char}
    (hrest : Stops rest) : sign? (s.toList ++ rest) = some (.sign s, rest) := by
  have hend : ∀ c ∈ rest.head?, '>' ≠ c ∧ '=' ≠ c ∧ '<' ≠ c ∧ '@' ≠ c ∧ '~' ≠ c ∧ '!' ≠ c := by
    intro c hc
    rcases hrest c hc with rfl | rfl | rfl <;> decide
  have heq : (signs.filter fun s => s.toList.head? = some '=') = ["==", "=>", "="] := by decide
  have hne : (signs.filter fun s => s.toList.head? = some '!') = ["!~~*", "!~~", "!~*", "!=", "!~", "!!", "!"] := by
    decide
  have hgt : (signs.filter fun s => s.toList.head? = some '>') = [">=", ">>", ">"] := by decide
  have hlt : (signs.filter fun s => s.toList.head? = some '<') = ["<=>", "<>", "<=", "<<", "<@", "<"] := by decide
  simp only [List.mem_cons, List.not_mem_nil, or_false] at hs
  cases rest with
  | nil =>
    rcases hs with rfl | rfl | rfl | rfl | rfl | rfl <;>
      simp [sign_cons, heq, hne, hgt, hlt, List.isPrefixOf?]
  | cons c rest =>
    obtain ⟨h1, h2, h3, h4, h5, h6⟩ := hend c rfl
    rcases hs with rfl | rfl | rfl | rfl | rfl | rfl <;>
      simp [sign_cons, heq, hne, hgt, hlt, List.isPrefixOf?, h1, h2, h3, h4]

/-- The sign of a comparison. -/
theorem writes_comparison {s : String} (hs : s ∈ ["=", "!=", ">", ">=", "<", "<="]) : Writes s [.sign s] := by
  intro tail rest us hrest h
  have hsign := sign_of_stops hs hrest
  simp only [List.mem_cons, List.not_mem_nil, or_false] at hs
  rcases hs with rfl | rfl | rfl | rfl | rfl | rfl <;>
    exact reads_sign (by decide) (fun hm => absurd hm (by decide)) hsign (by simp) h

theorem writes_star : Writes "*" [.sign "*"] :=
  fun _ _ _ _ h => reads_star h

/-- A name behind a word and a point. -/
theorem writes_column {w : String} (hw : IsWord w.toList) (name : String) :
    Writes (w ++ "." ++ Sql.quotedName name) [.word w none, .sign ".", .word name (some '\x60')] := by
  intro tail rest us hrest h
  have hname := writes_quotedName name tail rest us hrest h
  have hhead : ((Sql.quotedName name).toList ++ rest).head? = some '\x60' := by
    simp [Sql.quotedName, Sql.quotedWith]
  have hpoint := reads_point (by simp [hhead]) hname
  have hends := endsWord_cons ((Sql.quotedName name).toList ++ rest) (by decide : continuesWord '.' = false ∧ _)
  have := reads_word hw hends hpoint
  simpa using this

/-- Two parts, the second of which starts with something that may stand behind the first. -/
theorem Writes.append {a b : String} {s t : List Token} (ha : Writes a s) (hb : Writes b t)
    (hopen : Stops b.toList) : Writes (a ++ b) (s ++ t) := by
  intro tail rest us hrest h
  have := ha _ _ _ (hopen.append hrest) (hb tail rest us hrest h)
  simpa using this

theorem stops_blank (s : String) : Stops (" " ++ s).toList := by
  simp [Stops]

theorem Writes.afterBlank {s : String} {ts : List Token} (h : Writes s ts) : Writes (" " ++ s) ts := by
  intro tail rest us hrest hr
  have := Reads.blank (c := ' ') (by decide) (h tail rest us hrest hr)
  simpa using this

/-- Two parts with a blank between them. -/
theorem Writes.spaced {a b : String} {s t : List Token} (ha : Writes a s) (hb : Writes b t) :
    Writes (a ++ " " ++ b) (s ++ t) := by
  rw [String.append_assoc]
  exact ha.append hb.afterBlank (stops_blank b)

/-- Two parts with a comma between them. -/
theorem Writes.comma {a b : String} {s t : List Token} (ha : Writes a s) (hb : Writes b t) :
    Writes (a ++ ", " ++ b) (s ++ [.sign ","] ++ t) := by
  intro tail rest us hrest h
  have hblank := Reads.blank (c := ' ') (by decide) (hb tail rest us hrest h)
  have := ha _ _ _ (by simp [Stops]) (reads_comma hblank)
  simpa using this

/-- A part between parentheses behind a word. -/
theorem Writes.call {w a : String} {ts : List Token} (hw : IsWord w.toList) (h : Writes a ts) :
    Writes (w ++ "(" ++ a ++ ")") (.word w none :: .sign "(" :: (ts ++ [.sign ")"])) := by
  intro tail rest us hrest hr
  have hin := reads_open (h _ _ _ (by simp [Stops]) (reads_close hr))
  have hends := endsWord_cons (a.toList ++ ')' :: rest) (by decide : continuesWord '(' = false ∧ _)
  have := reads_word hw hends hin
  simpa using this

/-- A part between parentheses. -/
theorem Writes.parenthesized {a : String} {ts : List Token} (h : Writes a ts) :
    Writes ("(" ++ a ++ ")") (.sign "(" :: (ts ++ [.sign ")"])) := by
  intro tail rest us hrest hr
  have := reads_open (h _ _ _ (by simp [Stops]) (reads_close hr))
  simpa using this

/-- The members of a list with a separator between each two of them. -/
theorem writes_joined {α : Type} {separator : String} {mark : List Token} {f : α → String} {g : α → List Token}
    (hsep : ∀ {a b s t}, Writes a s → Writes b t → Writes (a ++ separator ++ b) (s ++ mark ++ t)) (l : List α)
    (h : ∀ x ∈ l, Writes (f x) (g x)) : Writes (joined separator (l.map f)) (mark.intercalate (l.map g)) := by
  induction l with
  | nil => exact writes_empty
  | cons x l ih =>
    cases l with
    | nil => simpa using h x (by simp)
    | cons y l =>
      have hrest := ih fun z hz => h z (List.mem_cons_of_mem _ hz)
      have := hsep (h x (List.mem_cons_self ..)) hrest
      simpa [joined_cons_cons, List.intercalate_cons_cons] using this

/-- Two parts with a word between them. -/
theorem Writes.between {w a b : String} {s t : List Token} (hw : IsWord w.toList) (ha : Writes a s)
    (hb : Writes b t) : Writes (a ++ (" " ++ w ++ " ") ++ b) (s ++ [.word w none] ++ t) := by
  have := ha.spaced ((writes_word hw).spaced hb)
  simpa only [String.append_assoc, List.append_assoc] using this

/-- A part behind a word and blanks around the word. -/
theorem Writes.clause {w a : String} {ts : List Token} (hw : IsWord w.toList) (h : Writes a ts) :
    Writes (" " ++ w ++ " " ++ a) (.word w none :: ts) := by
  have := ((writes_word hw).spaced h).afterBlank
  simpa only [String.append_assoc, List.singleton_append] using this

/-- Quoted names with points between them. -/
theorem writes_names (names : List String) :
    Writes (joined "." (names.map Sql.quotedName))
      (List.intercalate [.sign "."] (names.map fun name => [.word name (some '\x60')])) := by
  induction names with
  | nil => exact writes_empty
  | cons name names ih =>
    cases names with
    | nil => exact writes_quotedName name
    | cons next names =>
      intro tail rest us hrest h
      have hnext := ih tail rest us hrest h
      have hquote : ∀ l, (joined "." (Sql.quotedName next :: l)).toList.head? = some '\x60' := by
        intro l
        cases l <;> simp [Sql.quotedName, Sql.quotedWith, joined_cons_cons]
      have hpoint := reads_point (fun c hc => by
        rw [List.map_cons, List.head?_append, hquote] at hc
        obtain rfl : '\x60' = c := by simpa using hc
        rfl) hnext
      have := reads_quotedName name (by simp) hpoint
      simpa [joined_cons_cons, List.intercalate_cons_cons] using this

/-- Parts in front of a text, where each starts with what may stand behind the one before. -/
theorem writes_parts {α β : Type} {f : α → Option β} {k : β → String} {g : α → List Token} {tail : String}
    {ts : List Token} (htail : Writes tail ts) (hopen : Stops tail.toList) (l : List α)
    (h : ∀ x ∈ l, ∃ y, f x = some y ∧ Writes (k y) (g x) ∧ Stops (k y).toList) :
    Writes (((l.filterMap f).map k).foldr (· ++ ·) tail) (l.flatMap g ++ ts) ∧
      Stops (((l.filterMap f).map k).foldr (· ++ ·) tail).toList := by
  induction l with
  | nil => exact ⟨htail, hopen⟩
  | cons x l ih =>
    obtain ⟨y, hy, hx, hstart⟩ := h x (List.mem_cons_self ..)
    obtain ⟨hl, hrest⟩ := ih fun z hz => h z (List.mem_cons_of_mem _ hz)
    rw [List.filterMap_cons_some hy, List.map_cons, List.foldr_cons, List.flatMap_cons, List.append_assoc,
      String.toList_append]
    exact ⟨hx.append hl hrest, hstart.append hrest⟩

end JoinCanvas.Statement
