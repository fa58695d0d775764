import JoinCanvas.Json.Text
import JoinCanvas.Proofs.Statement.Lexing

/-!
# Numbers in a written query

A written number is read as one token, behind a sign token when it is negative: integers are digits, and numbers with
a point or an exponent have the form that the reader of tokens expects.

* `isNumeral_integer`, `isNumeral_float`: what stands behind the sign of a number is a numeral.
* `writes_number`: the tokens of a written number.
-/

namespace JoinCanvas.Statement

open JoinCanvas.Decimal JoinCanvas.Json

/-- Digits, at least one of them. -/
def IsDigits (cs : List Char) : Prop :=
  cs ≠ [] ∧ ∀ c ∈ cs, c.isDigit = true

/-- Digits, perhaps with a point and further digits, perhaps with an exponent that has a sign. -/
def IsNumeral (cs : List Char) : Prop :=
  ∃ whole point exponent, cs = whole ++ point ++ exponent ∧ IsDigits whole ∧
    (point = [] ∨ ∃ ds, point = '.' :: ds ∧ IsDigits ds) ∧
    (exponent = [] ∨ ∃ s ds, exponent = 'e' :: s :: ds ∧ (s = '+' ∨ s = '-') ∧ IsDigits ds)

/-- The rest of a text does not go on with a number. -/
def EndsNumber (rest : List Char) : Prop :=
  ∀ c ∈ rest.head?, c.isDigit = false ∧ c ∉ ['.', 'e', 'E', 'L', 'x']

theorem Stops.endsNumber {rest : List Char} (h : Stops rest) : EndsNumber rest := by
  intro c hc
  rcases h c hc with rfl | rfl | rfl <;> decide

theorem EndsNumber.head?_ne {rest : List Char} (h : EndsNumber rest) {c : Char} (hc : c ∈ ['.', 'e', 'E', 'L', 'x']) :
    rest.head? ≠ some c :=
  fun he => (h c he).2 hc

/-- An exponent is read up to what does not go on with the number. -/
theorem spanExponent_append {exponent rest : List Char}
    (he : exponent = [] ∨ ∃ s ds, exponent = 'e' :: s :: ds ∧ (s = '+' ∨ s = '-') ∧ IsDigits ds)
    (hrest : EndsNumber rest) : spanExponent (exponent ++ rest) = (exponent, rest) := by
  rcases he with rfl | ⟨s, ds, rfl, hs, hne, hds⟩
  · cases rest with
    | nil => rfl
    | cons c rest =>
      have hc := (hrest c rfl).2
      cases rest with
      | nil => rfl
      | cons d rest =>
        simp only [List.mem_cons, not_or] at hc
        simp [spanExponent, hc.2.1, hc.2.2.1]
  · have hstop : ∀ c ∈ rest.head?, c.isDigit = false := fun c hc => (hrest c hc).1
    have htake := takeWhile_append_of_stop hds hstop
    have hdrop := dropWhile_append_of_stop hds hstop
    have hsign : (s = '+' || s = '-') = true := by simpa using hs
    simp [spanExponent, hsign, htake, hdrop, hne]

/-- A number whose digits, point and exponent are known is read as their text. -/
private theorem number_eq {cs tail whole point mid exponent rest : List Char}
    (htake : cs.takeWhile Char.isDigit = whole) (hdrop : cs.dropWhile Char.isDigit = tail)
    (hx : tail.head? ≠ some 'x') (hwhole : IsDigits whole)
    (hpoint : tail = mid ∧ point = [] ∧ mid.head? ≠ some '.' ∨
      ∃ after, tail = '.' :: after ∧ point = '.' :: after.takeWhile Char.isDigit ∧
        mid = after.dropWhile Char.isDigit)
    (hspan : spanExponent mid = (exponent, rest)) (hL : rest.head? ≠ some 'L') :
    number cs = (.number (String.ofList (whole ++ point ++ exponent)) false, rest) := by
  -- a point alone is a sign; there are digits in front of this one
  have hne : ∀ ds, whole ++ ds ≠ ['.'] := by
    intro ds h
    obtain ⟨hne, hall⟩ := hwhole
    cases whole with
    | nil => exact hne rfl
    | cons c whole =>
      obtain rfl : c = '.' := (List.cons.inj h).1
      exact absurd (hall '.' (by simp)) (by decide)
  unfold number
  simp only [htake, hdrop]
  split
  · exact absurd rfl hx
  · rcases hpoint with ⟨rfl, rfl, hmid⟩ | ⟨after, rfl, rfl, rfl⟩
    · split
      · exact absurd rfl hmid
      · simp only [List.append_nil, hspan]
        rw [if_neg (by simpa using hne [])]
        split
        · exact absurd rfl hL
        · rfl
    · simp only [hspan]
      rw [if_neg (hne _)]
      split
      · exact absurd rfl hL
      · rfl

/-- A numeral is read as one number. -/
theorem number_append {cs rest : List Char} (hcs : IsNumeral cs) (hrest : EndsNumber rest) :
    number (cs ++ rest) = (.number (String.ofList cs) false, rest) := by
  obtain ⟨whole, point, exponent, rfl, hwhole, hpoint, hexponent⟩ := hcs
  have hspan := spanExponent_append hexponent hrest
  have hL := hrest.head?_ne (c := 'L') (by decide)
  have hend : ∀ c ∈ (exponent ++ rest).head?, c.isDigit = false ∧ c ≠ '.' ∧ c ≠ 'x' := by
    rcases hexponent with rfl | ⟨s, es, rfl, -⟩
    · intro c hc
      have := hrest c hc
      exact ⟨this.1, fun h => this.2 (by simp [h]), fun h => this.2 (by simp [h])⟩
    · simp
  rcases hpoint with rfl | ⟨ds, rfl, hds⟩
  · have htake := takeWhile_append_of_stop hwhole.2 fun c hc => (hend c hc).1
    have hdrop := dropWhile_append_of_stop hwhole.2 fun c hc => (hend c hc).1
    rw [List.append_nil, List.append_assoc]
    have := number_eq htake hdrop (fun h => (hend _ h).2.2 rfl) hwhole
      (Or.inl ⟨rfl, rfl, fun h => (hend _ h).2.1 rfl⟩) hspan hL
    rwa [List.append_nil] at this
  · have hstop : ∀ c ∈ ('.' :: (ds ++ (exponent ++ rest))).head?, c.isDigit = false := by simp
    have htake := takeWhile_append_of_stop hwhole.2 hstop
    have hdrop := dropWhile_append_of_stop hwhole.2 hstop
    have htake' := takeWhile_append_of_stop hds.2 fun c hc => (hend c hc).1
    have hdrop' := dropWhile_append_of_stop hds.2 fun c hc => (hend c hc).1
    have := number_eq htake hdrop (by simp) hwhole
      (Or.inr ⟨_, rfl, congrArg _ htake'.symm, hdrop'.symm⟩) hspan hL
    simpa using this

/-- A numeral in front of what ends it is read as one token. -/
theorem reads_numeral {tail cs rest : List Char} {ts : List Token} (hcs : IsNumeral cs) (hrest : EndsNumber rest)
    (h : Reads tail rest ts) : Reads tail (cs ++ rest) (.number (String.ofList cs) false :: ts) := by
  have hnumber := number_append hcs hrest
  obtain ⟨whole, point, exponent, rfl, ⟨hne, hall⟩, -⟩ := hcs
  cases whole with
  | nil => exact absurd rfl hne
  | cons c whole =>
    have hc := hall c (by simp)
    obtain ⟨hblank, hmark, -, hminus, hslash⟩ := continuesWord_facts (continuesWord_iff.2 (Or.inr hc))
    have hletter := notMem_letters_of_isDigit hc
    refine Reads.token hblank (fun h => absurd h hminus) hslash ?_ ?_ h
    · rw [token_of_not_mark hmark (fun hl => absurd hl hletter), if_pos (by simp [hc])]
      exact congrArg some hnumber
    · simp
      omega

/-! ### The texts of numbers -/

theorem isDigits_toDigits (n : Nat) : IsDigits (Nat.toDigits 10 n) :=
  ⟨Nat.toDigits_ne_nil, fun _ hc => Nat.isDigit_of_mem_toDigits (by decide) (by decide) hc⟩

theorem IsDigits.append {cs ds : List Char} (hcs : IsDigits cs) (hds : ∀ c ∈ ds, c.isDigit = true) :
    IsDigits (cs ++ ds) := by
  refine ⟨by simp [hcs.1], fun c hc => ?_⟩
  rcases List.mem_append.1 hc with hc | hc
  · exact hcs.2 c hc
  · exact hds c hc

theorem isDigit_of_mem_replicate {n : Nat} {c : Char} (h : c ∈ List.replicate n '0') : c.isDigit = true := by
  obtain ⟨-, rfl⟩ := List.mem_replicate.1 h
  decide

theorem isDigits_zero : IsDigits ['0'] :=
  ⟨by simp, by decide⟩

/-- Digits with a point among them are a numeral. -/
theorem IsDigits.isNumeral_point {whole ds : List Char} (hwhole : IsDigits whole) (hds : IsDigits ds) :
    IsNumeral (whole ++ '.' :: ds) :=
  ⟨whole, '.' :: ds, [], by simp, hwhole, Or.inr ⟨ds, rfl, hds⟩, Or.inl rfl⟩

/-- The text of an exponent: its mark, its sign and its digits. -/
theorem exists_exponent (e : Int) :
    ∃ s es, (if e < 0 then ['e', '-'] else ['e', '+']) ++ Nat.toDigits 10 e.natAbs = 'e' :: s :: es ∧
      (s = '+' ∨ s = '-') ∧ IsDigits es := by
  split
  · exact ⟨'-', _, rfl, Or.inr rfl, isDigits_toDigits _⟩
  · exact ⟨'+', _, rfl, Or.inl rfl, isDigits_toDigits _⟩

end JoinCanvas.Statement

namespace JoinCanvas.Decimal.Binary

/-! ### The sign does not matter to the digits -/

private theorem search_withSign (x : Binary) (negative : Bool) (n : Nat) (t : Int) :
    search (x.withSign negative) n t = search x n t := by
  induction n generalizing t with
  | zero => rfl
  | succ n ih =>
    unfold search
    rw [ih]
    rfl

theorem shortest_withSign (x : Binary) (negative : Bool) : (x.withSign negative).shortest = x.shortest :=
  search_withSign x negative 24 _

end JoinCanvas.Decimal.Binary

namespace JoinCanvas.Json

open JoinCanvas.Decimal JoinCanvas.Statement

/-- Digits and a decimal exponent are written as a numeral, with a point or in scientific notation. -/
private theorem isNumeral_body (ds : List Char) : IsDigits ds → ∀ exponent : Int,
    let point : Int := ds.length + exponent
    let zeros (n : Nat) := List.replicate n '0'
    IsNumeral
      (if 0 ≤ exponent ∧ point ≤ 16 then ds ++ zeros exponent.toNat ++ ['.', '0']
      else if 0 < point ∧ point ≤ 16 then ds.take point.toNat ++ '.' :: ds.drop point.toNat
      else if -5 < point ∧ point ≤ 0 then '0' :: '.' :: (zeros (-point).toNat ++ ds)
      else
        let e := point - 1
        let mark := if e < 0 then ['e', '-'] else ['e', '+']
        let lead := match ds with
          | [] => []
          | [a] => [a]
          | a :: rest => a :: '.' :: rest
        lead ++ mark ++ Nat.toDigits 10 e.natAbs) := by
  intro hds exponent point zeros
  split
  · exact (hds.append fun c hc => isDigit_of_mem_replicate hc).isNumeral_point isDigits_zero
  split
  · next h1 h2 =>
    refine IsDigits.isNumeral_point ⟨?_, fun c hc => hds.2 c (List.mem_of_mem_take hc)⟩
      ⟨?_, fun c hc => hds.2 c (List.mem_of_mem_drop hc)⟩
    · simp only [ne_eq, List.take_eq_nil_iff, not_or]
      exact ⟨by omega, hds.1⟩
    · simp only [ne_eq, List.drop_eq_nil_iff]
      omega
  split
  · refine isDigits_zero.isNumeral_point ⟨by simp [hds.1], fun c hc => ?_⟩
    rcases List.mem_append.1 hc with hc | hc
    · exact isDigit_of_mem_replicate hc
    · exact hds.2 c hc
  · obtain ⟨s, es, hes, hs, hdigits⟩ := exists_exponent (point - 1)
    have hexponent : ∃ t us, 'e' :: s :: es = 'e' :: t :: us ∧ (t = '+' ∨ t = '-') ∧ IsDigits us :=
      ⟨s, es, rfl, hs, hdigits⟩
    simp only [List.append_assoc, hes]
    -- a single digit is written without a point
    match ds, hds with
    | [a], hds => exact ⟨[a], [], _, by simp, hds, Or.inl rfl, Or.inr hexponent⟩
    | a :: b :: rest, hds =>
      refine ⟨[a], '.' :: b :: rest, _, by simp, ⟨by simp, ?_⟩, Or.inr ⟨_, rfl, by simp, ?_⟩, Or.inr hexponent⟩
      · exact fun c hc => hds.2 c (by simp_all)
      · exact fun c hc => hds.2 c (List.mem_cons_of_mem _ hc)

theorem isNumeral_integer (n : Nat) : IsNumeral (integerText n).toList := by
  refine ⟨Nat.toDigits 10 n, [], [], ?_, isDigits_toDigits n, Or.inl rfl, Or.inl rfl⟩
  have hn : ¬ (n : Int) < 0 := by omega
  simp [integerText, hn]

theorem isNumeral_float {x : Binary} (hx : x.negative = false) : IsNumeral (floatText x).toList := by
  have hzero : IsNumeral "0.0".toList := isDigits_zero.isNumeral_point isDigits_zero
  have hbody := isNumeral_body _ (isDigits_toDigits x.shortest.digits) x.shortest.exponent
  by_cases h : x.isZero = true
  · simpa [floatText, hx, h] using hzero
  · simp only [floatText, hx, h]
    rw [if_neg Bool.false_ne_true, if_neg Bool.false_ne_true, String.empty_append, String.toList_ofList]
    exact hbody

namespace Number

/-- Whether a number is written with a sign. -/
def isNegative : Number → Bool
  | .integer n => n < 0
  | .float x => x.negative

/-- The number without its sign. -/
def magnitude : Number → Number
  | .integer n => .integer n.natAbs
  | .float x => .float (x.withSign false)

/-- The tokens of a number: its sign, when it is negative, and its digits. -/
def tokens (n : Number) : List Token :=
  (if n.isNegative then [.sign "-"] else []) ++ [.number n.magnitude.text false]

/-- A number is written as its sign and its digits. -/
theorem text_eq (n : Number) : n.text = (if n.isNegative then "-" else "") ++ n.magnitude.text := by
  cases n with
  | integer n =>
    have habs : integerText n.natAbs = String.ofList (Nat.toDigits 10 n.natAbs) := by
      rw [integerText, if_neg (by omega), Int.natAbs_natCast]
    by_cases hn : n < 0
    · simp only [text, isNegative, magnitude, habs, hn, decide_true, if_true]
      rw [integerText, if_pos hn]
    · simp only [text, isNegative, magnitude, habs, hn, decide_false, Bool.false_eq_true, if_false]
      rw [integerText, if_neg hn, String.empty_append]
  | float x =>
    have hzero : (x.withSign false).isZero = x.isZero := rfl
    simp only [text, isNegative, magnitude, floatText, Binary.shortest_withSign, hzero]
    by_cases hx : x.isZero = true
    · rw [if_pos hx, if_pos hx]
      rfl
    · rw [if_neg hx, if_neg hx]
      rfl

theorem isNumeral_magnitude (n : Number) : IsNumeral n.magnitude.text.toList := by
  cases n with
  | integer n => exact isNumeral_integer _
  | float x => exact isNumeral_float rfl

end Number

/-- The tokens of a written number. -/
theorem writes_number (n : Number) : Writes n.text n.tokens := by
  intro tail rest us hrest h
  have hnumeral := n.isNumeral_magnitude
  have hread := reads_numeral hnumeral hrest.endsNumber h
  rw [String.ofList_toList] at hread
  rw [n.text_eq, Number.tokens]
  cases n.isNegative with
  | false => simpa using hread
  | true =>
    have hdigit : ∃ c ∈ (n.magnitude.text.toList ++ rest).head?, c.isDigit = true := by
      obtain ⟨whole, point, exponent, he, ⟨hne, hall⟩, -⟩ := hnumeral
      rw [he]
      cases whole with
      | nil => exact absurd rfl hne
      | cons c whole => exact ⟨c, by simp, hall c (by simp)⟩
    simpa using reads_minus hdigit hread

end JoinCanvas.Json
