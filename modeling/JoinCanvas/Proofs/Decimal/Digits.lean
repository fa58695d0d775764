import JoinCanvas.Decimal.Reading
import Mathlib.Data.List.Induction

/-!
# Texts of digits

A text of digits writes the number whose digits it is, behind any number of zeros; no other text writes a number.

* `digitIn_eq_some_iff`: the digits of base ten.
* `natIn_eq_some_iff`: the texts that write a number.
* `natIn_toDigits`: the digits of a number write it.
-/

namespace JoinCanvas.Decimal

private theorem char_le_iff {c d : Char} : c ≤ d ↔ c.toNat ≤ d.toNat := by
  rw [Char.le_def, UInt32.le_iff_toNat_le]
  rfl

theorem digitIn_eq_some_iff {c : Char} {d : Nat} : digitIn? 10 c = some d ↔ d < 10 ∧ c = Nat.digitChar d := by
  constructor
  · intro h
    simp only [digitIn?, char_le_iff, Char.reduceToNat, Option.ite_none_right_eq_some, Option.some.injEq] at h
    obtain ⟨hlt, rfl⟩ := h
    -- the letters are digits of larger bases only
    have hc : 48 ≤ c.toNat ∧ c.toNat ≤ 57 := by
      by_contra hdigit
      rw [if_neg hdigit] at hlt
      split_ifs at hlt <;> omega
    rw [if_pos hc] at hlt ⊢
    refine ⟨hlt, Char.toNat_inj.1 ?_⟩
    rw [Nat.toNat_digitChar_of_lt_ten hlt]
    omega
  · rintro ⟨hd, rfl⟩
    have hall : ∀ d < 10, digitIn? 10 (Nat.digitChar d) = some d := by decide
    exact hall d hd

/-- The number that a text writes behind one that is written already. -/
private def writtenOn (n? : Option Nat) (cs : List Char) : Option Nat :=
  cs.foldl (fun n? c => do return (← n?) * 10 + (← digitIn? 10 c)) n?

private theorem writtenOn_append (n? : Option Nat) (cs ds : List Char) :
    writtenOn n? (cs ++ ds) = writtenOn (writtenOn n? cs) ds :=
  List.foldl_append

private theorem writtenOn_concat (n? : Option Nat) (cs : List Char) (c : Char) :
    writtenOn n? (cs ++ [c]) = (writtenOn n? cs).bind fun m => (digitIn? 10 c).map (10 * m + ·) := by
  rw [writtenOn_append]
  cases writtenOn n? cs with
  | none => rfl
  | some m =>
    rw [Option.bind_some, ← Nat.mul_comm m, writtenOn, List.foldl_cons, List.foldl_nil]
    cases digitIn? 10 c <;> rfl

private theorem writtenOn_replicate_zero (k : Nat) : writtenOn (some 0) (List.replicate k '0') = some 0 := by
  induction k with
  | zero => rfl
  | succ k ih =>
    have hzero : digitIn? 10 '0' = some 0 := by decide
    rw [List.replicate_succ', writtenOn_concat, ih, hzero]
    rfl

private theorem writtenOn_toDigits (n : Nat) : writtenOn (some 0) (Nat.toDigits 10 n) = some n := by
  induction n using Nat.strongRecOn with
  | _ n ih =>
    by_cases hn : n < 10
    · have hdigit : digitIn? 10 (Nat.digitChar n) = some n := digitIn_eq_some_iff.2 ⟨hn, rfl⟩
      rw [Nat.toDigits_of_lt_base hn, ← List.nil_append [_], writtenOn_concat, hdigit]
      exact congrArg some (Nat.zero_add n)
    · have hdigit : digitIn? 10 (Nat.digitChar (n % 10)) = some (n % 10) :=
        digitIn_eq_some_iff.2 ⟨Nat.mod_lt n (by decide), rfl⟩
      rw [Nat.toDigits_of_base_le (by decide) (Nat.le_of_not_lt hn), writtenOn_concat, ih (n / 10) (by omega), hdigit]
      exact congrArg some (Nat.div_add_mod n 10)

private theorem toDigits_concat (m : Nat) {d : Nat} (hd : d < 10) :
    ∃ k, Nat.toDigits 10 m ++ [Nat.digitChar d] = List.replicate k '0' ++ Nat.toDigits 10 (10 * m + d) := by
  rw [← Nat.toDigits_of_lt_base hd]
  by_cases hm : m = 0
  · subst hm
    exact ⟨1, by rw [Nat.mul_zero, Nat.zero_add]; rfl⟩
  · exact ⟨0, Nat.toDigits_append_toDigits (by decide) (Nat.pos_of_ne_zero hm) hd⟩

private theorem exists_of_writtenOn {cs : List Char} {n : Nat} (hne : cs ≠ []) (h : writtenOn (some 0) cs = some n) :
    ∃ k, cs = List.replicate k '0' ++ Nat.toDigits 10 n := by
  induction cs using List.reverseRecOn generalizing n with
  | nil => exact absurd rfl hne
  | append_singleton cs c ih =>
    rw [writtenOn_concat, Option.bind_eq_some_iff] at h
    obtain ⟨m, hm, h⟩ := h
    obtain ⟨d, hdigit, rfl⟩ := Option.map_eq_some_iff.1 h
    obtain ⟨hd, rfl⟩ := digitIn_eq_some_iff.1 hdigit
    by_cases hcs : cs = []
    · subst hcs
      obtain rfl : 0 = m := Option.some.inj hm
      exact ⟨0, by rw [Nat.mul_zero, Nat.zero_add, Nat.toDigits_of_lt_base hd]; rfl⟩
    · obtain ⟨k, rfl⟩ := ih hcs hm
      obtain ⟨j, hj⟩ := toDigits_concat m hd
      exact ⟨k + j, by rw [List.append_assoc, hj, ← List.append_assoc, List.replicate_append_replicate]⟩

/-- A text writes a number exactly if it is zeros and the digits of the number. -/
theorem natIn_eq_some_iff {cs : List Char} {n : Nat} :
    natIn? 10 cs = some n ↔ ∃ k, cs = List.replicate k '0' ++ Nat.toDigits 10 n := by
  constructor
  · intro h
    have hne : cs ≠ [] := by
      rintro rfl
      exact absurd h nofun
    rw [natIn?, if_neg (by rwa [List.isEmpty_iff])] at h
    exact exists_of_writtenOn hne h
  · rintro ⟨k, rfl⟩
    have hne : ¬ (List.replicate k '0' ++ Nat.toDigits 10 n).isEmpty = true := by simp
    rw [natIn?, if_neg hne, ← writtenOn, writtenOn_append, writtenOn_replicate_zero, writtenOn_toDigits]

/-- The digits of a number write it. -/
theorem natIn_toDigits (n : Nat) : natIn? 10 (Nat.toDigits 10 n) = some n :=
  natIn_eq_some_iff.2 ⟨0, rfl⟩

end JoinCanvas.Decimal
