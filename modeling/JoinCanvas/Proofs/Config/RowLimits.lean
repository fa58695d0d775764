import JoinCanvas.Config.Settings
import Mathlib.Data.ENat.Basic

/-!
# Limits of requests

What a request for a number of rows gets.  A cap holds for it, and a request for fewer rows gets no more of them, as
long as it is for a row at all.

* `effectiveLimit_le_iff`: when limits are in the order of the requests, and when the cap holds.
* `effectiveLimit_zero_escapes`: a request that the cap does not hold for.
-/

namespace JoinCanvas

/-- The number of rows that a limit lets through; without one, any number. -/
def rowBound : Option Nat → ℕ∞
  | none => ⊤
  | some n => n

theorem rowBound_eq_top_iff {limit? : Option Nat} : rowBound limit? = ⊤ ↔ limit? = none := by
  cases limit? <;> simp [rowBound]

namespace QuerySettings

variable (q : QuerySettings)

/-- The limit of a request that is no zero: the requested one, but no more than the cap. -/
def capped (a : Nat) : Nat :=
  if 0 < q.maxRowLimit then min a q.maxRowLimit else a

theorem effectiveLimit_some (a : Nat) :
    q.effectiveLimit (some a) = if a = 0 then none else some (q.capped a) := by
  simp only [effectiveLimit, Option.getD_some, capped]
  split_ifs <;> first | rfl | omega

theorem capped_le_capped {a b : Nat} (h : a ≤ b) : q.capped a ≤ q.capped b := by
  unfold capped
  split_ifs
  · exact min_le_min_right _ h
  · exact h

end QuerySettings

/-- A request for fewer rows gets no more of them, and no more than the cap, unless it is for none: a limit of zero
counts as no limit, and the cap does not hold for it. -/
theorem effectiveLimit_le_iff (c : Config) (connection : String) {a b : Nat} (h : a ≤ b) :
    let q := (c.settingsFor connection).query
    (rowBound (q.effectiveLimit (some a)) ≤ rowBound (q.effectiveLimit (some b)) ↔ (a = 0 → b = 0)) ∧
      (0 < q.maxRowLimit → ((∃ n, q.effectiveLimit (some a) = some n ∧ n ≤ q.maxRowLimit) ↔ a ≠ 0)) := by
  intro q
  rw [q.effectiveLimit_some a, q.effectiveLimit_some b]
  by_cases ha : a = 0
  · subst ha
    have htop : rowBound none = ⊤ := rfl
    rw [if_pos rfl, htop, top_le_iff, rowBound_eq_top_iff]
    constructor
    · simp
    · intro _
      simp
  · have hb : b ≠ 0 := by omega
    rw [if_neg ha, if_neg hb]
    constructor
    · have hle : rowBound (some (q.capped a)) ≤ rowBound (some (q.capped b)) := Nat.cast_le.2 (q.capped_le_capped h)
      exact ⟨fun _ hzero => absurd hzero ha, fun _ => hle⟩
    · intro hmax
      have hlimit : q.effectiveLimit (some a) = some (q.capped a) := by rw [q.effectiveLimit_some, if_neg ha]
      exact ⟨fun _ => ha, fun _ => ⟨_, rfl, q.effectiveLimit_le_max hmax (some a) _ hlimit⟩⟩

theorem effectiveLimit_le_iff_capped :
    let c : Config := { defaults := { query := { defaultRowLimit := 10, maxRowLimit := 100 } } }
    let q := (c.settingsFor "prod").query
    7 ≤ 500 ∧
      (rowBound (q.effectiveLimit (some 7)) ≤ rowBound (q.effectiveLimit (some 500)) ↔ (7 = 0 → 500 = 0)) ∧
      (0 < q.maxRowLimit → ((∃ n, q.effectiveLimit (some 7) = some n ∧ n ≤ q.maxRowLimit) ↔ 7 ≠ 0)) := by
  intro c q
  have h : 7 ≤ 500 := by decide
  exact ⟨h, effectiveLimit_le_iff c "prod" h⟩

/-- A request for no rows is not limited at all. -/
theorem effectiveLimit_zero_escapes :
    let c : Config := { defaults := { query := { maxRowLimit := 100 } } }
    let q := (c.settingsFor "prod").query
    0 < q.maxRowLimit ∧ q.effectiveLimit (some 0) = none ∧ q.effectiveLimit (some 5) = some 5 ∧
      ¬ rowBound (q.effectiveLimit (some 0)) ≤ rowBound (q.effectiveLimit (some 5)) := by
  intro c q
  refine ⟨by decide, by decide, by decide, ?_⟩
  have hzero : q.effectiveLimit (some 0) = none := by decide
  have hfive : q.effectiveLimit (some 5) = some 5 := by decide
  rw [hzero, hfive]
  simp [rowBound]

end JoinCanvas
