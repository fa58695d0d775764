/-!
# Numbers of binary floating point

A finite number of the 64 bit binary format is a sign, a significand below `2 ^ 53` and a power of two.  All
arithmetic here is exact on natural numbers, followed by one rounding: `ofRatio` gives the nearest number of the
format to a quotient, the even one of two nearest, and nothing when the quotient is too large.

* `roundDiv_close`: rounding moves a quotient by at most a half.
-/

-- Powers are those of the core library, also where the powers of a monoid are in scope.
attribute [instance (high), default_instance high] instPowNat

namespace JoinCanvas.Decimal

/-- A finite number of the 64 bit format: `± significand * 2 ^ exponent`. -/
structure Binary where
  negative : Bool
  significand : Nat
  exponent : Int
deriving DecidableEq, Repr, Inhabited

/-- The natural number nearest to `num / den`; of two nearest ones the even one. -/
def roundDiv (num den : Nat) : Nat :=
  let quotient := num / den
  let remainder := num % den
  if 2 * remainder > den || (2 * remainder == den && quotient % 2 == 1) then quotient + 1 else quotient

theorem roundDiv_close (num : Nat) {den : Nat} (hd : 0 < den) :
    2 * (roundDiv num den * den) ≤ 2 * num + den ∧ 2 * num ≤ 2 * (roundDiv num den * den) + den := by
  have hq : num / den * den + num % den = num := Nat.div_add_mod' num den
  have hlt := Nat.mod_lt num hd
  simp only [roundDiv]
  split
  · next h =>
    have : den ≤ 2 * (num % den) := by
      simp only [gt_iff_lt, Bool.or_eq_true, decide_eq_true_eq, Bool.and_eq_true, beq_iff_eq] at h
      omega
    rw [Nat.add_mul]
    constructor <;> omega
  · next h =>
    have : 2 * (num % den) ≤ den := by
      simp only [gt_iff_lt, Bool.or_eq_true, decide_eq_true_eq, Bool.and_eq_true, beq_iff_eq, not_or] at h
      omega
    constructor <;> omega

namespace Binary

/-- The least power of two of the format. -/
def leastExponent : Int := -1074

/-- The greatest power of two of the format. -/
def greatestExponent : Int := 971

/-- The number zero, with a sign. -/
def zero (negative : Bool) : Binary :=
  ⟨negative, 0, leastExponent⟩

/-- Whether the number is zero, of either sign. -/
def isZero (x : Binary) : Bool :=
  x.significand == 0

/-- `x * 2 ^ e` as a quotient of natural numbers. -/
def scaledRatio (x : Nat) (e : Int) : Nat × Nat :=
  if 0 ≤ e then (x * 2 ^ e.toNat, 1) else (x, 2 ^ (-e).toNat)

/-- The magnitude of a number as a quotient. -/
def ratio (x : Binary) : Nat × Nat :=
  scaledRatio x.significand x.exponent

/-- `num / (den * 2 ^ e)`, rounded. -/
def roundAt (num den : Nat) (e : Int) : Nat :=
  if 0 ≤ e then roundDiv num (den * 2 ^ e.toNat) else roundDiv (num * 2 ^ (-e).toNat) den

/-- The power of two at which `num / den` has 53 binary digits before the point, or the least of the format. -/
def exponentOf (num den : Nat) : Int :=
  let e : Int := (num.log2 : Int) - (den.log2 : Int) - 52
  let small := if 0 ≤ e then num < den * 2 ^ e.toNat * 2 ^ 52 else num * 2 ^ (-e).toNat < den * 2 ^ 52
  max leastExponent (if small then e - 1 else e)

/-- The number of the format nearest to `± num / den`, or nothing when that is beyond the largest one. -/
def ofRatio (negative : Bool) (num den : Nat) : Option Binary :=
  if num = 0 then some (zero negative)
  else
    let e := exponentOf num den
    let m := roundAt num den e
    let (m, e) := if m = 2 ^ 53 then (2 ^ 52, e + 1) else (m, e)
    if e > greatestExponent then none else some ⟨negative, m, e⟩

/-- The number of the format nearest to a natural number. -/
def ofNat (n : Nat) : Option Binary :=
  ofRatio false n 1

/-- The rounded product of a number and a natural number that is itself rounded first. -/
def mulNat (x : Binary) (n : Nat) : Option Binary := do
  let y ← ofNat n
  let (a, b) := x.ratio
  let (c, d) := y.ratio
  ofRatio x.negative (a * c) (b * d)

/-- The rounded quotient of a number and a natural number that is itself rounded first. -/
def divNat (x : Binary) (n : Nat) : Option Binary := do
  let y ← ofNat n
  let (a, b) := x.ratio
  let (c, d) := y.ratio
  ofRatio x.negative (a * d) (b * c)

/-- The number with the given sign. -/
def withSign (x : Binary) (negative : Bool) : Binary :=
  { x with negative }

/-- How many decimal digits a natural number has; none for zero. -/
def decimalLength (n : Nat) : Nat :=
  if n = 0 then 0 else (Nat.toDigits 10 n).length

/-- The number nearest to `± digits * 10 ^ exponent`, or nothing when that is beyond the largest one. -/
def ofDecimal (negative : Bool) (digits : Nat) (exponent : Int) : Option Binary :=
  let size : Int := decimalLength digits + exponent
  if digits = 0 ∨ size < -330 then some (zero negative)
  else if size > 310 then none
  else if 0 ≤ exponent then ofRatio negative (digits * 10 ^ exponent.toNat) 1
  else ofRatio negative digits (10 ^ (-exponent).toNat)

end Binary

end JoinCanvas.Decimal
