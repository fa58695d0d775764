import JoinCanvas.Json.Value

/-!
# JSON numerals

A numeral without point and exponent that fits 64 bits, with a sign or without, is an integer; `-0` and all others
are floating point numbers.  These are read with two roundings: the leading digits that fit 64 bits make the
significand, which is rounded and then multiplied or divided by a rounded power of ten.  Digits beyond the
significand only count for the power.
-/

namespace JoinCanvas.Json

open JoinCanvas.Decimal

/-- A numeral taken apart: its sign, the digits before the point, those after it, and the exponent. -/
structure Numeral where
  negative : Bool
  whole : List Nat
  fraction : Option (List Nat)
  exponent : Option Int
deriving DecidableEq, Repr

/-- The value of a decimal digit. -/
def digit? (c : Char) : Option Nat :=
  if '0' ≤ c ∧ c ≤ '9' then some (c.toNat - 48) else none

/-- The digits at the start of a text, and what follows them. -/
def spanDigits : List Char → List Nat × List Char
  | [] => ([], [])
  | c :: rest =>
    match digit? c with
    | some d => (d :: (spanDigits rest).1, (spanDigits rest).2)
    | none => ([], c :: rest)

/-- The number that digits write. -/
def natOfDigits (ds : List Nat) : Nat :=
  ds.foldl (fun n d => 10 * n + d) 0

namespace Numeral

/-- One more than the largest significand. -/
def limit : Nat := 2 ^ 64

/-- The longest start of the digits that fits behind `significand`, and how many digits are left over. -/
def fit (significand : Nat) : List Nat → Nat × Nat
  | [] => (significand, 0)
  | d :: rest =>
    if significand * 10 + d < limit then fit (significand * 10 + d) rest
    else (significand, (d :: rest).length)

/-- The exponent of the largest power of ten of the format. -/
def largestPower : Nat := 308

/-- Divides so many times by the largest power of ten of the format, unless the result is zero before. -/
def divLargest (x : Binary) : Nat → Option Binary
  | 0 => some x
  | n + 1 => if x.isZero then some x else (x.divNat (10 ^ largestPower)).bind (divLargest · n)

/-- Divides by a power of ten, in steps of the largest power of the format. -/
def divPower (x : Binary) (k : Nat) : Option Binary :=
  let steps := (k - 1) / largestPower
  (divLargest x steps).bind (·.divNat (10 ^ (k - steps * largestPower)))

/-- `± significand * 10 ^ exponent`, or nothing when it is too large. -/
def scale (negative : Bool) (significand : Nat) (exponent : Int) : Option Binary := do
  let x ← Binary.ofNat significand
  let y ←
    if 0 ≤ exponent then
      if exponent ≤ largestPower then x.mulNat (10 ^ exponent.toNat)
      else if x.isZero then some x else none
    else divPower x (-exponent).toNat
  return y.withSign negative

/-- The number a numeral stands for; nothing when it is too large. -/
def number? (n : Numeral) : Option Number :=
  let (significand, dropped) := fit 0 n.whole
  match n.fraction, n.exponent with
  | none, none =>
    if dropped = 0 ∧ n.negative = false then some (.integer significand)
    else if dropped = 0 ∧ 1 ≤ significand ∧ significand ≤ 2 ^ 63 then some (.integer (-significand))
    else (scale n.negative significand dropped).map .float
  | fraction, exponent =>
    let places := fraction.getD []
    let (significand, unread) := fit significand places
    let power : Int := (dropped : Int) - ((places.length - unread : Nat) : Int) + exponent.getD 0
    (scale n.negative significand power).map .float

/-- The exponent at the start of a text: a mark `e` or `E`, a sign and digits. -/
def readExponent? : List Char → Option (Option Int × List Char)
  | c :: rest =>
    if c = 'e' ∨ c = 'E' then
      let (negative, rest) := match rest with
        | '+' :: r => (false, r)
        | '-' :: r => (true, r)
        | r => (false, r)
      match spanDigits rest with
      | ([], _) => none
      | (ds, rest) => some (some (if negative then -(natOfDigits ds : Int) else natOfDigits ds), rest)
    else some (none, c :: rest)
  | [] => some (none, [])

/-- The numeral at the start of a text: no leading zeros, at least one digit on either side of a point. -/
def read? (cs : List Char) : Option (Numeral × List Char) := do
  let (negative, cs) := match cs with
    | '-' :: r => (true, r)
    | r => (false, r)
  let (whole, cs) := spanDigits cs
  if whole.isEmpty || (whole.length > 1 && whole.head? == some 0) then none
  else
    let (fraction, cs) ← match cs with
      | '.' :: r =>
        match spanDigits r with
        | ([], _) => none
        | (ds, r) => some (some ds, r)
      | r => some (none, r)
    let (exponent, cs) ← readExponent? cs
    return (⟨negative, whole, fraction, exponent⟩, cs)

end Numeral

end JoinCanvas.Json
