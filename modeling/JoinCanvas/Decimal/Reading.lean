import JoinCanvas.Decimal.Binary

/-!
# Decimal numerals

Reading of decimal texts: natural numbers, integers, and numbers with a point and an exponent, rounded once to the
64 bit format.
-/

namespace JoinCanvas.Decimal

/-- The value of a digit in a base up to 16. -/
def digitIn? (base : Nat) (c : Char) : Option Nat :=
  let n :=
    if '0' ≤ c ∧ c ≤ '9' then c.toNat - 48
    else if 'a' ≤ c ∧ c ≤ 'f' then c.toNat - 87
    else if 'A' ≤ c ∧ c ≤ 'F' then c.toNat - 55
    else base
  if n < base then some n else none

/-- The number that a text of digits writes; at least one digit. -/
def natIn? (base : Nat) (cs : List Char) : Option Nat :=
  if cs.isEmpty then none
  else cs.foldl (fun n? c => do return (← n?) * base + (← digitIn? base c)) (some 0)

/-- An integer: an optional sign and decimal digits. -/
def int? : List Char → Option Int
  | '-' :: rest => (natIn? 10 rest).map fun n => -(n : Int)
  | '+' :: rest => (natIn? 10 rest).map fun n => (n : Int)
  | cs => (natIn? 10 cs).map fun n => (n : Int)

/-- Whether a character is a decimal digit. -/
def isDigit (c : Char) : Bool :=
  '0' ≤ c && c ≤ '9'

/-- A number with an optional sign, a point with digits on at least one side, and an optional exponent, rounded to
the 64 bit format; nothing when it is too large. -/
def binary? (cs : List Char) : Option Binary :=
  let (negative, cs) := match cs with
    | '-' :: r => (true, r)
    | '+' :: r => (false, r)
    | r => (false, r)
  let whole := cs.takeWhile isDigit
  let (places, cs) := match cs.dropWhile isDigit with
    | '.' :: r => (r.takeWhile isDigit, r.dropWhile isDigit)
    | r => ([], r)
  let exponent? : Option Int := match cs with
    | [] => some 0
    | c :: r => if c = 'e' ∨ c = 'E' then int? r else none
  match natIn? 10 (whole ++ places), exponent? with
  | some digits, some e => Binary.ofDecimal negative digits (e - places.length)
  | _, _ => none

end JoinCanvas.Decimal
