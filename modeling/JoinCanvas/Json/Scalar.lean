import JoinCanvas.Decimal.Reading
import JoinCanvas.Json.Value
import JoinCanvas.Text.Joined

/-!
# Unquoted scalars

In some formats a scalar without quotes shows by its text whether it is null, a truth value, a number or a string.
-/

namespace JoinCanvas.Json.Scalar

open JoinCanvas.Decimal JoinCanvas.Text

/-- The words for null; so is an empty scalar. -/
def isNull (s : String) : Bool :=
  ["", "~", "null", "Null", "NULL"].contains s

/-- The words for the truth values. -/
def bool? (s : String) : Option Bool :=
  if ["true", "True", "TRUE"].contains s then some true
  else if ["false", "False", "FALSE"].contains s then some false
  else none

/-- A text without one sign at its start. -/
def unsigned : List Char → List Char
  | '+' :: rest => rest
  | '-' :: rest => rest
  | cs => cs

/-- Whether a text is digits behind a superfluous zero: such a scalar is a string. -/
def hasLeadingZero (cs : List Char) : Bool :=
  match unsigned cs with
  | '0' :: rest => !rest.isEmpty && rest.all isDigit
  | _ => false

/-- A magnitude in base 16, 8 or 2 behind its mark, or in base 10. -/
def magnitude? (cs : List Char) : Option Nat :=
  let marked := match cs with
    | '0' :: 'x' :: rest => natIn? 16 rest
    | '0' :: 'o' :: rest => natIn? 8 rest
    | '0' :: 'b' :: rest => natIn? 2 rest
    | _ => none
  match marked with
  | some n => some n
  | none => natIn? 10 cs

/-- The integer that a scalar writes. -/
def int? (cs : List Char) : Option Int :=
  if hasLeadingZero cs then none
  else
    match cs with
    | '-' :: rest => (magnitude? rest).map fun n => -(n : Int)
    | '+' :: rest => (magnitude? rest).map fun n => (n : Int)
    | _ => (magnitude? cs).map fun n => (n : Int)

/-- The texts of infinities and of what is not a number: they stand for null. -/
def isBeyond (s : String) : Bool :=
  [".inf", ".Inf", ".INF", "+.inf", "+.Inf", "+.INF", "-.inf", "-.Inf", "-.INF", ".nan", ".NaN", ".NAN"].contains s

/-- The value of a scalar; nothing for an integer beyond 64 bits, unless it is beyond 128 as well and so read as a
floating point number. -/
def value? (s : String) : Option Value :=
  let cs := s.toList
  if isNull s then some .null
  else
    match bool? s with
    | some b => some (.bool b)
    | none =>
      match int? cs with
      | some n =>
        if -(2 ^ 63) ≤ n ∧ n < 2 ^ 64 then some (.integer n)
        else if -(2 ^ 127) ≤ n ∧ n < 2 ^ 128 then none
        else
          match binary? cs with
          | some x => some (.number (.float x))
          | none => some (.string s)
      | none =>
        if isBeyond s then some .null
        else
          match (if hasLeadingZero cs then none else binary? cs) with
          | some x => some (.number (.float x))
          | none => some (.string s)

end JoinCanvas.Json.Scalar
