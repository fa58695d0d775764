import JoinCanvas.Decimal.Shortest
import JoinCanvas.Json.Value
import JoinCanvas.Text.Joined

/-!
# JSON text

The compact text of a value: no white space, members in key order, only the characters escaped that must be, and
floating point numbers with the fewest digits that read back.
-/

namespace JoinCanvas.Json

open JoinCanvas.Decimal

/-- The hexadecimal digit of a number below 16, in lower case. -/
def hexDigit (n : Nat) : Char :=
  if n < 10 then Char.ofNat (48 + n) else Char.ofNat (87 + n)

/-- A character inside a string: quotes, backslashes and control characters are escaped, all others stand for
themselves. -/
def escapeChar (c : Char) : List Char :=
  if c = '"' then ['\\', '"']
  else if c = '\\' then ['\\', '\\']
  else if c.toNat = 8 then ['\\', 'b']
  else if c.toNat = 9 then ['\\', 't']
  else if c.toNat = 10 then ['\\', 'n']
  else if c.toNat = 12 then ['\\', 'f']
  else if c.toNat = 13 then ['\\', 'r']
  else if c.toNat < 32 then ['\\', 'u', '0', '0', hexDigit (c.toNat / 16), hexDigit (c.toNat % 16)]
  else [c]

/-- A string with its quotes. -/
def quoted (s : String) : String :=
  String.ofList ('"' :: (s.toList.flatMap escapeChar ++ ['"']))

/-- How floating point numbers are written: positional for the decimal exponents from `-5` to `15`, with a digit
after the point; otherwise scientific with the sign of the exponent. -/
def floatText (x : Binary) : String :=
  let sign := if x.negative then "-" else ""
  if x.isZero then sign ++ "0.0"
  else
    let d := x.shortest
    let ds := Nat.toDigits 10 d.digits
    let point : Int := ds.length + d.exponent
    let zeros (n : Nat) := List.replicate n '0'
    let body :=
      if 0 ≤ d.exponent ∧ point ≤ 16 then ds ++ zeros d.exponent.toNat ++ ['.', '0']
      else if 0 < point ∧ point ≤ 16 then ds.take point.toNat ++ '.' :: ds.drop point.toNat
      else if -5 < point ∧ point ≤ 0 then '0' :: '.' :: (zeros (-point).toNat ++ ds)
      else
        let e := point - 1
        let mark := if e < 0 then ['e', '-'] else ['e', '+']
        let lead := match ds with
          | [] => []
          | [a] => [a]
          | a :: rest => a :: '.' :: rest
        lead ++ mark ++ Nat.toDigits 10 e.natAbs
    sign ++ String.ofList body

/-- The decimal text of an integer. -/
def integerText (n : Int) : String :=
  if n < 0 then "-" ++ String.ofList (Nat.toDigits 10 n.natAbs) else String.ofList (Nat.toDigits 10 n.natAbs)

namespace Number

/-- The text of a number. -/
def text : Number → String
  | .integer n => integerText n
  | .float x => floatText x

end Number

namespace Value

mutual

/-- The compact text of a value. -/
def text : Value → String
  | .null => "null"
  | .bool b => if b then "true" else "false"
  | .number n => n.text
  | .string s => quoted s
  | .array items => "[" ++ itemsText items ++ "]"
  | .object members => "\x7b" ++ membersText members ++ "\x7d"

/-- The items of an array with commas between them. -/
def itemsText : List Value → String
  | [] => ""
  | [v] => v.text
  | v :: w :: rest => v.text ++ "," ++ itemsText (w :: rest)

/-- The members of an object with commas between them. -/
def membersText : List (String × Value) → String
  | [] => ""
  | [(k, v)] => quoted k ++ ":" ++ v.text
  | (k, v) :: m :: rest => quoted k ++ ":" ++ v.text ++ "," ++ membersText (m :: rest)

end

end Value

end JoinCanvas.Json
