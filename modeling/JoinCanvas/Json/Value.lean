import JoinCanvas.Decimal.Binary

/-!
# JSON values

The values that filters compare with and that rows hold.  The members of an object are kept sorted by key, each key
once: `ofMembers` builds that form from a list in which the last of two equal keys wins.

* `lookup_insertMember`: what a key holds after a member was put.
-/

namespace JoinCanvas.Json

open JoinCanvas.Decimal

/-- A number: an integer of 64 bits, signed or not, or a number of the 64 bit binary format. -/
inductive Number where
  | integer (n : Int)
  | float (x : Binary)
deriving DecidableEq, Repr, Inhabited

/-- A JSON value. -/
inductive Value where
  | null
  | bool (b : Bool)
  | number (n : Number)
  | string (s : String)
  | array (items : List Value)
  | object (members : List (String × Value))
deriving Repr, Inhabited

/-- A row or an object: keys with their values. -/
abbrev Members := List (String × Value)

/-- Puts a member at its place among members that are sorted by key. -/
def insertMember (key : String) (value : Value) : Members → Members
  | [] => [(key, value)]
  | (k, v) :: rest =>
    if key = k then (key, value) :: rest
    else if key < k then (key, value) :: (k, v) :: rest
    else (k, v) :: insertMember key value rest

namespace Members

/-- The value a key holds. -/
def get? (members : Members) (key : String) : Option Value :=
  (members.find? (·.1 = key)).map (·.2)

/-- The keys in order. -/
def keys (members : Members) : List String :=
  members.map (·.1)

end Members

/-- Sorted members, each key once and with its last value. -/
def ofMembers (members : Members) : Members :=
  members.foldl (fun sorted m => insertMember m.1 m.2 sorted) []

namespace Value

/-- An object with the given members. -/
def record (members : Members) : Value :=
  .object (ofMembers members)

/-- An integer value. -/
def integer (n : Int) : Value :=
  .number (.integer n)

/-- A text, or null for none. -/
def optional : Option String → Value
  | none => .null
  | some s => .string s

/-- The text of a string value. -/
def text? : Value → Option String
  | .string s => some s
  | _ => none

end Value

theorem lookup_insertMember (key : String) (value : Value) (members : Members) (k : String) :
    Members.get? (insertMember key value members) k =
      if k = key then some value else Members.get? members k := by
  induction members with
  | nil =>
    by_cases h : key = k
    · simp [insertMember, Members.get?, h]
    · have h' : ¬ k = key := fun e => h e.symm
      simp [insertMember, Members.get?, h, h']
  | cons m rest ih =>
    obtain ⟨a, b⟩ := m
    simp only [insertMember]
    split
    · next h =>
      subst h
      by_cases hk : key = k
      · simp [Members.get?, hk]
      · have hk' : ¬ k = key := fun e => hk e.symm
        simp [Members.get?, hk, hk']
    · next h =>
      split
      · by_cases hk : key = k
        · simp [Members.get?, hk]
        · have hk' : ¬ k = key := fun e => hk e.symm
          simp [Members.get?, hk, hk']
      · by_cases ha : a = k
        · have hk' : ¬ k = key := fun e => h (by rw [ha, e])
          simp [Members.get?, ha, hk']
        · simp only [Members.get?, List.find?_cons, ha, decide_false] at ih ⊢
          exact ih

end JoinCanvas.Json
