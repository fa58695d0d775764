/-!
# Blank characters

White space of Unicode: what may stand around a name without being part of it.  `isBlank` is the property
`White_Space`; a text is blank when all of its characters are.

* `trimEnd_append_blank`: blanks at the end do not matter to `trimEnd`.
* `trimEnd_of_last`: a text whose last character is not blank is its own trimmed form.
-/

namespace JoinCanvas.Text

/-- The characters of the Unicode property `White_Space`. -/
def isBlank (c : Char) : Bool :=
  let n := c.toNat
  (9 ≤ n && n ≤ 13) || n == 0x20 || n == 0x85 || n == 0xA0 || n == 0x1680 ||
    (0x2000 ≤ n && n ≤ 0x200A) || n == 0x2028 || n == 0x2029 || n == 0x202F || n == 0x205F || n == 0x3000

/-- The list without the longest end of it whose members all satisfy `p`. -/
def dropTrailing {α : Type} (p : α → Bool) : List α → List α
  | [] => []
  | c :: rest =>
    match dropTrailing p rest with
    | [] => if p c then [] else [c]
    | kept => c :: kept

/-- A text without the blanks at its end. -/
def trimEnd (cs : List Char) : List Char :=
  dropTrailing isBlank cs

/-- A text without the blanks at its two ends. -/
def trim (cs : List Char) : List Char :=
  (trimEnd cs).dropWhile isBlank

/-- Whether a text holds nothing but blanks. -/
def allBlank (s : String) : Bool :=
  s.toList.all isBlank

theorem dropTrailing_eq_nil_iff {α : Type} (p : α → Bool) (cs : List α) :
    dropTrailing p cs = [] ↔ cs.all p = true := by
  induction cs with
  | nil => simp [dropTrailing]
  | cons c rest ih =>
    cases hr : dropTrailing p rest with
    | nil => by_cases hc : p c <;> simp_all [dropTrailing]
    | cons d ds =>
      simp only [dropTrailing, hr]
      rw [hr] at ih
      simp_all

/-- Dropping an end whose members all satisfy `p` changes nothing of the result. -/
theorem dropTrailing_append_of_all {α : Type} (p : α → Bool) (cs ds : List α) (h : ds.all p = true) :
    dropTrailing p (cs ++ ds) = dropTrailing p cs := by
  induction cs with
  | nil => exact (dropTrailing_eq_nil_iff p ds).2 h
  | cons c rest ih => simp [dropTrailing, ih]

/-- A member that fails `p` protects all that stands before it. -/
theorem dropTrailing_append_singleton {α : Type} (p : α → Bool) (cs : List α) (c : α) (h : p c = false) :
    dropTrailing p (cs ++ [c]) = cs ++ [c] := by
  induction cs with
  | nil => simp [dropTrailing, h]
  | cons d rest ih =>
    simp only [List.cons_append, dropTrailing, ih]
    cases rest <;> rfl

theorem trimEnd_append_blank (cs ds : List Char) (h : ds.all isBlank = true) :
    trimEnd (cs ++ ds) = trimEnd cs :=
  dropTrailing_append_of_all isBlank cs ds h

theorem trimEnd_of_last (cs : List Char) (c : Char) (h : isBlank c = false) :
    trimEnd (cs ++ [c]) = cs ++ [c] :=
  dropTrailing_append_singleton isBlank cs c h

end JoinCanvas.Text
