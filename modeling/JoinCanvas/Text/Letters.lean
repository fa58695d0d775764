/-!
# Upper and lower case of ASCII letters

Keywords, function names and table names are compared without regard to the case of the letters `A` to `Z`;
no other character has a case here.
-/

namespace JoinCanvas.Text

/-- A text with its ASCII letters in lower case. -/
def lowered (s : String) : String :=
  String.ofList (s.toList.map Char.toLower)

/-- A text with its ASCII letters in upper case. -/
def uppered (s : String) : String :=
  String.ofList (s.toList.map Char.toUpper)

/-- Whether two texts are equal up to the case of ASCII letters. -/
def sameLetters (s t : String) : Bool :=
  s.toList.map Char.toLower == t.toList.map Char.toLower

theorem sameLetters_iff (s t : String) :
    sameLetters s t = true ↔ lowered s = lowered t := by
  simp [sameLetters, lowered, String.ofList_inj]

theorem sameLetters_refl (s : String) : sameLetters s s = true := by
  simp [sameLetters]

theorem sameLetters_symm {s t : String} (h : sameLetters s t = true) : sameLetters t s = true := by
  rw [sameLetters_iff] at *
  exact h.symm

end JoinCanvas.Text
