/-!
# Lists of texts, written and taken apart

`joined` writes a separator between the members of a list; `split` cuts a text at each occurrence of a character;
`lines` cuts it at line ends.
-/

namespace JoinCanvas.Text

/-- The members in order, with the separator between each two of them. -/
def joined (separator : String) : List String → String
  | [] => ""
  | [s] => s
  | s :: t :: rest => s ++ separator ++ joined separator (t :: rest)

@[simp] theorem joined_nil (separator : String) : joined separator [] = "" := rfl

@[simp] theorem joined_singleton (separator s : String) : joined separator [s] = s := rfl

theorem joined_cons_cons (separator s t : String) (rest : List String) :
    joined separator (s :: t :: rest) = s ++ separator ++ joined separator (t :: rest) := rfl

/-- The pieces of a text between the occurrences of a character: one more than there are of them. -/
def split (mark : Char) : List Char → List (List Char)
  | [] => [[]]
  | c :: rest =>
    if c = mark then [] :: split mark rest
    else
      match split mark rest with
      | [] => [[c]]
      | piece :: more => (c :: piece) :: more

theorem split_ne_nil (mark : Char) (cs : List Char) : split mark cs ≠ [] := by
  cases cs with
  | nil => simp [split]
  | cons c rest =>
    simp only [split]
    split
    · simp
    · split <;> simp

/-- Whether the first text starts the second. -/
def startsWith (head text : String) : Bool :=
  head.toList.isPrefixOf text.toList

/-- What follows `head` in `text`, when `text` starts with it. -/
def after? (head text : String) : Option String :=
  (head.toList.isPrefixOf? text.toList).map String.ofList

end JoinCanvas.Text
