/-!
# Places in an indented text

In a text that is structured by indentation it matters in which line and column a thing stands.  A cursor is what
follows a place, with its line and column.  All line ends are one character when a text is read: `withLineFeeds` makes
them so.
-/

namespace JoinCanvas.Yaml

/-- What follows a place in a text, and where that place is. -/
structure Cursor where
  rest : List Char
  line : Nat := 0
  column : Nat := 0
deriving Repr, Inhabited

/-- A text in which every end of a line is a line feed. -/
def withLineFeeds : List Char → List Char
  | [] => []
  | '\r' :: '\n' :: rest => '\n' :: withLineFeeds rest
  | c :: rest => (if c = '\r' || c.toNat = 0x85 then '\n' else c) :: withLineFeeds rest

/-- Whether a character may stand in a text. -/
def isAllowed (c : Char) : Bool :=
  let n := c.toNat
  n = 9 || n = 10 || n = 13 || (32 ≤ n && n ≤ 126) || n = 0x85 || (0xA0 ≤ n && n ≤ 0xFFFD) || 0x10000 ≤ n

/-- White space within a line. -/
def isBlank (c : Char) : Bool :=
  c = ' ' || c = '\t'

/-- Whether a text starts with white space, or is at its end. -/
def startsBlank : List Char → Bool
  | [] => true
  | c :: _ => isBlank c || c = '\n'

namespace Cursor

/-- The place so many characters further on in the same line. -/
def advance (cur : Cursor) (n : Nat) : Cursor :=
  { cur with rest := cur.rest.drop n, column := cur.column + n }

/-- The place behind white space and comments.  Tabs count as white space where they are allowed: within a line
that has already begun, and everywhere in brackets. -/
def skipFrom (inBrackets : Bool) : Bool → Bool → List Char → Nat → Nat → Cursor
  | _, _, [], line, column => ⟨[], line, column⟩
  | tabs, comment, c :: rest, line, column =>
    if c = '\n' then skipFrom inBrackets inBrackets false rest (line + 1) 0
    else if comment then skipFrom inBrackets tabs true rest line (column + 1)
    else if c = ' ' || (c = '\t' && tabs) then skipFrom inBrackets tabs false rest line (column + 1)
    else if c = '#' then skipFrom inBrackets tabs true rest line (column + 1)
    else ⟨c :: rest, line, column⟩

/-- The place of the next thing in brackets. -/
def skipInBrackets (cur : Cursor) : Cursor :=
  skipFrom true true false cur.rest cur.line cur.column

/-- The place of the next thing outside of brackets; `tabs` says whether tabs may stand before it in this line. -/
def skip (cur : Cursor) (tabs : Bool) : Cursor :=
  skipFrom false tabs false cur.rest cur.line cur.column

/-- The place behind the white space of this line. -/
def skipBlank (cur : Cursor) : Cursor :=
  cur.advance (cur.rest.takeWhile isBlank).length

/-- Whether three characters that bound a document stand here at the start of a line. -/
def isMarker (cur : Cursor) : Bool :=
  cur.column = 0 &&
    match cur.rest with
    | '-' :: '-' :: '-' :: rest => startsBlank rest
    | '.' :: '.' :: '.' :: rest => startsBlank rest
    | _ => false

/-- Whether the document ends here. -/
def isEnd (cur : Cursor) : Bool :=
  cur.rest.isEmpty || cur.isMarker

/-- Whether a character stands here with white space behind it. -/
def isMark (cur : Cursor) (mark : Char) : Bool :=
  match cur.rest with
  | c :: rest => c = mark && startsBlank rest
  | [] => false

end Cursor

/-- White space between two parts of a scalar: the blanks before the first end of a line, the number of ends of lines,
and the place behind. -/
structure Gap where
  blanks : List Char
  breaks : Nat
  after : Cursor
deriving Repr, Inhabited

namespace Gap

/-- The white space at the start of a text.  Nothing when a tab stands in the first `least` columns of a further
line. -/
def readFrom? (least : Nat) : List Char → Nat → Nat → Nat → Option Gap
  | [], breaks, line, column => some ⟨[], breaks, ⟨[], line, column⟩⟩
  | c :: rest, breaks, line, column =>
    if c = '\n' then readFrom? least rest (breaks + 1) (line + 1) 0
    else if isBlank c then
      if c = '\t' && 0 < breaks && column < least then none
      else
        (readFrom? least rest breaks line (column + 1)).map fun g =>
          if breaks = 0 then { g with blanks := c :: g.blanks } else g
    else some ⟨[], breaks, ⟨c :: rest, line, column⟩⟩

/-- The white space at a place. -/
def read? (least : Nat) (cur : Cursor) : Option Gap :=
  readFrom? least cur.rest 0 cur.line cur.column

/-- What a gap adds to a scalar: blanks within a line as they are, one end of a line as a blank, and of more ends of
lines all but the first. -/
def text (g : Gap) : List Char :=
  match g.breaks with
  | 0 => g.blanks
  | 1 => [' ']
  | n + 2 => List.replicate (n + 1) '\n'

end Gap

end JoinCanvas.Yaml
