import JoinCanvas.Decimal.Reading
import JoinCanvas.Yaml.Cursor

/-!
# Scalars of an indented text

A scalar is plain, quoted, or a block of indented lines.  A scalar over several lines is folded: a single end of a line
becomes a blank.  A block of lines behind a bar keeps its line ends.
-/

namespace JoinCanvas.Yaml

open JoinCanvas.Decimal

/-- The characters that no plain scalar starts with. -/
def indicators : List Char :=
  "-?:,[]\x7b\x7d#&*!|>\x27\"%@\x60".toList

/-- Whether a plain scalar starts here. -/
def startsPlain (inBrackets : Bool) : List Char → Bool
  | [] => false
  | c :: rest =>
    if c = '-' then !startsBlank rest
    else if !inBrackets && (c = '?' || c = ':') then !startsBlank rest
    else !isBlank c && c != '\n' && !indicators.contains c

/-- Whether a plain scalar ends before this text: at a colon with white space behind it, and in brackets also at a
comma or another bracket. -/
def endsPlain (inBrackets : Bool) : List Char → Bool
  | [] => true
  | c :: rest =>
    isBlank c || c = '\n' || (c = ':' && startsBlank rest) || (inBrackets && ",[]\x7b\x7d".toList.contains c)

/-- Whether a colon stands here that is allowed neither in nor behind a plain scalar in brackets. -/
def isStrayColon (inBrackets : Bool) : List Char → Bool
  | ':' :: c :: _ => inBrackets && ",?[]\x7b\x7d".toList.contains c
  | _ => false

/-- The part of a plain scalar up to white space. -/
def plainPart? (inBrackets : Bool) : List Char → Option (List Char)
  | [] => some []
  | c :: rest =>
    if isBlank c || c = '\n' then some []
    else if isStrayColon inBrackets (c :: rest) then none
    else if endsPlain inBrackets (c :: rest) then some []
    else (plainPart? inBrackets rest).map (c :: ·)

/-- A scalar that has been read, the place behind it, and whether that place is in a further line. -/
structure ScalarText where
  text : List Char
  after : Cursor
  inNextLine : Bool := false
deriving Repr, Inhabited

/-- The rest of a plain scalar, given what stands before its next part.  Further lines start at least in the column
`least`, except in brackets. -/
def readPlain? (inBrackets : Bool) (least : Nat) : Nat → List Char → Bool → Cursor → Option ScalarText
  | 0, _, _, _ => none
  | n + 1, before, inNextLine, cur =>
    if cur.isMarker || cur.rest.head? = some '#' then some ⟨[], cur, inNextLine⟩
    else do
      let part ← plainPart? inBrackets cur.rest
      if part.isEmpty then return ⟨[], cur, inNextLine⟩
      let cur := cur.advance part.length
      let gap ← Gap.read? least cur
      let more ←
        if gap.blanks.isEmpty && gap.breaks = 0 then some ⟨[], cur, false⟩
        else if !inBrackets && gap.after.column < least then some ⟨[], gap.after, 0 < gap.breaks⟩
        else readPlain? inBrackets least n gap.text (0 < gap.breaks) gap.after
      return { more with text := before ++ part ++ more.text }

/-- The character with a number in so many hexadecimal digits at the start of a text. -/
def numbered? (digits : Nat) (cs : List Char) : Option Char := do
  let ds := cs.take digits
  let n ← natIn? 16 ds
  if ds.length = digits ∧ n.isValidChar then some (Char.ofNat n) else none

/-- The character that an escape stands for, and how many characters the escape has behind its backslash. -/
def escape? : List Char → Option (Char × Nat)
  | 'x' :: rest => (numbered? 2 rest).map (·, 3)
  | 'u' :: rest => (numbered? 4 rest).map (·, 5)
  | 'U' :: rest => (numbered? 8 rest).map (·, 9)
  | c :: _ =>
    let n? := match c with
      | '0' => some 0
      | 'a' => some 7
      | 'b' => some 8
      | 't' => some 9
      | '\t' => some 9
      | 'n' => some 10
      | 'v' => some 11
      | 'f' => some 12
      | 'r' => some 13
      | 'e' => some 27
      | ' ' => some 0x20
      | '"' => some 0x22
      | '\x27' => some 0x27
      | '/' => some 0x2F
      | '\\' => some 0x5C
      | 'N' => some 0x85
      | '_' => some 0xA0
      | 'L' => some 0x2028
      | 'P' => some 0x2029
      | _ => none
    n?.map fun n => (Char.ofNat n, 1)
  | [] => none

/-- The rest of a quoted scalar up to its quote.  A doubled apostrophe stands for one; between double quotes there are
escapes, and a backslash at the end of a line joins it to the next. -/
def readQuoted? (quote : Char) : Nat → Cursor → Option (List Char × Cursor)
  | 0, _ => none
  | n + 1, cur =>
    if cur.isMarker then none
    else
      match cur.rest with
      | [] => none
      | c :: rest =>
        if c = quote then
          if quote = '\x27' && rest.head? = some quote then do
            let (text, cur) ← readQuoted? quote n (cur.advance 2)
            return (quote :: text, cur)
          else some ([], cur.advance 1)
        else if c = '\\' && quote = '"' then
          if rest.head? = some '\n' then do
            let gap ← Gap.read? 0 ⟨rest.drop 1, cur.line + 1, 0⟩
            let (text, cur) ← readQuoted? quote n gap.after
            return (List.replicate gap.breaks '\n' ++ text, cur)
          else do
            let (e, length) ← escape? rest
            let (text, cur) ← readQuoted? quote n (cur.advance (length + 1))
            return (e :: text, cur)
        else if isBlank c || c = '\n' then do
          let gap ← Gap.read? 0 cur
          let (text, cur) ← readQuoted? quote n gap.after
          return (gap.text ++ text, cur)
        else do
          let (text, cur) ← readQuoted? quote n (cur.advance 1)
          return (c :: text, cur)

/-- What becomes of the line ends at the end of a block: all of them go, one stays, or all stay. -/
inductive Chomp where
  | strip
  | clip
  | keep
deriving DecidableEq, Repr, Inhabited

/-- The marks behind the bar of a block: what becomes of its last line ends, and how far it is indented. -/
def blockMarks : List Char → Chomp × Option Nat × List Char
  | c :: d :: rest =>
    if (c = '+' || c = '-') && isDigit d then (if c = '+' then .keep else .strip, some (d.toNat - 48), rest)
    else if isDigit c && (d = '+' || d = '-') then (if d = '+' then .keep else .strip, some (c.toNat - 48), rest)
    else if c = '+' then (.keep, none, d :: rest)
    else if c = '-' then (.strip, none, d :: rest)
    else if isDigit c then (.clip, some (c.toNat - 48), d :: rest)
    else (.clip, none, c :: d :: rest)
  | [c] =>
    if c = '+' then (.keep, none, [])
    else if c = '-' then (.strip, none, [])
    else if isDigit c then (.clip, some (c.toNat - 48), [])
    else (.clip, none, [c])
  | [] => (.clip, none, [])

/-- A text as its lines. -/
def linesOf : List Char → List (List Char)
  | [] => [[]]
  | '\n' :: rest => [] :: linesOf rest
  | c :: rest =>
    match linesOf rest with
    | line :: lines => (c :: line) :: lines
    | [] => [[c]]

/-- Lines as a text. -/
def ofLines : List (List Char) → List Char
  | [] => []
  | [line] => line
  | line :: lines => line ++ '\n' :: ofLines lines

/-- The blanks at the start of a line. -/
def indentOf (line : List Char) : Nat :=
  (line.takeWhile (· = ' ')).length

/-- The greatest indentation among the blank lines at the start and the first line that is not blank.  Nothing when a
tab stands where the indentation ends. -/
def greatestIndent? : List (List Char) → Option Nat
  | [] => some 0
  | [line] => if (line.drop (indentOf line)).head? = some '\t' then none else some (indentOf line)
  | line :: lines =>
    match line.drop (indentOf line) with
    | [] => (greatestIndent? lines).map (max (indentOf line))
    | c :: _ => if c = '\t' then none else some (indentOf line)

/-- The number of blank lines at the start, and the lines from the first that is not blank.  A line is blank when it
holds only blanks and not more of them than the indentation.  Nothing when a tab stands within the indentation. -/
def blankLines? (indent : Nat) : List (List Char) → Option (Nat × List (List Char))
  | [] => some (0, [])
  | line :: lines =>
    let own := min (indentOf line) indent
    match line.drop own with
    | [] => if lines.isEmpty then some (0, [line]) else (blankLines? indent lines).map fun (n, lines) => (n + 1, lines)
    | c :: _ => if c = '\t' ∧ own < indent then none else some (0, line :: lines)

/-- The text of a block that has been read so far: the text, whether an end of a line follows it, the number of blank
lines behind, and whether its last line starts with white space. -/
structure BlockText where
  text : List Char := []
  break? : Bool := false
  blankLines : Nat := 0
  indented : Bool := false
deriving Repr, Inhabited

/-- The block with one more line.  When lines are folded, the end of a line between two lines that start without white
space becomes a blank, or goes when blank lines follow it. -/
def BlockText.addLine (b : BlockText) (folded : Bool) (line : List Char) (isLast : Bool) : BlockText :=
  let indented := line.head?.any isBlank
  let joined :=
    if folded && b.break? && !b.indented && !indented then (if b.blankLines = 0 then [' '] else [])
    else if b.break? then ['\n']
    else []
  { text := b.text ++ joined ++ List.replicate b.blankLines '\n' ++ line, break? := !isLast, blankLines := 0, indented }

/-- The lines of a block, and the lines that follow it. -/
def readBlockLines? (folded : Bool) (indent : Nat) : Nat → BlockText → List (List Char) →
    Option (BlockText × List (List Char))
  | 0, _, _ => none
  | n + 1, b, lines => do
    let (blank, lines) ← blankLines? indent lines
    let b := { b with blankLines := blank }
    match lines with
    | [] => return (b, [])
    | line :: rest =>
      if indentOf line < indent || (line.drop indent).isEmpty then return (b, lines)
      else readBlockLines? folded indent n (b.addLine folded (line.drop indent) rest.isEmpty) rest

/-- The text of a whole block. -/
def BlockText.chomped (b : BlockText) (chomp : Chomp) : List Char :=
  let break' := if b.break? then ['\n'] else []
  match chomp with
  | .strip => b.text
  | .clip => b.text ++ break'
  | .keep => b.text ++ break' ++ List.replicate b.blankLines '\n'

/-- The block scalar behind its bar.  `least` is the least column in which its lines may start. -/
def readBlock? (folded : Bool) (least : Nat) (cur : Cursor) : Option ScalarText := do
  let (chomp, given?, rest) := blockMarks cur.rest
  if given? = some 0 then none
  let rest := rest.dropWhile isBlank
  let rest := if rest.head? = some '#' then rest.dropWhile (· != '\n') else rest
  match rest with
  | [] => return ⟨[], ⟨[], cur.line, cur.column⟩, true⟩
  | c :: rest =>
    if c != '\n' then none
    let lines := linesOf rest
    let indent ← match given? with
      | some n => some (least - 1 + n)
      | none => (greatestIndent? lines).map fun n => max (max n least) 1
    let (b, lines') ← readBlockLines? folded indent (lines.length + 1) {} lines
    let rest := ofLines lines'
    let own := match lines' with
      | [] => 0
      | line :: _ => min (indentOf line) indent
    return ⟨b.chomped chomp, ⟨rest.drop own, cur.line + 1 + (lines.length - lines'.length), own⟩, true⟩

end JoinCanvas.Yaml
