import JoinCanvas.Json.Document
import JoinCanvas.Yaml.Scalar

/-!
# Reading indented texts

A document of mappings, lists and scalars.  A mapping or list is written in brackets, or as a block whose keys or
dashes stand in one column; a list under a key may stand in the column of the key.  `Yaml.read?` gives the document that
a text holds, or nothing when the text is not well formed or does not hold exactly one document.

Anchors, aliases, tags, directives and keys behind question marks are not part of the language that is read.
-/

namespace JoinCanvas.Yaml

open JoinCanvas.Json

/-- Something that has been read in one go, the place behind it, whether that place is in a further line, and whether
the thing can be a key. -/
structure Leaf where
  document : Document
  after : Cursor
  inNextLine : Bool := false
  isBlock : Bool := false
deriving Repr, Inhabited

/-- The scalar that stands where nothing is written. -/
def nothing : Document := .plain ""

/-- The key that a document can be. -/
def keyOf : Document → Option String
  | .plain s => some s
  | .string s => s
  | _ => none

/-- How many steps are enough to read what follows a place: no step but the first three reads nothing. -/
def Cursor.steps (cur : Cursor) : Nat :=
  4 * cur.rest.length + 4

mutual

/-- A scalar, or a mapping or list in brackets. -/
def readLeaf? (inBrackets : Bool) (least : Nat) : Nat → Cursor → Option Leaf
  | 0, _ => none
  | n + 1, cur =>
    match cur.rest with
    | [] => none
    | c :: rest =>
      if c = '[' then
        (readItems? n (cur.advance 1).skipInBrackets).map fun (items, cur) => ⟨.array items, cur, false, false⟩
      else if c = '\x7b' then
        (readMembers? n (cur.advance 1).skipInBrackets).map fun (members, cur) => ⟨.object members, cur, false, false⟩
      else if c = '"' || c = '\x27' then
        (readQuoted? c (rest.length + 1) (cur.advance 1)).map fun (text, cur) =>
          ⟨.string (some (String.ofList text)), cur, false, false⟩
      else if !inBrackets && (c = '|' || c = '>') then
        (readBlock? (c = '>') least (cur.advance 1)).map fun s =>
          ⟨.string (some (String.ofList s.text)), s.after, s.inNextLine, true⟩
      else if startsPlain inBrackets cur.rest then
        (readPlain? inBrackets least (rest.length + 2) [] false cur).map fun s =>
          ⟨.plain (String.ofList s.text), s.after, s.inNextLine, false⟩
      else none

/-- The items of a list in brackets, up to its bracket.  An item with a colon is a mapping of one key. -/
def readItems? : Nat → Cursor → Option (List Document × Cursor)
  | 0, _ => none
  | n + 1, cur =>
    if cur.rest.head? = some ']' then some ([], cur.advance 1)
    else do
      let (key, value?, cur) ← readPair? n cur
      let item : Document := match value? with
        | some value => .object [(keyOf key, value)]
        | none => key
      match cur.rest.head? with
      | some ']' => return ([item], cur.advance 1)
      | some ',' =>
        let (items, cur) ← readItems? n (cur.advance 1).skipInBrackets
        return (item :: items, cur)
      | _ => none

/-- The members of a mapping in brackets, up to its bracket. -/
def readMembers? : Nat → Cursor → Option (List (Option String × Document) × Cursor)
  | 0, _ => none
  | n + 1, cur =>
    if cur.rest.head? = some '\x7d' then some ([], cur.advance 1)
    else do
      let (key, value?, cur) ← readPair? n cur
      let member := (keyOf key, value?.getD nothing)
      match cur.rest.head? with
      | some '\x7d' => return ([member], cur.advance 1)
      | some ',' =>
        let (members, cur) ← readMembers? n (cur.advance 1).skipInBrackets
        return (member :: members, cur)
      | _ => none

/-- Something in brackets and what stands behind its colon, if it has one.  A key stands in one line with its
colon. -/
def readPair? : Nat → Cursor → Option (Document × Option Document × Cursor)
  | 0, _ => none
  | n + 1, cur => do
    let key ← readLeaf? true 0 n cur
    let after := key.after.skipInBrackets
    if after.rest.head? = some ':' then
      if after.line ≠ cur.line then none
      else
        let after := (after.advance 1).skipInBrackets
        match after.rest.head? with
        | some c =>
          if c = ',' || c = ']' || c = '\x7d' then return (key.document, some nothing, after)
          else
            let value ← readLeaf? true 0 n after
            return (key.document, some value.document, value.after.skipInBrackets)
        | none => none
    else return (key.document, none, after)

end

/-- The place of the next thing when nothing more stands in the line of a leaf. -/
def Leaf.next? (leaf : Leaf) : Option Cursor :=
  if leaf.inNextLine then some (leaf.after.skip false)
  else
    let cur := leaf.after.skip true
    if cur.rest.isEmpty || cur.line ≠ leaf.after.line then some cur else none

/-- The place behind the colon of a key; nothing when the leaf is not a key.  A key stands in one line with its
colon. -/
def Leaf.afterColon? (leaf : Leaf) (line : Nat) : Option Cursor :=
  let cur := leaf.after.skipBlank
  if !leaf.isBlock && cur.line = line && cur.isMark ':' then some (cur.advance 1) else none

/-- Whether the content of an entry of a block stands here: further in than the column of the block, or in that column
when it is a block scalar. -/
def Cursor.isWithin (cur : Cursor) (column : Nat) : Bool :=
  column < cur.column || (cur.column = column && (cur.rest.head? = some '|' || cur.rest.head? = some '>'))

mutual

/-- A mapping or list in a block, or a leaf; and the place of what comes after it.  `least` is the least column in which
its further lines may start. -/
def readNode? (least : Nat) : Nat → Cursor → Option (Document × Cursor)
  | 0, _ => none
  | n + 1, cur =>
    if cur.isMark '-' then
      (readList? cur.column false n cur).map fun (items, next) => (.array items, next)
    else do
      let leaf ← readLeaf? false least cur.steps cur
      match leaf.afterColon? cur.line with
      | some value =>
        let (members, next) ← readMapping? cur.column n (keyOf leaf.document) value
        return (.object members, next)
      | none => return (leaf.document, ← leaf.next?)
termination_by structural fuel => fuel

/-- The entries of a list whose dashes stand in a column.  A list under a key in the same column ends at the next
key. -/
def readList? (column : Nat) (underKey : Bool) : Nat → Cursor → Option (List Document × Cursor)
  | 0, _ => none
  | n + 1, cur => do
    let start := (cur.advance 1).skip false
    let (item, next) ←
      if !start.isEnd && start.isWithin column then readNode? (column + 1) n start else some (nothing, start)
    if next.isEnd || next.column < column then return ([item], next)
    else if next.column = column then
      if next.isMark '-' then
        let (items, next) ← readList? column underKey n next
        return (item :: items, next)
      else if underKey then return ([item], next)
      else none
    else none
termination_by structural fuel => fuel

/-- The value of a key that stands in a column, from behind its colon on. -/
def readValue? (column : Nat) : Nat → Cursor → Option (Document × Cursor)
  | 0, _ => none
  | n + 1, cur =>
    let start := cur.skip true
    if start.isEnd then some (nothing, start)
    else if start.line = cur.line then do
      let leaf ← readLeaf? false (column + 1) start.steps start
      return (leaf.document, ← leaf.next?)
    else if start.isWithin column then readNode? (column + 1) n start
    else if start.column = column && start.isMark '-' then
      (readList? column true n start).map fun (items, next) => (.array items, next)
    else some (nothing, start)
termination_by structural fuel => fuel

/-- The members of a mapping whose keys stand in a column, from the value of a key on. -/
def readMapping? (column : Nat) : Nat → Option String → Cursor → Option (List (Option String × Document) × Cursor)
  | 0, _, _ => none
  | n + 1, key, cur => do
    let (value, next) ← readValue? column n cur
    if next.isEnd || next.column < column then return ([(key, value)], next)
    else if next.column = column && !next.isMark '-' then
      let leaf ← readLeaf? false (column + 1) next.steps next
      let after ← leaf.afterColon? next.line
      let (members, next) ← readMapping? column n (keyOf leaf.document) after
      return ((key, value) :: members, next)
    else none
termination_by structural fuel => fuel

end

/-- The document at the start of a text, and the place behind it. -/
def readDocument? (cur : Cursor) : Option (Document × Cursor) :=
  if cur.isMarker && cur.rest.head? = some '-' then do
    let start := (cur.advance 3).skip true
    if start.isEnd then return (nothing, start)
    else if start.line = cur.line then
      let leaf ← readLeaf? false 0 start.steps start
      return (leaf.document, ← leaf.next?)
    else readNode? 0 start.steps start
  else if cur.isEnd then none
  else readNode? 0 cur.steps cur

/-- Whether nothing follows but the marker of the end, perhaps several times.  The number bounds the markers; the
length of the text is enough. -/
def isFinished : Nat → Cursor → Bool
  | 0, _ => false
  | n + 1, cur =>
    cur.rest.isEmpty ||
      (cur.isMarker && cur.rest.head? = some '.' &&
        let next := (cur.advance 3).skip true
        next.rest.isEmpty || (next.line ≠ cur.line && isFinished n next))

/-- The document that a text holds.  A mark of the byte order at its start takes up a column. -/
def read? (text : String) : Option Document :=
  let cs := withLineFeeds text.toList
  let start : Cursor := match cs with
    | '\ufeff' :: rest => ⟨rest, 0, 1⟩
    | cs => ⟨cs, 0, 0⟩
  if cs.all isAllowed then do
    let (d, next) ← readDocument? (start.skip false)
    if isFinished (cs.length + 1) next then some d else none
  else none

end JoinCanvas.Yaml
