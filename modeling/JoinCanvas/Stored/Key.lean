import JoinCanvas.Json.Text
import JoinCanvas.Record.Edge
import JoinCanvas.Text.Joined

/-!
# Stored join keys

A stored edge has two texts for its key.  A simple key is stored as its two columns.  A composite key is stored in the
first text: a mark, and behind it the JSON text of its pairs; the second text then says nothing.

A key is storable when reading what is stored for it gives the key back.

The message of a text that is no list of pairs ends with what the JSON library says of it.  These words are a parameter;
without them the message is its lead.
-/

namespace JoinCanvas

open JoinCanvas.Json JoinCanvas.Text

/-- What is wrong with a stored composite key. -/
inductive KeyFault where
  | notPairs
  | noPairs
deriving DecidableEq, Repr, Inhabited

/-- What a JSON library says of a text that it does not read as pairs, where this is to be told. -/
abbrev Complaint : Type :=
  String → Option String

/-- The fault in words. -/
def KeyFault.message (f : KeyFault) (words? : Option String := none) : String :=
  match f with
  | .notPairs => "invalid composite key json" ++ ((words?.map (": " ++ ·)).getD "")
  | .noPairs => "composite key has no column pairs"

namespace JoinKey

/-- What a stored composite key starts with. -/
def compositeMark : String := "__JSON__:"

/-- What stands for the second column of a stored composite key. -/
def compositeRest : String := "__COMPOSITE__"

/-- The JSON text of pairs. -/
def pairsText (pairs : List KeyPair) : String :=
  (Value.array (pairs.map KeyPair.toValue)).text

/-- The two texts that are stored for a key. -/
def stored : JoinKey → String × String
  | .simple a b => (a, b)
  | .composite pairs => (compositeMark ++ pairsText pairs, compositeRest)

/-- The pairs that a JSON text writes. -/
def readPairs? (text : String) : Option (List KeyPair) :=
  (Document.read? text).bind (Document.asList? KeyPair.ofDocument?)

/-- The text that is stored for the pairs of a composite key, when the key is one. -/
def compositeText? (fromColumn? : Option String) : Option String :=
  after? compositeMark (fromColumn?.getD "")

/-- The key that is stored as two texts, either of which may be missing.  Blank columns are replaced. -/
def ofStored (fromColumn? toColumn? : Option String) : Except KeyFault JoinKey :=
  match compositeText? fromColumn? with
  | some text =>
    match readPairs? text with
    | none => .error .notPairs
    | some [] => .error .noPairs
    | some pairs => .ok (.composite (pairs.map fun p => KeyPair.of p.fromColumn p.toColumn))
  | none => .ok (ofColumns (fromColumn?.getD "") (toColumn?.getD ""))

end JoinKey

end JoinCanvas
