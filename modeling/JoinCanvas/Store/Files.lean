import JoinCanvas.Store.Basic
import JoinCanvas.Stored.Record
import JoinCanvas.Yaml.Reader

/-!
# Stores from files

The records of a store may lie in files: models in one directory, connections in another, one record a file.  The end
of a file's name says how the record is written.  Files are read by these ends first and then by name; of records
with the same identifier the one read last counts.  The first file that cannot be read stops the loading.
-/

namespace JoinCanvas

open JoinCanvas.Json

/-- What stands at a path. -/
inductive FileItem where
  | file (content : ByteArray)
  | directory
deriving Inhabited

/-- Files and directories by the parts of their paths.  The directories on the way to an item exist as well. -/
abbrev FileTree := List (List String × FileItem)

namespace FileTree

/-- Whether a directory stands at a path. -/
def isDirectory (tree : FileTree) (path : List String) : Bool :=
  path.isEmpty || tree.any fun (p, item) =>
    path.isPrefixOf p && (path.length < p.length || match item with
      | .directory => true
      | .file _ => false)

/-- The content of the file at a path. -/
def content? (tree : FileTree) (path : List String) : Option ByteArray :=
  tree.findSome? fun (p, item) =>
    match item with
    | .file content => if p = path then some content else none
    | .directory => none

/-- The names in a directory, in order. -/
def names (tree : FileTree) (path : List String) : List String :=
  (tree.filterMap fun (p, _) => if path.isPrefixOf p then p[path.length]? else none).eraseDups.mergeSort (· ≤ ·)

/-- The place that a path leads to; nothing when it does not exist for certain. -/
def place? (tree : FileTree) (path : String) : Option (List String) :=
  if path.isEmpty || path.startsWith "/" then none
  else
    (path.splitOn "/").foldlM
      (fun (place : List String) part =>
        if part = "" || part = "." then some place
        else if part = ".." then (if !place.isEmpty && tree.isDirectory place then some place.dropLast else none)
        else some (place ++ [part]))
      []

/-- The text of the file at a path. -/
def text (tree : FileTree) (path : List String) : Except Fault String :=
  if tree.isDirectory path then .error .isDirectory
  else
    match String.fromUTF8? ((tree.content? path).getD .empty) with
    | some text => .ok text
    | none => .error .notText

end FileTree

/-- The ways in which a record may be written. -/
inductive RecordFormat where
  | json
  | yaml
deriving DecidableEq, Repr, Inhabited

namespace RecordFormat

/-- The ends of the names of files that hold records, in the order in which they are read. -/
def extensions : List String := [".json", ".yml", ".yaml"]

/-- How the record in a file of this name is written.  A name that is nothing but an end has no end. -/
def ofName (name : String) : RecordFormat :=
  if name.endsWith ".json" && name != ".json" then .json else .yaml

/-- The document that a text writes. -/
def document? : RecordFormat → String → Option Document
  | .json, text => Document.read? text
  | .yaml, text => Yaml.read? text

/-- The fault of a text that is no record. -/
def fault : RecordFormat → Fault
  | .json => .notJson
  | .yaml => .notYaml

/-- The record that a text writes. -/
def record {α : Type} (format : RecordFormat) (read? : Document → Option α) (text : String) : Except Fault α :=
  match (format.document? text).bind read? with
  | some a => .ok a
  | none => .error format.fault

end RecordFormat

namespace Store

/-- The names of the files in a directory that hold records, in the order in which they are read. -/
def recordNames (tree : FileTree) (path : List String) : List String :=
  RecordFormat.extensions.flatMap fun e => (tree.names path).filter (·.endsWith e)

/-- The records in a directory; none when it does not exist. -/
def records {α : Type} (tree : FileTree) (read? : Document → Option α) (path : List String) :
    Except Fault (List α) :=
  (recordNames tree path).mapM fun name => do
    (RecordFormat.ofName name).record read? (← tree.text (path ++ [name]))

/-- The store in a directory. -/
def load (tree : FileTree) (root : String) : Except Fault Store :=
  match (tree.place? root).filter tree.isDirectory with
  | none => .error (.noStore root)
  | some place => do
    let models ← records tree StoredModel.ofDocument? (place ++ ["models"])
    let connections ← records tree Connection.ofDocument? (place ++ ["connections"])
    return ofLists models connections

end Store

end JoinCanvas
