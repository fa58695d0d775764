import JoinCanvas.Json.Document

/-!
# Tables of settings under construction

Headers and dotted keys open tables inside tables.  A table that a path passes through exists from then on; it may get
a header of its own once.  A table that dotted keys made can only be extended by dotted keys, and a table that has a
header or is written as a value not by them.  A header in double brackets adds an element to a series; a path that
leads through a series means its last element.

* `get_change`: changing one key leaves the others.
-/

namespace JoinCanvas.Toml

open JoinCanvas.Json

/-- How a table came to be: by a header, as a part of the path of a header, or as a part of a dotted key. -/
inductive Origin where
  | header
  | path
  | dotted
deriving DecidableEq, Repr, Inhabited

/-- What a key holds. -/
inductive Entry where
  | value (d : Document)
  | table (origin : Origin) (members : List (String × Entry))
  | series (elements : List (List (String × Entry)))
deriving Repr, Inhabited

/-- The content of a table. -/
abbrev Entries := List (String × Entry)

mutual

/-- A finished entry as a document. -/
def Entry.toDocument : Entry → Document
  | .value d => d
  | .table _ members => .object (entryDocuments members)
  | .series elements => .array (elementDocuments elements)

/-- The members of a finished table as documents. -/
def entryDocuments : List (String × Entry) → List (Option String × Document)
  | [] => []
  | (key, e) :: rest => (some key, e.toDocument) :: entryDocuments rest

/-- The elements of a finished series as documents. -/
def elementDocuments : List (List (String × Entry)) → List Document
  | [] => []
  | members :: rest => .object (entryDocuments members) :: elementDocuments rest

end

namespace Entries

/-- What a key holds. -/
def get? (key : String) : Entries → Option Entry
  | [] => none
  | (k, e) :: rest => if k = key then some e else get? key rest

/-- The table with what one key holds changed; nothing when the change is refused. -/
def change (key : String) (f : Option Entry → Option Entry) : Entries → Option Entries
  | [] => (f none).map fun e => [(key, e)]
  | (k, e) :: rest =>
    if k = key then (f (some e)).map fun e => (k, e) :: rest
    else (change key f rest).map ((k, e) :: ·)

/-- A change of one key leaves what the others hold. -/
theorem get_change {key : String} {f : Option Entry → Option Entry} {entries changed : Entries}
    (h : change key f entries = some changed) (other : String) :
    get? other changed = if other = key then f (get? key entries) else get? other entries := by
  induction entries generalizing changed with
  | nil =>
    obtain ⟨e, he, rfl⟩ := Option.map_eq_some_iff.1 h
    simp only [get?, he, eq_comm]
  | cons m rest ih =>
    obtain ⟨k, e⟩ := m
    by_cases hk : k = key
    · subst hk
      rw [change, if_pos rfl] at h
      obtain ⟨e', he, rfl⟩ := Option.map_eq_some_iff.1 h
      by_cases hother : other = k
      · simp [get?, hother, he]
      · simp [get?, hother, Ne.symm hother]
    · rw [change, if_neg hk] at h
      obtain ⟨changed', hc, rfl⟩ := Option.map_eq_some_iff.1 h
      by_cases hother : other = key
      · subst hother
        simp [get?, hk, ih hc]
      · simp [get?, hother, ih hc]

/-- Changes the table at the end of a path.  Tables that are missing on the way are made; `mayEnter` says which of
the others the path may lead through. -/
def atPath (made : Origin) (mayEnter : Origin → Bool) (act : Origin → Entries → Option Entries) :
    List String → Origin → Entries → Option Entries
  | [], origin, entries => act origin entries
  | key :: path, _, entries =>
    change key
      (fun
        | none => (atPath made mayEnter act path made []).map (.table made)
        | some (.value _) => none
        | some (.table origin inner) =>
          if mayEnter origin then (atPath made mayEnter act path origin inner).map (.table origin) else none
        | some (.series elements) => do
          let last ← elements.getLast?
          let last ← atPath made mayEnter act path .header last
          return .series (elements.dropLast ++ [last]))
      entries

/-- Opens a table with a header. -/
def openTable (path : List String) (key : String) (entries : Entries) : Option Entries :=
  atPath .path (fun _ => true)
    (fun _ => change key fun
      | none => some (.table .header [])
      | some (.table .path inner) => some (.table .header inner)
      | some _ => none)
    path .header entries

/-- Opens another element of a series. -/
def openElement (path : List String) (key : String) (entries : Entries) : Option Entries :=
  atPath .path (fun _ => true)
    (fun _ => change key fun
      | none => some (.series [[]])
      | some (.series elements) => some (.series (elements ++ [[]]))
      | some _ => none)
    path .header entries

/-- Gives a dotted key a value in a table.  A key has one value. -/
def assign (path : List String) (key : String) (d : Document) (entries : Entries) : Option Entries :=
  atPath .dotted (· != .header)
    (fun origin inner =>
      if path.isEmpty || origin == .dotted then
        change key
          (fun
            | none => some (.value d)
            | some _ => none)
          inner
      else none)
    path .header entries

/-- Gives a dotted key a value in the table at a path. -/
def assignIn (table path : List String) (key : String) (d : Document) (entries : Entries) : Option Entries :=
  atPath .path (fun _ => true) (fun _ => assign path key d) table .header entries

end Entries

end JoinCanvas.Toml
