import JoinCanvas.Proofs.Sync.Report
import JoinCanvas.Proofs.Sync.Scope
import Mathlib.Data.List.Pairwise

/-!
# Tables by their full names

A `FROM` clause can name a table of the canvas by its full name.  The full name leaves out the blank segments of the
schema; what it has of the schema is then compared with the schema as the table has it.  The two differ when a segment
was left out, and the comparison is made unless all segments were.

* `Reference`: a full name in a `FROM` clause, with an alias or without one.
* `match_qualified`: when a table is found by its own full name.
* `read_references`: a `FROM` clause of references is read as what they are.
* `ofTables_references`: which references stand for their tables, and what is said of the others.
-/

namespace JoinCanvas

open JoinCanvas.Sql JoinCanvas.Statement JoinCanvas.Text JoinCanvas.Skeleton

/-! ### Schemas and full names -/

/-- Whether the full name of a table leaves out a segment of the schema and keeps another one. -/
def Table.losesSegment (t : Table) : Bool :=
  !(schemaSegments t.schema?).isEmpty &&
    t.schema?.any fun schema => ((split '.' schema.toList).map String.ofList).any allBlank

private theorem joined_split (cs : List Char) : (joined "." ((split '.' cs).map String.ofList)).toList = cs := by
  induction cs with
  | nil => rfl
  | cons c rest ih =>
    rw [split]
    cases hpieces : split '.' rest with
    | nil => exact absurd hpieces (split_ne_nil '.' rest)
    | cons piece more =>
      rw [hpieces] at ih
      split
      · next hc =>
        subst hc
        simpa [joined_cons_cons] using ih
      · cases more with
        | nil => simpa using ih
        | cons next more => simpa [joined_cons_cons] using ih

/-- With one more point at its end, a joined text is its parts with a point behind each. -/
private theorem joined_concat {l : List String} (hl : l ≠ []) :
    (joined "." l).toList ++ ['.'] = l.flatMap fun s => s.toList ++ ['.'] := by
  induction l with
  | nil => exact absurd rfl hl
  | cons s l ih =>
    cases l with
    | nil => simp
    | cons t l =>
      rw [List.flatMap_cons, ← ih (List.cons_ne_nil t l), joined_cons_cons]
      simp

/-- Parts that are left out take their separators with them. -/
private theorem length_joined_filter_lt {l : List String} {p : String → Bool} (hkept : l.filter p ≠ [])
    (hleft : ∃ s ∈ l, p s = false) :
    (joined "." (l.filter p)).toList.length < (joined "." l).toList.length := by
  obtain ⟨s, hs, hp⟩ := hleft
  have hmem : s ∈ l.filter fun s => !p s := List.mem_filter.2 ⟨hs, by rw [hp]; rfl⟩
  obtain ⟨t, left, hfilter⟩ := List.exists_cons_of_ne_nil (List.ne_nil_of_mem hmem)
  have hlength := ((List.filter_append_perm p l).flatMap_right fun s => s.toList ++ ['.']).length_eq
  rw [List.flatMap_append, ← joined_concat hkept, ← joined_concat (List.ne_nil_of_mem hs), hfilter,
    List.flatMap_cons] at hlength
  simp only [List.length_append, List.length_singleton] at hlength
  omega

private theorem length_eq_of_sameLetters {s t : String} (h : sameLetters s t = true) :
    s.toList.length = t.toList.length := by
  have := congrArg List.length (eq_of_beq h)
  simpa using this

/-- The segments that are kept of a schema are the schema, up to case, exactly when all are kept. -/
private theorem sameLetters_segments_iff {schema : String} (h : schemaSegments (some schema) ≠ []) :
    sameLetters schema (joined "." (schemaSegments (some schema))) = true ↔
      ((split '.' schema.toList).map String.ofList).any allBlank = false := by
  have hschema : joined "." ((split '.' schema.toList).map String.ofList) = schema :=
    String.toList_inj.1 (joined_split schema.toList)
  rw [schemaSegments] at h ⊢
  constructor
  · intro hsame
    have hlen := length_eq_of_sameLetters hsame
    -- a segment that is left out makes the text shorter, and the case of letters does not
    by_contra hblank
    obtain ⟨s, hs, hblank⟩ := List.any_eq_true.1 (Bool.not_eq_false _ ▸ hblank)
    have hlt := length_joined_filter_lt h ⟨s, hs, by rw [hblank]; rfl⟩
    rw [hschema] at hlt
    omega
  · intro hnone
    have hkept : ((split '.' schema.toList).map String.ofList).filter (fun s => !allBlank s) =
        (split '.' schema.toList).map String.ofList :=
      List.filter_eq_self.2 fun s hs => by rw [Bool.eq_false_iff.2 (List.any_eq_false.1 hnone s hs)]; rfl
    rw [hkept, hschema]
    exact sameLetters_refl schema

private theorem joined_segments_ne {schema? : Option String} (h : schemaSegments schema? ≠ []) :
    joined "." (schemaSegments schema?) ≠ "" := by
  obtain ⟨s, segments, hsegments⟩ := List.exists_cons_of_ne_nil h
  have hmem : s ∈ schemaSegments schema? := hsegments ▸ List.mem_cons_self ..
  have hblank : allBlank s = false := by
    cases schema? with
    | none => cases hmem
    | some schema => simpa using (List.mem_filter.1 hmem).2
  have hne : s.toList ≠ [] := by
    intro hnil
    simp [allBlank, hnil] at hblank
  intro hempty
  have hparts := joined_concat h
  rw [hempty, hsegments, List.flatMap_cons] at hparts
  have hlength := congrArg List.length hparts
  have hpos := List.length_pos_iff.2 hne
  simp only [List.length_append, List.length_singleton, String.toList_empty, List.length_nil] at hlength
  omega

/-- The schema of a full name is that of its table, or none, exactly when the name loses no segment. -/
theorem schema_matches (t : Table) :
    (joined "." (schemaSegments t.schema?) == "" ||
      t.schema?.any (sameLetters · (joined "." (schemaSegments t.schema?)))) = !t.losesSegment := by
  unfold Table.losesSegment
  by_cases hsegments : schemaSegments t.schema? = []
  · simp [hsegments]
  · have hne := beq_eq_false_iff_ne.2 (joined_segments_ne hsegments)
    have hkept : (schemaSegments t.schema?).isEmpty = false := by simpa using hsegments
    rw [hne, hkept, Bool.false_or, Bool.not_false, Bool.true_and]
    cases hschema : t.schema? with
    | none => exact absurd (by rw [hschema]; rfl) hsegments
    | some schema =>
      rw [hschema] at hsegments
      rw [Option.any_some, Option.any_some, Bool.eq_iff_iff, sameLetters_segments_iff hsegments, Bool.not_eq_true']

/-! ### Tables of a canvas -/

section Matching

variable {tables : List Table}

/-- No two tables have the same name, up to the case of letters. -/
def NamesDiffer (tables : List Table) : Prop :=
  tables.Pairwise fun t u => sameLetters t.name u.name = false

instance : Decidable (NamesDiffer tables) := inferInstanceAs (Decidable (tables.Pairwise _))

theorem NamesDiffer.eq_of_sameLetters (h : NamesDiffer tables) {t u : Table} (ht : t ∈ tables) (hu : u ∈ tables)
    (hname : sameLetters u.name t.name = true) : u = t := by
  have hsymm : Std.Symm fun t u : Table => sameLetters t.name u.name = false :=
    ⟨fun a b hab => Bool.eq_false_iff.2 fun hba => Bool.eq_false_iff.1 hab (sameLetters_symm hba)⟩
  by_contra hne
  exact Bool.eq_false_iff.1 (h.forall hu ht hne) hname

/-- The alias is none that a compiled query gives to a table of the canvas. -/
def FreeAlias (tables : List Table) (name : String) : Prop :=
  ∀ place < tables.length, sameLetters (tableAlias place) name = false

instance (name : String) : Decidable (FreeAlias tables name) :=
  inferInstanceAs (Decidable (∀ place < tables.length, _))

private theorem tableOfAlias_go_none {name : String} {place : Nat}
    (h : ∀ k < tables.length, sameLetters (tableAlias (place + k)) name = false) :
    tableOfAlias?.go name place tables = none := by
  induction tables generalizing place with
  | nil => rfl
  | cons t rest ih =>
    have hfirst := h 0 (by simp)
    rw [Nat.add_zero] at hfirst
    rw [tableOfAlias?.go, hfirst, if_neg Bool.false_ne_true]
    refine ih fun k hk => ?_
    have hshift : place + 1 + k = place + (k + 1) := by omega
    rw [hshift]
    exact h (k + 1) (by simpa using hk)

theorem FreeAlias.tableOfAlias {name : String} (h : FreeAlias tables name) : tableOfAlias? tables name = none :=
  tableOfAlias_go_none fun k hk => by rw [Nat.zero_add]; exact h k hk

private theorem path_named {schema? : Option String} {table : String} (h : allBlank table = false) :
    (pathOf schema? table).map (·.value) = schemaSegments schema? ++ [table] := by
  rw [values_pathOf, h, if_neg Bool.false_ne_true]

/-- By its own full name a table is found where no segment is lost, and no table is found elsewhere. -/
theorem match_qualified (hnames : NamesDiffer tables) {t : Table} (ht : t ∈ tables) (hname : allBlank t.name = false)
    {alias? : Option String} (halias : ∀ a ∈ alias?, FreeAlias tables a) :
    matchTable? tables ((pathOf t.schema? t.name).map (·.value)) alias? =
      if t.losesSegment then none else some t := by
  have hnone : alias?.bind (tableOfAlias? tables) = none :=
    Option.bind_eq_none_iff.2 fun a ha => (halias a ha).tableOfAlias
  have hself : t.isNamed (joined "." (schemaSegments t.schema?)) t.name = !t.losesSegment := by
    rw [Table.isNamed, sameLetters_refl, Bool.true_and, schema_matches]
  -- the names differ, so no other table can be found in its place
  have honly : ∀ u ∈ tables, u.isNamed (joined "." (schemaSegments t.schema?)) t.name = true → u = t :=
    fun u hu hnamed => hnames.eq_of_sameLetters ht hu (Bool.and_eq_true_iff.1 hnamed).1
  rw [matchTable?, hnone, path_named hname]
  simp only [List.getLast?_append, List.getLast?_singleton, Option.some_or, List.dropLast_concat]
  cases hlost : t.losesSegment with
  | true =>
    rw [if_pos rfl, List.find?_eq_none]
    intro u hu hnamed
    rw [honly u hu hnamed, hself, hlost] at hnamed
    cases hnamed
  | false =>
    rw [if_neg Bool.false_ne_true]
    rw [hlost] at hself
    cases hfind : tables.find? (·.isNamed (joined "." (schemaSegments t.schema?)) t.name) with
    | none => exact absurd hself (List.find?_eq_none.1 hfind t ht)
    | some u =>
      have hnamed : u.isNamed (joined "." (schemaSegments t.schema?)) t.name = true := by
        simpa using List.find?_some hfind
      rw [honly u (List.mem_of_find?_eq_some hfind) hnamed]

end Matching

/-! ### References -/

/-- An alias of a reference: a word or a quoted name, behind `AS` or not.  A word without `AS` is none that the query
goes on with. -/
structure ReferenceAlias where
  name : String
  isQuoted : Bool
  behindAs : Bool
  isWord : isQuoted = false → IsWord name.toList
  notReserved : isQuoted = false → behindAs = false → uppered name ∉ "AS" :: Keyword.endOfTable

namespace ReferenceAlias

/-- The alias as it is written. -/
def text (a : ReferenceAlias) : String :=
  let written := if a.isQuoted then quotedName a.name else a.name
  if a.behindAs then "AS " ++ written else written

/-- The alias as it is read. -/
def ident (a : ReferenceAlias) : Ident :=
  ⟨a.name, if a.isQuoted then some '\x60' else none⟩

/-- The tokens of the alias. -/
def tokens (a : ReferenceAlias) : List Token :=
  let token := Token.word a.ident.value a.ident.quote
  if a.behindAs then [word "AS", token] else [token]

theorem writes (a : ReferenceAlias) : Writes a.text a.tokens := by
  have hwritten : Writes (if a.isQuoted then quotedName a.name else a.name)
      [Token.word a.ident.value a.ident.quote] := by
    unfold ident
    cases hquoted : a.isQuoted with
    | true => exact writes_quotedName a.name
    | false => exact writes_word (a.isWord hquoted)
  unfold text tokens
  cases a.behindAs with
  | true => exact (writes_word (w := "AS") (by decide)).spaced hwritten
  | false => exact hwritten

theorem reads (a : ReferenceAlias) (rest : List Token) :
    Parser.alias? Keyword.endOfTable (a.tokens ++ rest) = some (some a.ident, rest) := by
  unfold tokens
  cases has : a.behindAs with
  | true => exact alias_as _ _ _
  | false =>
    cases hquoted : a.isQuoted with
    | true =>
      unfold ident
      rw [hquoted]
      rfl
    | false =>
      -- a bare word is an alias only if it is none that ends the table
      have hfree := a.notReserved hquoted has
      have hmiss : Parser.isKeyword "AS" (.word a.name none) = false := by
        have hne : uppered a.name ≠ "AS" := List.ne_of_not_mem_cons hfree
        simpa [Parser.isKeyword] using hne
      have hreserved : ¬ Keyword.endOfTable.contains (uppered a.name) = true := by
        simpa using List.not_mem_of_not_mem_cons hfree
      have hpeek : Parser.peek? (.word a.name none :: rest) =
          some (some (.word a.name none), .word a.name none :: rest) := rfl
      unfold ident
      rw [hquoted, if_neg Bool.false_ne_true, if_neg Bool.false_ne_true, List.singleton_append, Parser.alias?,
        Parser.bind_eq (Parser.keyword_miss hmiss), if_neg Bool.false_ne_true, Parser.bind_eq hpeek]
      simp only
      rw [if_neg hreserved]
      rfl

private theorem tableWords_reserved : tableWords ⊆ Keyword.endOfTable := by
  -- the list is one text in parts, which are taken apart one by one
  simp only [Keyword.endOfTable, Keyword.words, String.toList_append]
  decide +kernel

theorem next_tokens (a : ReferenceAlias) (rest : List Token) : Next AfterName (a.tokens ++ rest) := by
  unfold tokens
  cases has : a.behindAs with
  | true => exact Next.cons (by decide)
  | false =>
    refine Next.cons ⟨by simp, ?_⟩
    unfold ident
    cases hquoted : a.isQuoted with
    | true => exact (by decide : "" ∉ tableWords)
    | false => exact fun hword => a.notReserved hquoted has (List.mem_cons_of_mem _ (tableWords_reserved hword))

end ReferenceAlias

/-- A table in a `FROM` clause by its full name, with an alias or without one. -/
structure Reference where
  table : Table
  alias? : Option ReferenceAlias

namespace Reference

/-- The reference as it is written. -/
def text (r : Reference) : String :=
  match r.alias? with
  | some a => qualifiedTable r.table ++ " " ++ a.text
  | none => qualifiedTable r.table

/-- The tokens of the reference. -/
def tokens (r : Reference) : List Token :=
  Skeleton.qualified r.table.schema? r.table.name ++ (r.alias?.map ReferenceAlias.tokens).getD []

/-- The reference as it is read. -/
def relation (r : Reference) : Relation :=
  .table (pathOf r.table.schema? r.table.name) "" (r.alias?.map ReferenceAlias.ident) ""

/-- What is added to a scope when the reference stands for its table. -/
def addTo (s : Scope) (r : Reference) : Scope :=
  s.add r.table.name (r.alias?.map (·.name)) r.table.id

/-- What is said of the reference when it stands for no table. -/
def missing (r : Reference) : Unsupported :=
  .missingTable (joined "." (schemaSegments r.table.schema? ++ [r.table.name]))

theorem writes (r : Reference) : Writes r.text r.tokens := by
  have hname := writes_qualified r.table.schema? r.table.name
  unfold text tokens
  cases r.alias? with
  | none =>
    rw [Option.map_none, Option.getD_none, List.append_nil]
    exact hname
  | some a => exact hname.spaced a.writes

variable {rest : List Token}

/-- A reference is read with no joins behind it. -/
theorem fromItem_tokens (inner : Level) (r : Reference) (h : Next (· = .sign ",") rest) :
    TableGrammar.fromItem inner (r.tokens ++ rest) = some (⟨r.relation, []⟩, rest) := by
  have hrest : Next AfterName rest := h.mono fun _ ht => ht ▸ by decide
  have hjoins : ∀ table n, TableGrammar.joins inner table n rest = some ([], rest) := by
    intro table n
    cases n with
    | zero => rfl
    | succ n =>
      cases rest with
      | nil => rfl
      | cons t ts =>
        obtain rfl : t = .sign "," := h t rfl
        rfl
  have halias : Next AfterName ((r.alias?.map ReferenceAlias.tokens).getD [] ++ rest) ∧
      Parser.alias? Keyword.endOfTable ((r.alias?.map ReferenceAlias.tokens).getD [] ++ rest) =
        some (r.alias?.map ReferenceAlias.ident, rest) := by
    cases r.alias? with
    | some a => exact ⟨a.next_tokens rest, a.reads rest⟩
    | none =>
      refine ⟨hrest, ?_⟩
      cases rest with
      | nil => rfl
      | cons t ts =>
        obtain rfl : t = .sign "," := h t rfl
        rfl
  obtain ⟨m, hm⟩ : ∃ m, (r.tokens ++ rest).length = m + 1 := by
    obtain ⟨t, ts, hqualified, -⟩ := exists_qualified r.table.schema? r.table.name
    exact ⟨_, by rw [tokens, hqualified]; rfl⟩
  have hrelation : TableGrammar.relation inner (m + 1) (r.tokens ++ rest) = some (r.relation, rest) := by
    rw [tokens, List.append_assoc]
    exact relation_qualified inner r.table.schema? r.table.name m halias.1 halias.2 hrest
  rw [TableGrammar.fromItem, Parser.bind_eq (Parser.size_apply _), hm, Parser.bind_eq hrelation,
    Parser.bind_eq (Parser.size_apply _), Parser.bind_eq (hjoins _ _)]
  rfl

end Reference

/-- A query for everything of some references. -/
def referencesSql (refs : List Reference) : String :=
  "SELECT * FROM " ++ joined ", " (refs.map Reference.text)

/-- The references of a `FROM` clause are read one after another. -/
theorem read_references {refs : List Reference} (hne : refs ≠ []) :
    Statement.read (referencesSql refs) = some [.query { body := .select {
      items := [.wildcard "*"], tables := refs.map fun r => ⟨r.relation, []⟩ } }] := by
  have hwrites : Writes (referencesSql refs)
      (word "SELECT" :: (items [] ++ word "FROM" :: listed (refs.map Reference.tokens))) := by
    have hlist := writes_listed refs fun r _ => r.writes
    have hquery := (writes_word (w := "SELECT") (by decide)).spaced (writes_star.between (w := "FROM") (by decide) hlist)
    rw [referencesSql, show "SELECT * FROM " = "SELECT" ++ (" " ++ ("*" ++ (" " ++ ("FROM" ++ " ")))) from rfl]
    simp only [String.append_assoc] at hquery ⊢
    exact hquery
  have hreads : ReadsParts (· = .sign ",") (TableGrammar.fromItem inStatement)
      (refs.map fun r => (r.tokens, (⟨r.relation, []⟩ : FromItem))) := by
    intro x hx rest hrest
    obtain ⟨r, -, rfl⟩ := List.mem_map.1 hx
    exact r.fromItem_tokens inStatement hrest
  have hlist := list_parts (P := (· = .sign ",")) rfl (by simpa using hne) hreads Next.nil Next.nil
  simp only [List.map_map, Function.comp_def, List.append_nil] at hlist
  rw [Statement.read, hwrites.tokens_eq, Option.bind_some]
  refine statement_select ?_
  have hquantifier : QueryGrammar.quantifier inStatement
      (items [] ++ word "FROM" :: listed (refs.map Reference.tokens)) = _ := quantifier_items [] _
  have hitems : Parser.list (QueryGrammar.selectItem inStatement)
      (items [] ++ word "FROM" :: listed (refs.map Reference.tokens)) =
        some (selectedItems [], word "FROM" :: listed (refs.map Reference.tokens)) := by
    rw [show inStatement = (Level.ofDepth 46).above.above from rfl]
    exact list_items [] _
  have hinto : ∀ us, Parser.keyword "INTO" (word "FROM" :: us) = some (false, word "FROM" :: us) := fun us =>
    Parser.keyword_miss (by decide)
  rw [QueryGrammar.select, Parser.bind_eq (Parser.expectKeyword_cons (by decide)), Parser.bind_eq hquantifier,
    Parser.bind_eq hitems, Parser.bind_eq (hinto _)]
  simp only [Bool.false_eq_true, if_false]
  rw [Parser.bind_eq (Parser.pure_apply _), Parser.bind_eq (Parser.keyword_cons (by decide)), if_pos rfl,
    Parser.bind_eq hlist]
  rfl

/-! ### Scopes of references -/

/-- The reference is to a table of the canvas that has a name, and not under the alias of a table. -/
structure Reference.Refers (tables : List Table) (r : Reference) : Prop where
  mem : r.table ∈ tables
  named : allBlank r.table.name = false
  free : ∀ a ∈ r.alias?, FreeAlias tables a.name

/-- A reference stands for its table unless the full name has lost a segment of the schema. -/
theorem relation_reference {s : Scope} (hnames : NamesDiffer s.tables) {r : Reference} (hr : r.Refers s.tables) :
    s.relation r.relation = if r.table.losesSegment then .error r.missing else .ok (r.addTo s) := by
  have hvalue : (r.alias?.map ReferenceAlias.ident).map (·.value) = r.alias?.map (·.name) := by
    rw [Option.map_map]
    rfl
  have hfree : ∀ a ∈ r.alias?.map (·.name), FreeAlias s.tables a := by
    intro a ha
    obtain ⟨b, hb, rfl⟩ := Option.map_eq_some_iff.1 ha
    exact hr.free b hb
  have hmatch := match_qualified hnames hr.mem hr.named hfree
  simp only [Reference.relation, Scope.relation, hvalue, hmatch]
  rw [path_named hr.named]
  cases r.table.losesSegment with
  | true => rfl
  | false => simp [Reference.addTo]

/-- The references that lose no segment are added one after another, and each other one is reported. -/
theorem relations_references {s : Scope} {refs : List Reference} (hnames : NamesDiffer s.tables)
    (hrefs : ∀ r ∈ refs, r.Refers s.tables) :
    s.relations (refs.map Reference.relation) =
      ((refs.filter (!·.table.losesSegment)).foldl (fun s r => r.addTo s) s,
        (refs.filter (·.table.losesSegment)).map Reference.missing) := by
  -- what is added does not change the tables of the scope, so the step applies to the next reference too
  induction refs generalizing s with
  | nil => rfl
  | cons r refs ih =>
    have hstep := relation_reference hnames (hrefs r (List.mem_cons_self ..))
    have hlater : ∀ u ∈ refs, u.Refers s.tables := fun u hu => hrefs u (List.mem_cons_of_mem _ hu)
    cases hlost : r.table.losesSegment with
    | true =>
      rw [hlost, if_pos rfl] at hstep
      simp [Scope.relations, hstep, ih hnames hlater, hlost]
    | false =>
      rw [hlost, if_neg Bool.false_ne_true] at hstep
      have hadded : (r.addTo s).relations (refs.map Reference.relation) = _ := ih hnames hlater
      simp [Scope.relations, hstep, hadded, hlost]

/-- A full name is read back as its table exactly when it has lost no segment of the schema, in a query for references
and wherever else the relation stands. -/
theorem ofTables_references {m : Model} (hnames : NamesDiffer m.tables) {refs : List Reference} (hne : refs ≠ [])
    (hrefs : ∀ r ∈ refs, r.Refers m.tables) :
    (∃ q s, Statement.read (referencesSql refs) = some [.query q] ∧ q.body = .select s ∧
      s.tables = refs.map (fun r => ⟨r.relation, []⟩) ∧
      Scope.ofTables m.tables s.tables =
        ((refs.filter (!·.table.losesSegment)).foldl (fun s r => r.addTo s) { tables := m.tables },
          (refs.filter (·.table.losesSegment)).map Reference.missing)) ∧
      ∀ r ∈ refs, ∀ s : Scope, s.tables = m.tables →
        s.relation r.relation = if r.table.losesSegment then .error r.missing else .ok (r.addTo s) := by
  refine ⟨⟨_, _, read_references hne, rfl, rfl, ?_⟩, fun r hr s hs => ?_⟩
  · have hrelations : (refs.map fun r => (⟨r.relation, []⟩ : FromItem)).flatMap FromItem.relations =
        refs.map Reference.relation := by
      rw [List.flatMap_map]
      exact List.map_eq_flatMap.symm
    rw [Scope.ofTables, hrelations]
    exact relations_references hnames hrefs
  · exact relation_reference (hs ▸ hnames) (hs ▸ hrefs r hr)

/-- A table whose schema has a point too many behind each of its two segments. -/
def sloppyOrders : Table :=
  { id := "a", name := "orders", schema? := some "main..sales.", columns := [⟨"id", "bigint"⟩] }

/-- A table of a schema without blank segments. -/
def tidyCustomers : Table :=
  { id := "b", name := "customers", schema? := some "main.sales" }

/-- A table whose schema has blank segments only. -/
def bareItems : Table :=
  { id := "c", name := "line items", schema? := some ". ." }

/-- A canvas of the three tables. -/
def sloppySales : Model where
  id := "m"
  tables := [sloppyOrders, tidyCustomers, bareItems]

/-- References to the three tables: without an alias, under a word, and under a quoted name. -/
def sloppyReferences : List Reference :=
  [⟨sloppyOrders, none⟩,
    ⟨tidyCustomers, some ⟨"c", false, true, fun _ => by decide, fun _ => nofun⟩⟩,
    ⟨bareItems, some ⟨"the items", true, false, nofun, nofun⟩⟩]

/-- The theorem at those references, of which only the first one is reported. -/
theorem ofTables_references_sloppy : referencesSql sloppyReferences =
      "SELECT * FROM \x60main\x60.\x60sales\x60.\x60orders\x60, \x60main\x60.\x60sales\x60.\x60customers\x60 AS c, " ++
        "\x60line items\x60 \x60the items\x60" ∧
    sloppyReferences.map (·.table.losesSegment) = [true, false, false] ∧
    (∃ q s, Statement.read (referencesSql sloppyReferences) = some [.query q] ∧ q.body = .select s ∧
      s.tables = sloppyReferences.map (fun r => ⟨r.relation, []⟩) ∧
      Scope.ofTables sloppySales.tables s.tables =
        ((sloppyReferences.filter (!·.table.losesSegment)).foldl (fun s r => r.addTo s) { tables := sloppySales.tables },
          (sloppyReferences.filter (·.table.losesSegment)).map Reference.missing)) ∧
      ∀ r ∈ sloppyReferences, ∀ s : Scope, s.tables = sloppySales.tables →
        s.relation r.relation = if r.table.losesSegment then .error r.missing else .ok (r.addTo s) := by
  have hnames : NamesDiffer sloppySales.tables := by decide
  have hrefs : ∀ r ∈ sloppyReferences, r.Refers sloppySales.tables := by
    intro r hr
    simp only [sloppyReferences, List.mem_cons, List.not_mem_nil, or_false] at hr
    rcases hr with rfl | rfl | rfl
    · exact ⟨by decide, by decide, nofun⟩
    · exact ⟨by decide, by decide, fun a ha => by cases ha; decide⟩
    · exact ⟨by decide, by decide, fun a ha => by cases ha; decide⟩
  exact ⟨by decide +kernel, by decide, ofTables_references hnames (by simp [sloppyReferences]) hrefs⟩

/-- A canvas of the table with points too many in its schema. -/
def sloppyModel : Model where
  id := "m"
  tables := [sloppyOrders]

/-- The table is not found by its own full name. -/
theorem ofSql_sloppyOrders : NamesDiffer sloppyModel.tables ∧ sloppyOrders ∈ sloppyModel.tables ∧
    allBlank sloppyOrders.name = false ∧ qualifiedTable sloppyOrders = "\x60main\x60.\x60sales\x60.\x60orders\x60" ∧
    ∃ y, Sync.ofSql ("SELECT id FROM " ++ qualifiedTable sloppyOrders) sloppyModel = .ok y ∧
      y.unsupported = [.missingTable "main.sales.orders", .noOwner "id"] ∧ y.selections = [] := by
  refine ⟨by decide, by decide, by decide, by decide, ?_⟩
  have hread : (Sync.ofSql ("SELECT id FROM " ++ qualifiedTable sloppyOrders) sloppyModel).toOption.any (fun y =>
      y.unsupported = [.missingTable "main.sales.orders", .noOwner "id"] ∧ y.selections = []) = true := by
    decide +kernel
  obtain ⟨y, hy, hparts⟩ := (Option.any_eq_true _ _).1 hread
  exact ⟨y, toOption_eq_some_iff.1 hy, of_decide_eq_true hparts⟩

end JoinCanvas
