import JoinCanvas.Proofs.Join.Aliases
import JoinCanvas.Proofs.Statement.Queries
import JoinCanvas.Sync.Basic

/-!
# Names of a compiled query

The tables of a compiled query go by their aliases, and every column stands behind the alias of its table.  A scope
knows the tables by their names too, and what stands later counts: the alias leads back to the table unless a table
that is named later has the alias as its name.

* `tableOfAlias_tableAlias`: an alias is that of the table at its place.
* `exists_scope`: where the aliases of a compiled query lead.
* `leadsTo_eq_self_iff`: which of them lead to their own tables.
-/

namespace JoinCanvas

open JoinCanvas.Sql JoinCanvas.Statement JoinCanvas.Text JoinCanvas.Skeleton

/-- No table has the alias of another one as its name, up to the case of letters. -/
def AliasesFree (tables : List Table) : Prop :=
  ∀ i j t, tables[i]? = some t → j < tables.length → i ≠ j → sameLetters t.name (tableAlias j) = false

/-! ### Aliases -/

private theorem toLower_of_not_upper {c : Char} (h : c.toNat < 65 ∨ 90 < c.toNat) : c.toLower = c := by
  have hrange : ¬ ('A'.val ≤ c.val ∧ c.val ≤ 'Z'.val) := by
    rw [UInt32.le_iff_toNat_le, UInt32.le_iff_toNat_le]
    have hc : c.val.toNat = c.toNat := rfl
    have hA : 'A'.val.toNat = 65 := rfl
    have hZ : 'Z'.val.toNat = 90 := rfl
    omega
  unfold Char.toLower
  rw [dif_neg hrange]

private theorem toLower_of_isDigit {c : Char} (h : c.isDigit = true) : c.toLower = c := by
  have := isDigit_iff_toNat.1 h
  exact toLower_of_not_upper (by omega)

private theorem toLower_of_isBlank {c : Char} (h : isBlank c = true) : c.toLower = c := by
  refine toLower_of_not_upper ?_
  simp only [isBlank, Bool.or_eq_true, Bool.and_eq_true, decide_eq_true_eq, beq_iff_eq] at h
  omega

theorem lowered_tableAlias (place : Nat) : lowered (tableAlias place) = tableAlias place := by
  have hdigits : (Nat.toDigits 10 (place + 1)).map Char.toLower = Nat.toDigits 10 (place + 1) :=
    (List.map_congr_left fun c hc => toLower_of_isDigit ((isDigits_toDigits _).2 c hc)).trans (List.map_id _)
  simp [lowered, tableAlias, hdigits]

theorem sameLetters_tableAlias {m n : Nat} : sameLetters (tableAlias m) (tableAlias n) = true ↔ m = n := by
  rw [sameLetters_iff, lowered_tableAlias, lowered_tableAlias, tableAlias_inj]

private theorem tableOfAlias_go (tables : List Table) (start k : Nat) :
    tableOfAlias?.go (tableAlias (start + k)) start tables = tables[k]? := by
  induction tables generalizing start k with
  | nil => simp [tableOfAlias?.go]
  | cons t rest ih =>
    unfold tableOfAlias?.go
    cases k with
    | zero => rw [Nat.add_zero, if_pos (sameLetters_refl _), List.getElem?_cons_zero]
    | succ k =>
      have hne : ¬ sameLetters (tableAlias start) (tableAlias (start + (k + 1))) = true := by
        rw [sameLetters_tableAlias]
        omega
      have hshift : start + (k + 1) = start + 1 + k := by omega
      rw [if_neg hne, List.getElem?_cons_succ, hshift]
      exact ih (start + 1) k

theorem tableOfAlias_tableAlias (tables : List Table) (place : Nat) :
    tableOfAlias? tables (tableAlias place) = tables[place]? := by
  have h := tableOfAlias_go tables 0 place
  rwa [Nat.zero_add] at h

/-! ### The scope of a compiled query -/

/-- Whether the first table with an identifier goes by the alias of a place or has it as its name. -/
def goesBy (tables : List Table) (place : Nat) (id : String) : Bool :=
  (findTable? tables id).any fun x => x.1 = place || sameLetters x.2.name (tableAlias place)

/-- The last table that goes by the alias of a place. -/
def lastGoingBy? (tables : List Table) (place : Nat) (ids : List String) : Option String :=
  ids.reverse.find? (goesBy tables place)

/-- The table that the alias of a table leads to in the query of a canvas. -/
def leadsTo (tables : List Table) (edges : List Edge) (id : String) : String :=
  (lastGoingBy? tables (placeOf tables id) ((Plan.ofCanvas tables edges).tables.map (·.id))).getD id

private theorem sameLetters_tableAlias_of_blank {name : String} (h : allBlank name = true) (place : Nat) :
    sameLetters name (tableAlias place) = false := by
  rw [Bool.eq_false_iff, Ne, sameLetters_iff, lowered_tableAlias]
  intro he
  have hhead := congrArg (fun s => s.toList.head?) he
  cases hcs : name.toList with
  | nil => simp [lowered, hcs, tableAlias] at hhead
  | cons c cs =>
    have hblank : isBlank c = true := List.all_eq_true.1 h c (by rw [hcs]; exact List.mem_cons_self ..)
    have hc : c.toLower = 't' := by simpa [lowered, hcs, tableAlias] using hhead
    rw [toLower_of_isBlank hblank] at hc
    subst hc
    exact absurd hblank (by decide)

private theorem lowered_unnamed_ne (place : Nat) : lowered unnamedTable ≠ tableAlias place := by
  intro h
  have hlowered : lowered unnamedTable = "__unnamed_table__" := by decide
  rw [hlowered] at h
  have hhead := congrArg (fun s => s.toList.head?) h
  simp [tableAlias] at hhead

/-- The name under which a table stands in a query is an alias where its own name is. -/
private theorem lowered_shownName_eq_iff (name : String) (place : Nat) :
    lowered (if allBlank name then unnamedTable else name) = tableAlias place ↔
      sameLetters name (tableAlias place) = true := by
  split
  · next h => simp [sameLetters_tableAlias_of_blank h, lowered_unnamed_ne]
  · rw [sameLetters_iff, lowered_tableAlias]

/-- The parts of a full name. -/
theorem values_pathOf (schema? : Option String) (table : String) :
    (pathOf schema? table).map (·.value) =
      if allBlank table then [unnamedTable] else schemaSegments schema? ++ [table] := by
  unfold pathOf
  split
  · rfl
  · rw [List.map_map]
    exact List.map_id _

/-- The name of a table in a query, which is the last part of its full name. -/
private theorem lastPart_pathOf (schema? : Option String) (table : String) :
    ((pathOf schema? table).map (·.value)).getLast?.getD "" = if allBlank table then unnamedTable else table := by
  rw [values_pathOf]
  split
  · rfl
  · simp

namespace Scope

/-- The alias of every table of a canvas leads to the table that `owner` gives for it. -/
def Leads (s : Scope) (tables : List Table) (owner : String → String) : Prop :=
  ∀ id place t, findTable? tables id = some (place, t) → s.qualifier? (tableAlias place) = some (owner id)

variable {s : Scope} {tables : List Table} {owner : String → String}

/-- A column behind the alias of a table is found in the table that the alias leads to. -/
theorem Leads.column_columnExpr (h : s.Leads tables owner) {id : String} {place : Nat} {t : Table}
    (hfind : findTable? tables id = some (place, t)) (n : String) :
    s.column (columnExpr place n) = .ok (owner id, n) := by
  have hqualifier := h id place t hfind
  simp [columnExpr, column, lowered_tableAlias, hqualifier]

/-- A table of the canvas is added to the scope, and its alias and its name lead to it from then on. -/
theorem relation_table (hs : s.tables = tables) {id : String} (hid : id ∈ tables.map (·.id)) :
    ∃ s', s.relation (tableRelation tables id) = .ok s' ∧ s'.tables = tables ∧ ∀ k,
      s'.qualifier? (tableAlias k) = if goesBy tables k id then some id else s.qualifier? (tableAlias k) := by
  obtain ⟨⟨place, t⟩, hfind⟩ := Option.isSome_iff_exists.1 ((isSome_findTable_iff tables id).2 hid)
  obtain ⟨ht, htid, -⟩ := findTable_eq_some_iff.1 hfind
  have hmatch : matchTable? s.tables ((pathOf t.schema? t.name).map (·.value)) (some (tableAlias place)) =
      some t := by
    simp only [matchTable?, Option.bind_some, hs, tableOfAlias_tableAlias, ht]
  refine ⟨s.add (if allBlank t.name then unnamedTable else t.name) (some (tableAlias place)) t.id, ?_, hs,
    fun k => ?_⟩
  · simp only [tableRelation, hfind, relation, Option.map_some, hmatch, lastPart_pathOf]
  · have hname := lowered_shownName_eq_iff t.name k
    have halias : lowered (tableAlias place) = tableAlias k ↔ place = k := by rw [lowered_tableAlias, tableAlias_inj]
    simp only [qualifier?, add, Option.toList_some, List.map_cons, List.map_nil, List.cons_append, List.nil_append,
      List.find?_cons, goesBy, hfind, Option.any_some, htid]
    -- the alias stands before the name, and both lead to the same table
    by_cases hk : place = k
    · rw [decide_eq_true (halias.2 hk), decide_eq_true hk]
      rfl
    · by_cases hsame : sameLetters t.name (tableAlias k) = true
      · simp [halias, hk, hname.2 hsame, hsame]
      · simp [halias, hk, hname, hsame]

/-- The scope of tables of the canvas: an alias leads to the last of them that goes by it. -/
theorem relations_tables (hs : s.tables = tables) {ids : List String} (hids : ∀ id ∈ ids, id ∈ tables.map (·.id)) :
    ∃ s', s.relations (ids.map (tableRelation tables)) = (s', []) ∧ ∀ k,
      s'.qualifier? (tableAlias k) = (lastGoingBy? tables k ids).or (s.qualifier? (tableAlias k)) := by
  induction ids generalizing s with
  | nil => exact ⟨s, rfl, fun k => rfl⟩
  | cons id ids ih =>
    obtain ⟨s', hs', htables, hstep⟩ := relation_table hs (hids id (List.mem_cons_self ..))
    obtain ⟨s'', hs'', hrest⟩ := ih htables fun i hi => hids i (List.mem_cons_of_mem _ hi)
    refine ⟨s'', ?_, fun k => ?_⟩
    · rw [List.map_cons, relations, hs']
      exact hs''
    · rw [hrest, hstep, lastGoingBy?, lastGoingBy?, List.reverse_cons, List.find?_append, Option.or_assoc,
        List.find?_singleton]
      congr 1
      split <;> rfl

end Scope

/-- The tables that a compiled query names are those of its plan, in order. -/
theorem relations_fromItem (base : Table) (others : List Table) (edges : List Edge) :
    (fromItem base.id (base :: others) (reachedFrom base.id (base :: others) edges)).relations =
      ((Plan.ofCanvas (base :: others) edges).tables.map (·.id)).map (tableRelation (base :: others)) := by
  rw [ids_tables]
  simp [FromItem.relations, fromItem, joinParts, alongJoin, crossJoin, Function.comp_def]

theorem goesBy_self {tables : List Table} {id : String} {place : Nat} {t : Table}
    (h : findTable? tables id = some (place, t)) : goesBy tables place id = true := by
  simp [goesBy, h]

variable {base : Table} {others : List Table} {edges : List Edge}

/-- The alias of a table leads to a table of the query. -/
theorem lastGoingBy_eq {id : String} {place : Nat} {t : Table}
    (h : findTable? (base :: others) id = some (place, t)) :
    lastGoingBy? (base :: others) place ((Plan.ofCanvas (base :: others) edges).tables.map (·.id)) =
      some (leadsTo (base :: others) edges id) := by
  have hid : id ∈ (Plan.ofCanvas (base :: others) edges).tables.map (·.id) :=
    mem_ids_tables ((isSome_findTable_iff _ id).1 (by rw [h]; rfl))
  have hplace : placeOf (base :: others) id = place := by rw [placeOf, h]; rfl
  rw [leadsTo, hplace]
  cases hlast : lastGoingBy? (base :: others) place ((Plan.ofCanvas (base :: others) edges).tables.map (·.id)) with
  | none => exact absurd (goesBy_self h) (List.find?_eq_none.1 hlast id (List.mem_reverse.2 hid))
  | some other => rfl

/-- The scope of a compiled query: every alias leads to a table, and nothing is unsupported. -/
theorem exists_scope (base : Table) (others : List Table) (edges : List Edge) :
    ∃ s, Scope.ofTables (base :: others)
        [fromItem base.id (base :: others) (reachedFrom base.id (base :: others) edges)] = (s, []) ∧
      s.Leads (base :: others) (leadsTo (base :: others) edges) := by
  have hids : ∀ id ∈ (Plan.ofCanvas (base :: others) edges).tables.map (·.id), id ∈ (base :: others).map (·.id) := by
    intro id hid
    obtain ⟨p, hp, rfl⟩ := List.mem_map.1 hid
    obtain ⟨x, hx, -⟩ := Option.map_eq_some_iff.1 (planned_of_mem_tables hp)
    exact (isSome_findTable_iff _ p.id).1 (by rw [hx]; rfl)
  obtain ⟨s, hs, hleads⟩ := Scope.relations_tables (s := { tables := base :: others }) rfl hids
  refine ⟨s, ?_, fun id place t hfind => ?_⟩
  · rw [Scope.ofTables, List.flatMap_cons, List.flatMap_nil, List.append_nil, relations_fromItem]
    exact hs
  · rw [hleads, lastGoingBy_eq hfind, Option.some_or]

/-- In a list without duplicates a member is the last one with a property when none behind it has the property. -/
private theorem find_reverse_eq_iff {l : List String} (hl : l.Nodup) {p : String → Bool} {a : String} (ha : a ∈ l)
    (hp : p a = true) : l.reverse.find? p = some a ↔ ∀ b ∈ l, l.idxOf a < l.idxOf b → p b = false := by
  obtain ⟨pre, post, rfl⟩ := List.append_of_mem ha
  have hnodup := List.nodup_append.1 hl
  have hpre : a ∉ pre := fun h => hnodup.2.2 a h a (List.mem_cons_self ..) rfl
  have hpost : a ∉ post := (List.nodup_cons.1 hnodup.2.1).1
  have hidx : (pre ++ a :: post).idxOf a = pre.length := by
    rw [List.idxOf_append_of_notMem hpre, List.idxOf_cons_self, Nat.add_zero]
  -- what comes after `a` is what is behind it, as no member is there twice
  have hlater : ∀ b, b ∈ post ↔ b ∈ pre ++ a :: post ∧ pre.length < (pre ++ a :: post).idxOf b := by
    intro b
    by_cases hb : b ∈ pre
    · have := List.idxOf_lt_length_of_mem hb
      rw [List.idxOf_append_of_mem hb]
      exact ⟨fun h => absurd rfl (hnodup.2.2 b hb b (List.mem_cons_of_mem _ h)), fun h => by omega⟩
    · rw [List.idxOf_append_of_notMem hb, List.mem_append, List.mem_cons]
      by_cases hba : b = a
      · subst hba
        simp [hpost]
      · rw [List.idxOf_cons_ne _ (Ne.symm hba)]
        simp [hb, hba]
  have hfind : (pre ++ a :: post).reverse.find? p = (post.reverse.find? p).or (some a) := by
    simp [List.find?_append, hp]
  rw [hfind, hidx]
  constructor
  · intro h b hb hlt
    cases hlast : post.reverse.find? p with
    | none => exact Bool.eq_false_iff.2 (List.find?_eq_none.1 hlast b (List.mem_reverse.2 ((hlater b).2 ⟨hb, hlt⟩)))
    | some c =>
      rw [hlast, Option.some_or, Option.some_inj] at h
      exact absurd (List.mem_reverse.1 (List.mem_of_find?_eq_some hlast)) (h ▸ hpost)
  · intro h
    have hnone : post.reverse.find? p = none := List.find?_eq_none.2 fun b hb => by
      obtain ⟨hb, hlt⟩ := (hlater b).1 (List.mem_reverse.1 hb)
      exact Bool.eq_false_iff.1 (h b hb hlt)
    rw [hnone, Option.none_or]

/-- Whether a table is named before another one in the query of a canvas. -/
def NamedBefore (tables : List Table) (edges : List Edge) (id other : String) : Prop :=
  let ids := (Plan.ofCanvas tables edges).tables.map (·.id)
  ids.idxOf id < ids.idxOf other

private theorem place_ne_of_namedBefore {id other : String} {place k : Nat} {t u : Table}
    (h : findTable? (base :: others) id = some (place, t)) (hu : findTable? (base :: others) other = some (k, u))
    (hlater : NamedBefore (base :: others) edges id other) : k ≠ place := by
  rintro rfl
  obtain ⟨ht, htid, -⟩ := findTable_eq_some_iff.1 h
  obtain ⟨hu, huid, -⟩ := findTable_eq_some_iff.1 hu
  obtain rfl := Option.some.inj (ht.symm.trans hu)
  exact absurd hlater (by rw [← htid, ← huid]; exact Nat.lt_irrefl _)

/-- The alias of a table leads to it exactly when no table that is named later has the alias as its name. -/
theorem leadsTo_eq_self_iff {id : String} {place : Nat} {t : Table}
    (h : findTable? (base :: others) id = some (place, t)) :
    leadsTo (base :: others) edges id = id ↔
      ∀ other k u, findTable? (base :: others) other = some (k, u) → NamedBefore (base :: others) edges id other →
        sameLetters u.name (tableAlias place) = false := by
  have hmem : ∀ {i k u}, findTable? (base :: others) i = some (k, u) →
      i ∈ (Plan.ofCanvas (base :: others) edges).tables.map (·.id) := fun hi =>
    mem_ids_tables ((isSome_findTable_iff _ _).1 (by rw [hi]; rfl))
  rw [← Option.some_inj, ← lastGoingBy_eq h, lastGoingBy?,
    find_reverse_eq_iff nodup_ids_tables (hmem h) (goesBy_self h)]
  -- a later table has another place, so only its name can be the alias
  have hgoes : ∀ other k u, findTable? (base :: others) other = some (k, u) →
      NamedBefore (base :: others) edges id other →
      goesBy (base :: others) place other = sameLetters u.name (tableAlias place) := by
    intro other k u hu hlater
    simp [goesBy, hu, place_ne_of_namedBefore h hu hlater]
  constructor
  · intro hids other k u hu hlater
    rw [← hgoes other k u hu hlater]
    exact hids other (hmem hu) hlater
  · intro hnames other hother hlater
    obtain ⟨p, hp, rfl⟩ := List.mem_map.1 hother
    obtain ⟨⟨k, u⟩, hu, -⟩ := Option.map_eq_some_iff.1 (planned_of_mem_tables hp)
    rw [hgoes p.id k u hu hlater]
    exact hnames p.id k u hu hlater

/-- Where no table has the alias of another one as its name, every alias leads to its own table. -/
theorem leadsTo_of_free (hfree : AliasesFree (base :: others)) {id : String} (hid : id ∈ (base :: others).map (·.id)) :
    leadsTo (base :: others) edges id = id := by
  obtain ⟨⟨place, t⟩, h⟩ := Option.isSome_iff_exists.1 ((isSome_findTable_iff _ id).2 hid)
  refine (leadsTo_eq_self_iff h).2 fun other k u hu hlater => ?_
  have hplace := (List.getElem?_eq_some_iff.1 (findTable_eq_some_iff.1 h).1).1
  exact hfree k place u (findTable_eq_some_iff.1 hu).1 hplace (place_ne_of_namedBefore h hu hlater)

end JoinCanvas
