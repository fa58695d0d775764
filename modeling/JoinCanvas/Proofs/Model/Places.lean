import JoinCanvas.Join.Plan

/-!
# Places of tables

A table is known by its identifier on the canvas and by its place in compiled SQL.

* `findTable_eq_some_iff`: an identifier means the first table that has it.
* `tableAlias_inj`: different places have different aliases.
-/

namespace JoinCanvas

private theorem findTable_go_eq_some_iff {tables : List Table} {id : String} {start n : Nat} {t : Table} :
    findTable?.go id start tables = some (n, t) ↔
      ∃ k, n = start + k ∧ tables[k]? = some t ∧ t.id = id ∧ ∀ m < k, ∀ u, tables[m]? = some u → u.id ≠ id := by
  -- places are counted from `start`, which moves on along the list
  induction tables generalizing start with
  | nil => simp [findTable?.go]
  | cons u rest ih =>
    unfold findTable?.go
    split
    · next hu =>
      constructor
      · intro h
        obtain ⟨rfl, rfl⟩ := Prod.mk.inj (Option.some.inj h)
        exact ⟨0, by simp, by simp, hu, by simp⟩
      · rintro ⟨k, rfl, hk, ht, hfirst⟩
        cases k with
        | zero => simp_all
        | succ k => exact absurd hu (hfirst 0 (Nat.succ_pos k) u (by simp))
    · next hu =>
      rw [ih]
      constructor
      · rintro ⟨k, rfl, hk, ht, hfirst⟩
        refine ⟨k + 1, by omega, by simpa using hk, ht, fun m hm v hv => ?_⟩
        cases m with
        | zero =>
          simp only [List.getElem?_cons_zero, Option.some.injEq] at hv
          exact hv ▸ hu
        | succ m => exact hfirst m (by omega) v (by simpa using hv)
      · rintro ⟨k, rfl, hk, ht, hfirst⟩
        cases k with
        | zero =>
          simp only [List.getElem?_cons_zero, Option.some.injEq] at hk
          exact absurd ht (hk ▸ hu)
        | succ k =>
          exact ⟨k, by omega, by simpa using hk, ht, fun m hm v hv => hfirst (m + 1) (by omega) v (by simpa using hv)⟩

/-- An identifier means the first table that has it. -/
theorem findTable_eq_some_iff {tables : List Table} {id : String} {n : Nat} {t : Table} :
    findTable? tables id = some (n, t) ↔
      tables[n]? = some t ∧ t.id = id ∧ ∀ m < n, ∀ u, tables[m]? = some u → u.id ≠ id := by
  unfold findTable?
  rw [findTable_go_eq_some_iff]
  simp

private theorem isSome_findTable_go_iff (tables : List Table) (id : String) (start : Nat) :
    (findTable?.go id start tables).isSome ↔ id ∈ tables.map (·.id) := by
  induction tables generalizing start with
  | nil => simp [findTable?.go]
  | cons u rest ih =>
    unfold findTable?.go
    split
    · next hu => simp [hu]
    · next hu =>
      rw [ih, List.map_cons, List.mem_cons]
      exact ⟨Or.inr, fun h => h.resolve_left fun he => hu he.symm⟩

theorem isSome_findTable_iff (tables : List Table) (id : String) :
    (findTable? tables id).isSome ↔ id ∈ tables.map (·.id) :=
  isSome_findTable_go_iff tables id 0

/-- Every table on the canvas can be planned, under its identifier. -/
theorem exists_planned {tables : List Table} {id : String} (h : id ∈ tables.map (·.id)) :
    ∃ p, planned? tables id = some p ∧ p.id = id := by
  obtain ⟨⟨n, t⟩, ht⟩ := Option.isSome_iff_exists.1 ((isSome_findTable_iff tables id).2 h)
  refine ⟨_, by rw [planned?, ht]; rfl, ?_⟩
  exact (findTable_eq_some_iff.1 ht).2.1

/-- A table is planned under its own identifier and its alias. -/
theorem aliasOf_of_planned {tables : List Table} {id : String} {p : PlannedTable} (h : planned? tables id = some p) :
    p.id = id ∧ aliasOf? tables id = some p.shortName := by
  obtain ⟨⟨place, t⟩, ht, rfl⟩ := Option.map_eq_some_iff.1 h
  exact ⟨(findTable_eq_some_iff.1 ht).2.1, by rw [aliasOf?, ht]; rfl⟩

/-- A join along an edge brings in the table it leads to, and equates columns of its two ends. -/
theorem exists_of_joinAlong {tables : List Table} {e : Edge} {target : String} {j : PlannedJoin}
    (h : joinAlong? tables e target = some j) : ∃ t s o, planned? tables target = some t ∧
      planned? tables e.fromTable = some s ∧ planned? tables e.toTable = some o ∧
      j = ⟨some e.id, .along e.joinType, t, onConditions e s.shortName o.shortName⟩ := by
  obtain ⟨t, ht, s, hs, o, ho, rfl⟩ := by simpa [joinAlong?, Option.bind_eq_some_iff] using h
  exact ⟨t, s, o, ht, hs, ho, rfl⟩

/-- Different places have different aliases. -/
theorem tableAlias_inj {m n : Nat} : tableAlias m = tableAlias n ↔ m = n := by
  refine ⟨fun h => ?_, fun h => h ▸ rfl⟩
  have hd : Nat.toDigits 10 (m + 1) = Nat.toDigits 10 (n + 1) := by
    simpa [tableAlias, String.ofList_inj] using h
  have := congrArg (Nat.ofDigitChars 10 · 0) hd
  simpa [Nat.ofDigitChars_ten_toDigits] using this

end JoinCanvas
