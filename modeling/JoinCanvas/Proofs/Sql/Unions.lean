import JoinCanvas.Sql.Query

/-!
# Unions that are read in one way only

A query that counts is written so that its end can be told from its text: names and strings stand between quotes, and
what stands between them is fixed.  So the text of a union of such queries is that of no other one, and what a warehouse
answers to a text can be said in terms of the queries that it is put together of.

* `SelfDelimiting.list`: members that end by themselves, with a separator between them.
* `selfDelimiting_expr`, `selfDelimiting_item`, `selfDelimiting_query`: the parts of a query that counts.
* `unionText_inj`: the queries of a union are known from its text.
-/

namespace JoinCanvas.Sql

open JoinCanvas.Text

/-! ### Texts that end by themselves -/

/-- The texts of certain things end by themselves: the thing and what follows it are known from both together, as long
as what follows starts in a certain way. -/
def SelfDelimiting {α : Type} (Has : α → Prop) (text : α → String) (Follows : List Char → Prop) : Prop :=
  ∀ ⦃a b : α⦄ ⦃r r' : List Char⦄, Has a → Has b → Follows r → Follows r' →
    (text a).toList ++ r = (text b).toList ++ r' → a = b ∧ r = r'

/-- What follows does not go on with a quote. -/
def Unquoted (quote : Char) (rest : List Char) : Prop :=
  rest.head? ≠ some quote

theorem selfDelimiting_quotedWith (quote : Char) :
    SelfDelimiting (fun _ => True) (quotedWith quote) (Unquoted quote) := by
  intro a b r r' _ _ hr hr' h
  have hread (s : String) {rest : List Char} (hrest : Unquoted quote rest) :
      unquoted? quote ((quotedWith quote s).toList ++ rest).tail = some (s.toList, rest) := by
    have hread := unquoted_quoted quote s.toList rest hrest
    simpa [quotedWith] using hread
  have hsame := (hread a hr).symm.trans (h ▸ hread b hr')
  obtain ⟨hab, hrest⟩ := Prod.mk.inj (Option.some.inj hsame)
  exact ⟨String.toList_inj.1 hab, hrest⟩

theorem SelfDelimiting.mono {α : Type} {Has Has' : α → Prop} {text : α → String} {Follows Follows' : List Char → Prop}
    (h : SelfDelimiting Has text Follows) (hhas : ∀ a, Has' a → Has a) (hfollows : ∀ r, Follows' r → Follows r) :
    SelfDelimiting Has' text Follows' :=
  fun a b r r' ha hb hr hr' => h (hhas a ha) (hhas b hb) (hfollows r hr) (hfollows r' hr')

/-- A list is written as its first member and, when it goes on, the separator and the others. -/
theorem joined_cons_append (separator s : String) (ss : List String) (r : List Char) :
    (joined separator (s :: ss)).toList ++ r =
      s.toList ++ if ss = [] then r else separator.toList ++ ((joined separator ss).toList ++ r) := by
  cases ss with
  | nil => rfl
  | cons t ss => simp [joined_cons_cons]

/-- A list of texts that end by themselves does so, where the first character of the separator tells that it goes on. -/
theorem SelfDelimiting.list {α : Type} {Has : α → Prop} {text : α → String} {Follows : List Char → Prop}
    (h : SelfDelimiting Has text Follows) (separator : String) (c : Char) (hc : separator.toList.head? = some c)
    (hseparator : ∀ r, Follows (separator.toList ++ r)) :
    SelfDelimiting (fun l : List α => l ≠ [] ∧ ∀ a ∈ l, Has a) (fun l => joined separator (l.map text))
      (fun r => Follows r ∧ r.head? ≠ some c) := by
  have hstart (r : List Char) : (separator.toList ++ r).head? = some c := by
    rw [List.head?_append, hc]
    rfl
  intro l
  induction l with
  | nil => exact fun _ _ _ hl => absurd rfl hl.1
  | cons a l ih =>
    rintro (- | ⟨b, l'⟩) r r' hl hl' hr hr' htext
    · exact absurd rfl hl'.1
    have ha := hl.2 a List.mem_cons_self
    have hb := hl'.2 b List.mem_cons_self
    simp only [List.map_cons, joined_cons_append, List.map_eq_nil_iff] at htext
    -- both lists end here or both go on, for the separator cannot start what follows the list
    by_cases hend : l = [] <;> by_cases hend' : l' = [] <;> simp only [hend, hend', if_true, if_false] at htext
    · obtain ⟨rfl, rfl⟩ := h ha hb hr.1 hr'.1 htext
      exact ⟨by rw [hend, hend'], rfl⟩
    · obtain ⟨-, rfl⟩ := h ha hb hr.1 (hseparator _) htext
      exact absurd (hstart _) hr.2
    · obtain ⟨-, rfl⟩ := h ha hb (hseparator _) hr'.1 htext
      exact absurd (hstart _) hr'.2
    · obtain ⟨rfl, hrest⟩ := h ha hb (hseparator _) (hseparator _) htext
      obtain ⟨rfl, rfl⟩ := ih ⟨hend, fun x hx => hl.2 x (List.mem_cons_of_mem _ hx)⟩
        ⟨hend', fun x hx => hl'.2 x (List.mem_cons_of_mem _ hx)⟩ hr hr' (List.append_cancel_left hrest)
      exact ⟨rfl, rfl⟩

/-! ### Queries that count -/

/-- An expression that has one value over all rows of a table: a string, the number of rows, or the number of different
keys. -/
inductive Expr.IsCount : Expr → Prop
  | label (s : String) : IsCount (.literal (.string s))
  | rows : IsCount (.aggregate .count .wildcard)
  | keys {columns : List String} (h : columns ≠ []) : IsCount (.countDistinct (columns.map (.column none)))

/-- A table by its names, the last of which is its own. -/
def fullName (names : List String) : String :=
  joined "." (names.map quotedName)

/-- A query that selects such values of one table, each under a name. -/
inductive Query.IsTally : Query → Prop
  | of {names : List String} (hnames : names ≠ []) {items : List Item} (hne : items ≠ [])
    (hitems : ∀ i ∈ items, i.expr.IsCount ∧ i.alias?.isSome) : IsTally { items, source := ⟨fullName names, none⟩ }

theorem text_keys (columns : List String) : (Expr.countDistinct (columns.map (.column none))).text =
    "COUNT(DISTINCT " ++ joined ", " (columns.map quotedName) ++ ")" := by
  rw [Expr.text, exprTexts_eq_map, List.map_map]
  rfl

theorem selfDelimiting_names : SelfDelimiting (fun l : List String => l ≠ [])
    (fun l => joined ", " (l.map quotedName)) (fun r => r.head? = some ')') :=
  ((selfDelimiting_quotedWith '\x60').list ", " ',' rfl fun r => by simp [Unquoted]).mono
    (fun _ h => ⟨h, fun _ _ => trivial⟩) fun r hr => by simp [Unquoted, hr]

/-- A value that is counted ends by itself before a blank. -/
theorem selfDelimiting_expr : SelfDelimiting Expr.IsCount Expr.text (fun r => r.head? = some ' ') := by
  intro a b r r' ha hb hr hr' h
  have hstring (s : String) : (Expr.text (.literal (.string s))).toList = (quotedString s).toList := rfl
  have hrows : (Expr.text (.aggregate .count .wildcard)).toList = "COUNT(*)".toList := rfl
  cases ha with
  | label s =>
    cases hb with
    | label s' =>
      have hquoted := selfDelimiting_quotedWith '\x27' trivial trivial (by simp [Unquoted, hr])
        (by simp [Unquoted, hr']) h
      exact ⟨congrArg (fun s => Expr.literal (.string s)) hquoted.1, hquoted.2⟩
    | rows => simp [hstring, hrows, quotedString, quotedWith] at h
    | keys hcolumns => simp [hstring, text_keys, quotedString, quotedWith] at h
  | rows =>
    cases hb with
    | label s' => simp [hstring, hrows, quotedString, quotedWith] at h
    | rows => exact ⟨rfl, List.append_cancel_left h⟩
    | keys hcolumns => simp [hrows, text_keys] at h
  | keys hcolumns =>
    cases hb with
    | label s' => simp [hstring, text_keys, quotedString, quotedWith] at h
    | rows => simp [hrows, text_keys] at h
    | keys hcolumns' =>
      simp only [text_keys, String.toList_append, List.append_assoc] at h
      obtain ⟨rfl, hrest⟩ := selfDelimiting_names hcolumns hcolumns' rfl rfl (List.append_cancel_left h)
      exact ⟨rfl, List.append_cancel_left hrest⟩

/-- A value under a name ends by itself. -/
theorem selfDelimiting_item : SelfDelimiting (fun i : Item => i.expr.IsCount ∧ i.alias?.isSome) Item.text
    (Unquoted '\x60') := by
  rintro ⟨e, alias?⟩ ⟨e', alias?'⟩ r r' ⟨he, hname⟩ ⟨he', hname'⟩ hr hr' h
  obtain ⟨name, rfl⟩ := Option.isSome_iff_exists.1 hname
  obtain ⟨name', rfl⟩ := Option.isSome_iff_exists.1 hname'
  simp only [Item.text, String.toList_append, List.append_assoc] at h
  obtain ⟨rfl, hrest⟩ := selfDelimiting_expr he he' rfl rfl h
  obtain ⟨rfl, rfl⟩ := selfDelimiting_quotedWith '\x60' trivial trivial hr hr' (List.append_cancel_left hrest)
  exact ⟨rfl, rfl⟩

theorem selfDelimiting_items : SelfDelimiting
    (fun l : List Item => l ≠ [] ∧ ∀ i ∈ l, i.expr.IsCount ∧ i.alias?.isSome)
    (fun l => joined ", " (l.map Item.text)) (fun r => r.head? = some ' ') :=
  (selfDelimiting_item.list ", " ',' rfl fun r => by simp [Unquoted]).mono (fun _ h => h)
    fun r hr => by simp [Unquoted, hr]

theorem selfDelimiting_fullName : SelfDelimiting (fun l : List String => l ≠ []) fullName
    (fun r => Unquoted '\x60' r ∧ r.head? ≠ some '.') :=
  ((selfDelimiting_quotedWith '\x60').list "." '.' rfl fun r => by simp [Unquoted]).mono
    (fun _ h => ⟨h, fun _ _ => trivial⟩) fun _ h => h

/-- A query that counts ends by itself. -/
theorem selfDelimiting_query : SelfDelimiting Query.IsTally Query.text
    (fun r => Unquoted '\x60' r ∧ r.head? ≠ some '.') := by
  have htext (table : String) {items : List Item} (hne : items ≠ []) :
      Query.text { items, source := ⟨table, none⟩ } =
        "SELECT " ++ joined ", " (items.map Item.text) ++ " FROM " ++ table := by
    simp [Query.text, Query.itemsText, hne, Source.text, Query.joinsText, Query.filtersText, Query.groupText]
  rintro _ _ r r' ⟨hnames, hne, hitems⟩ ⟨hnames', hne', hitems'⟩ hr hr' h
  simp only [htext _ hne, htext _ hne', String.toList_append, List.append_assoc] at h
  obtain ⟨rfl, hrest⟩ := selfDelimiting_items ⟨hne, hitems⟩ ⟨hne', hitems'⟩ rfl rfl (List.append_cancel_left h)
  obtain ⟨rfl, rfl⟩ := selfDelimiting_fullName hnames hnames' hr hr' (List.append_cancel_left hrest)
  exact ⟨rfl, rfl⟩

/-- The queries of a union that counts are known from its text. -/
theorem unionText_inj {queries queries' : List Query} (hne : queries ≠ []) (hne' : queries' ≠ [])
    (h : ∀ q ∈ queries, q.IsTally) (h' : ∀ q ∈ queries', q.IsTally) (htext : unionText queries = unionText queries') :
    queries = queries' := by
  have hunion := selfDelimiting_query.list " UNION ALL " ' ' rfl fun r => by simp [Unquoted]
  have hends : (Unquoted '\x60' [] ∧ ([] : List Char).head? ≠ some '.') ∧ ([] : List Char).head? ≠ some ' ' :=
    ⟨⟨nofun, nofun⟩, nofun⟩
  refine (hunion ⟨hne, h⟩ ⟨hne', h'⟩ hends hends ?_).1
  rw [List.append_nil, List.append_nil]
  exact congrArg String.toList htext

end JoinCanvas.Sql
