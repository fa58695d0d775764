import JoinCanvas.Proofs.Sql.Skeleton
import JoinCanvas.Statement.Grammar

/-!
# Parsers on written tokens

What the parsers of single tokens, names and lists do in front of tokens of which only the kind of the next one is
known.

* `bind_eq`: one parser after another.
* `Next`: what is known of the next token; `Next.keyword`, `Next.sign`: it is not taken for another one.
* `path_qualified`: the full name of a table is read as its parts.
* `list_parts`: parts with commas between them are read as a list.
-/

namespace JoinCanvas.Statement

open JoinCanvas.Text

variable {α β : Type} {ts rest : List Token}

namespace Parser

theorem bind_eq {p : Parser α} {f : α → Parser β} {a : α} (h : p ts = some (a, rest)) : (p >>= f) ts = f a rest := by
  simp [bind, StateT.bind, h]

theorem bind_eq_none {p : Parser α} {f : α → Parser β} (h : p ts = none) : (p >>= f) ts = none := by
  simp [bind, StateT.bind, h]

theorem bind_eq_some_iff {p : Parser α} {f : α → Parser β} {b : β} :
    (p >>= f) ts = some (b, rest) ↔ ∃ a us, p ts = some (a, us) ∧ f a us = some (b, rest) := by
  simp [bind, StateT.bind, Option.bind_eq_some_iff]

theorem pure_apply (a : α) : (pure a : Parser α) ts = some (a, ts) := rfl

theorem size_apply (ts : List Token) : size ts = some (ts.length, ts) := rfl

theorem peekKeyword_cons (t : Token) (ts : List Token) :
    peekKeyword (t :: ts) = some (keywordOf (some t), t :: ts) := rfl

theorem isKeyword_of_ne {k : String} {t : Token} (h : keywordOf (some t) ≠ k) : isKeyword k t = false := by
  unfold isKeyword
  split
  · simpa [keywordOf] using h
  · rfl

theorem attempt_none {p : Parser α} (h : p ts = none) : attempt p ts = some (none, ts) := by
  simp [attempt, h]

theorem keyword_cons {k : String} {t : Token} (h : isKeyword k t = true) :
    keyword k (t :: rest) = some (true, rest) := by
  simp [keyword, h]

theorem keyword_miss {k : String} {t : Token} (h : isKeyword k t = false) :
    keyword k (t :: rest) = some (false, t :: rest) := by
  simp [keyword, h]

theorem keywords_miss {k : String} {ks : List String} {t : Token} (h : isKeyword k t = false) :
    keywords (k :: ks) (t :: rest) = some (false, t :: rest) := by
  simp [keywords, afterKeywords?, h]

theorem sign_cons {s : String} : sign s (.sign s :: rest) = some (true, rest) := by
  simp [sign, accept]

theorem expect_cons {s : String} : expect s (.sign s :: rest) = some ((), rest) := by
  rw [expect, bind_eq sign_cons]
  rfl

theorem expectKeyword_cons {k : String} {t : Token} (h : isKeyword k t = true) :
    expectKeyword k (t :: rest) = some ((), rest) := by
  rw [expectKeyword, bind_eq (keyword_cons h)]
  rfl

theorem oneOf_cons {k : String} {ks : List String} {t : Token} (ht : keywordOf (some t) = k) (hk : k ≠ "")
    (hks : k ∈ ks) : oneOf ks (t :: rest) = some (some k, rest) := by
  have hnext : next (t :: rest) = some (t, rest) := rfl
  rw [oneOf, bind_eq (peekKeyword_cons t rest), ht, if_pos ⟨hk, by simpa using hks⟩, bind_eq hnext]
  rfl

theorem keywords_cons₂ {k l : String} {t u : Token} (ht : isKeyword k t = true) (hu : isKeyword l u = true) :
    keywords [k, l] (t :: u :: rest) = some (true, rest) := by
  simp [keywords, afterKeywords?, ht, hu]

end Parser

/-- The next token, where there is one, satisfies `P`. -/
def Next (P : Token → Prop) (ts : List Token) : Prop :=
  ∀ t ∈ ts.head?, P t

namespace Next

variable {P : Token → Prop}

theorem nil : Next P [] := by
  simp [Next]

theorem cons {t : Token} (h : P t) : Next P (t :: rest) := by
  simpa [Next] using h

theorem append (hts : Next P ts) (hrest : Next P rest) : Next P (ts ++ rest) := by
  cases ts with
  | nil => exact hrest
  | cons t ts => simpa [Next] using hts

theorem mono {Q : Token → Prop} (h : Next P ts) (hPQ : ∀ t, P t → Q t) : Next Q ts :=
  fun t ht => hPQ t (h t ht)

theorem keyword {k : String} (h : Next P ts) (hk : ∀ t, P t → Parser.isKeyword k t = false) :
    Parser.keyword k ts = some (false, ts) := by
  cases ts with
  | nil => rfl
  | cons t ts => exact Parser.keyword_miss (hk t (h t rfl))

theorem keywords {k : String} {ks : List String} (h : Next P ts) (hk : ∀ t, P t → Parser.isKeyword k t = false) :
    Parser.keywords (k :: ks) ts = some (false, ts) := by
  cases ts with
  | nil => rfl
  | cons t ts => exact Parser.keywords_miss (hk t (h t rfl))

theorem sign {s : String} (h : Next P ts) (hs : ∀ t, P t → t ≠ .sign s) :
    Parser.sign s ts = some (false, ts) := by
  cases ts with
  | nil => rfl
  | cons t ts => simp [Parser.sign, Parser.accept, hs t (h t rfl)]

theorem oneOf {ks : List String} (h : Next P ts)
    (hk : ∀ t, P t → Parser.keywordOf (some t) = "" ∨ Parser.keywordOf (some t) ∉ ks) :
    Parser.oneOf ks ts = some (none, ts) := by
  have hmiss : ¬ (Parser.keywordOf ts.head? ≠ "" ∧ ks.contains (Parser.keywordOf ts.head?) = true) := by
    cases ts with
    | nil => simp [Parser.keywordOf]
    | cons t ts =>
      rintro ⟨hne, hmem⟩
      rcases hk t (h t rfl) with he | he
      · exact hne he
      · exact he (by simpa using hmem)
  have hpeek : Parser.peekKeyword ts = some (Parser.keywordOf ts.head?, ts) := rfl
  rw [Parser.oneOf, Parser.bind_eq hpeek, if_neg hmiss]
  rfl

end Next

/-- Parts with a mark between each two of them: the first one, and the others behind the mark. -/
theorem intercalate_cons (mark ts : List Token) (parts : List (List Token)) :
    List.intercalate mark (ts :: parts) = ts ++ parts.flatMap (mark ++ ·) := by
  induction parts generalizing ts with
  | nil => simp
  | cons us parts ih => rw [List.intercalate_cons_cons, ih, List.flatMap_cons, List.append_assoc, List.append_assoc]

/-- Each part is read as its member in front of a token that satisfies `P`. -/
def ReadsParts (P : Token → Prop) (p : Parser α) (parts : List (List Token × α)) : Prop :=
  ∀ x ∈ parts, ∀ rest, Next P rest → p (x.1 ++ rest) = some (x.2, rest)

section Lists

variable {P : Token → Prop} {p : Parser α}

private theorem more_parts (hcomma : P (.sign ",")) {parts : List (List Token × α)} (hparts : ReadsParts P p parts)
    {n : Nat} (hn : parts.length ≤ n) (hrest : Next P rest) (hend : Next (· ≠ .sign ",") rest) :
    Parser.more p n ((parts.map (·.1)).flatMap ([.sign ","] ++ ·) ++ rest) = some (parts.map (·.2), rest) := by
  induction parts generalizing n with
  | nil =>
    cases n with
    | zero => rfl
    | succ n =>
      rw [List.map_nil, List.flatMap_nil, List.nil_append, Parser.more, Parser.bind_eq (hend.sign fun _ ht => ht)]
      rfl
  | cons x parts ih =>
    cases n with
    | zero => simp at hn
    | succ n =>
      have hlater := ih (fun y hy => hparts y (List.mem_cons_of_mem _ hy)) (by simpa using hn)
      have hnext : Next P ((parts.map (·.1)).flatMap ([.sign ","] ++ ·) ++ rest) := by
        cases parts with
        | nil => exact hrest
        | cons y parts => exact Next.cons hcomma
      have hpart := hparts x (List.mem_cons_self ..) _ hnext
      rw [List.map_cons, List.flatMap_cons, List.append_assoc, List.append_assoc, List.singleton_append, Parser.more,
        Parser.bind_eq Parser.sign_cons, if_pos rfl, Parser.bind_eq hpart, Parser.bind_eq hlater]
      rfl

/-- Parts that are not empty are no more than their tokens. -/
theorem length_le_flatMap {γ : Type} {f : γ → List Token} {l : List γ} (h : ∀ x ∈ l, f x ≠ []) (rest : List Token) :
    l.length ≤ (l.flatMap f ++ rest).length := by
  induction l with
  | nil => simp
  | cons x l ih =>
    have hx := List.length_pos_iff.2 (h x (List.mem_cons_self ..))
    have hl := ih fun y hy => h y (List.mem_cons_of_mem _ hy)
    simp only [List.flatMap_cons, List.length_append, List.length_cons] at hl ⊢
    omega

/-- Parts with commas between them are read as a list. -/
theorem list_parts (hcomma : P (.sign ",")) {parts : List (List Token × α)} (hne : parts ≠ [])
    (hparts : ReadsParts P p parts) (hrest : Next P rest) (hend : Next (· ≠ .sign ",") rest) :
    Parser.list p (Skeleton.listed (parts.map (·.1)) ++ rest) = some (parts.map (·.2), rest) := by
  cases parts with
  | nil => exact absurd rfl hne
  | cons x parts =>
    have hlater : ReadsParts P p parts := fun y hy => hparts y (List.mem_cons_of_mem _ hy)
    have hnext : Next P ((parts.map (·.1)).flatMap ([.sign ","] ++ ·) ++ rest) := by
      cases parts with
      | nil => exact hrest
      | cons y parts => exact Next.cons hcomma
    have hlen := length_le_flatMap (l := parts.map (·.1)) (f := ([.sign ","] ++ ·)) (by simp) rest
    rw [List.length_map] at hlen
    rw [Skeleton.listed, List.map_cons, intercalate_cons, List.append_assoc, Parser.list,
      Parser.bind_eq (hparts x (List.mem_cons_self ..) _ hnext), Parser.bind_eq (Parser.size_apply _),
      Parser.bind_eq (more_parts hcomma hlater hlen hrest hend)]
    rfl

/-- A list of one part, where no comma follows it. -/
theorem list_one {a : α} (hp : p ts = some (a, rest)) (hend : Next (· ≠ .sign ",") rest) :
    Parser.list p ts = some ([a], rest) := by
  have hmore : ∀ n, Parser.more p n rest = some ([], rest) := by
    intro n
    cases n with
    | zero => rfl
    | succ n =>
      rw [Parser.more, Parser.bind_eq (hend.sign fun _ ht => ht)]
      rfl
  rw [Parser.list, Parser.bind_eq hp, Parser.bind_eq (Parser.size_apply _), Parser.bind_eq (hmore _)]
  rfl

end Lists

end JoinCanvas.Statement

namespace JoinCanvas.Skeleton

open JoinCanvas.Statement JoinCanvas.Text

variable {rest : List Token}

/-! ### Aliases and names -/

private theorem toUpper_of_isDigit {c : Char} (h : c.isDigit = true) : c.toUpper = c := by
  have hlt : ¬ 'a'.val ≤ c.val := by
    simp only [Char.isDigit, Bool.and_eq_true, decide_eq_true_eq, ge_iff_le] at h
    intro ha
    have := UInt32.le_iff_toNat_le.1 (Std.le_trans ha h.2)
    revert this
    decide
  unfold Char.toUpper
  rw [dif_neg fun h => hlt h.1]

/-- No keyword has a digit behind its first letter, as aliases do. -/
theorem uppered_tableAlias_ne {k : String} (hk : ∀ c ∈ k.toList[1]?, c.isDigit = false) (place : Nat) :
    uppered (tableAlias place) ≠ k := by
  rintro rfl
  obtain ⟨hne, hall⟩ := isDigits_toDigits (place + 1)
  cases hds : Nat.toDigits 10 (place + 1) with
  | nil => exact hne hds
  | cons d ds =>
    have hd : d.isDigit = true := hall d (by simp [hds])
    have := hk d.toUpper (by simp [uppered, tableAlias, hds])
    rw [toUpper_of_isDigit hd, hd] at this
    exact Bool.noConfusion this

theorem isKeyword_tableAlias {k : String} (hk : ∀ c ∈ k.toList[1]?, c.isDigit = false) (place : Nat) :
    Parser.isKeyword k (word (tableAlias place)) = false := by
  simpa [word, Parser.isKeyword] using uppered_tableAlias_ne hk place

/-- The parts of a full name. -/
def pathOf (schema? : Option String) (table : String) : List Ident :=
  if allBlank table then [⟨Sql.unnamedTable, none⟩]
  else (Sql.schemaSegments schema? ++ [table]).map fun s => ⟨s, some '\x60'⟩

private theorem morePath_names (names : List String) {n : Nat} (hn : names.length ≤ n)
    (h : Next (· ≠ .sign ".") rest) :
    Parser.morePath n ((names.map fun s => [name s]).flatMap ([.sign "."] ++ ·) ++ rest) =
      some (names.map fun s => ⟨s, some '\x60'⟩, rest) := by
  induction names generalizing n with
  | nil =>
    cases n with
    | zero => rfl
    | succ n =>
      rw [List.map_nil, List.flatMap_nil, List.nil_append, Parser.morePath, Parser.bind_eq (h.sign fun _ ht => ht)]
      rfl
  | cons s names ih =>
    cases n with
    | zero => simp at hn
    | succ n =>
      have hident : ∀ us, Parser.ident (name s :: us) = some (⟨s, some '\x60'⟩, us) := fun _ => rfl
      rw [List.map_cons, List.flatMap_cons, List.append_assoc, List.append_assoc, List.singleton_append,
        List.singleton_append, Parser.morePath, Parser.bind_eq Parser.sign_cons, if_pos rfl,
        Parser.bind_eq (hident _), Parser.bind_eq (ih (by simpa using hn))]
      rfl

/-- The full name of a table is read as its parts. -/
theorem path_qualified (schema? : Option String) (table : String) (h : Next (· ≠ .sign ".") rest) :
    Parser.path (qualified schema? table ++ rest) = some (pathOf schema? table, rest) := by
  unfold qualified pathOf
  split
  · have hident : Parser.ident (word Sql.unnamedTable :: rest) = some (⟨Sql.unnamedTable, none⟩, rest) := rfl
    have hmore := morePath_names [] (Nat.zero_le rest.length) h
    rw [List.singleton_append, Parser.path, Parser.bind_eq hident, Parser.bind_eq (Parser.size_apply _)]
    rw [List.map_nil, List.flatMap_nil, List.nil_append] at hmore
    rw [Parser.bind_eq hmore]
    rfl
  · cases hparts : Sql.schemaSegments schema? ++ [table] with
    | nil => simp at hparts
    | cons s names =>
      have hident : ∀ us, Parser.ident (name s :: us) = some (⟨s, some '\x60'⟩, us) := fun _ => rfl
      have hlen := length_le_flatMap (l := names.map fun s => [name s]) (f := ([.sign "."] ++ ·)) (by simp) rest
      rw [List.length_map] at hlen
      rw [List.map_cons, intercalate_cons, List.append_assoc, List.singleton_append, Parser.path,
        Parser.bind_eq (hident _), Parser.bind_eq (Parser.size_apply _), Parser.bind_eq (morePath_names names hlen h)]
      rfl

end JoinCanvas.Skeleton
