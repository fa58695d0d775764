import JoinCanvas.Json.Reader
import JoinCanvas.Json.Text
import Mathlib.Data.List.Basic

/-!
# Reading JSON text back

The text of a value without numbers is read as the value, whatever characters its strings and keys hold.

* `readString_quoted`: escaping is undone.
* `read_text`: the text of a value without numbers is read as that value.
-/

namespace JoinCanvas.Json

/-! ### Strings -/

private theorem hexValue_hexDigit {n : Nat} (h : n < 16) : hexValue? (hexDigit n) = some n := by
  revert n
  decide

private theorem eq_ofNat {c : Char} {n : Nat} (h : c.toNat = n) : Char.ofNat n = c := by
  rw [← h, Char.ofNat_toNat]

/-- A letter behind a backslash is read as the character it stands for. -/
private theorem readPieces_plain {e c : Char} (he : plainEscape? e = some c) (cs : List Char) :
    readPieces? ('\\' :: e :: cs) = (readPieces? cs).map fun (ps, rest) => (.char c :: ps, rest) := by
  have hu : e ≠ 'u' := by
    rintro rfl
    simp [plainEscape?] at he
  -- the patterns are tried in order; that of a code unit comes first and does not match
  rw [readPieces?.eq_def]
  split
  · simp_all
  · simp_all
  · simp_all
  · next h =>
    simp only [List.cons.injEq, true_and] at h
    obtain ⟨rfl, rfl⟩ := h
    rw [he]
    cases readPieces? cs <;> rfl
  · next hno h =>
    simp only [List.cons.injEq] at h
    obtain ⟨rfl, rfl⟩ := h
    exact absurd rfl (hno e cs rfl)

private theorem readPieces_unit {a b c d : Char} {n : Nat} (h : hexUnit? a b c d = some n) (cs : List Char) :
    readPieces? ('\\' :: 'u' :: a :: b :: c :: d :: cs) =
      (readPieces? cs).map fun (ps, rest) => (pieceOfUnit n :: ps, rest) := by
  rw [readPieces?.eq_def]
  simp only [h]
  cases readPieces? cs <;> rfl

private theorem readPieces_self {c : Char} (hquote : c ≠ '"') (hslash : c ≠ '\\') (hc : ¬ c.toNat < 32)
    (cs : List Char) : readPieces? (c :: cs) = (readPieces? cs).map fun (ps, rest) => (.char c :: ps, rest) := by
  rw [readPieces?.eq_def]
  split
  · simp_all
  · simp_all
  · simp_all
  · simp_all
  · next h =>
    simp only [List.cons.injEq] at h
    obtain ⟨rfl, rfl⟩ := h
    rw [if_neg (by simp [hc, hslash])]
    cases readPieces? cs <;> rfl

/-- An escaped character is read as the character. -/
theorem readPieces_escapeChar (c : Char) (cs : List Char) :
    readPieces? (escapeChar c ++ cs) = (readPieces? cs).map fun (ps, rest) => (.char c :: ps, rest) := by
  have hplain : ∀ {e d : Char}, plainEscape? e = some d → d = c →
      readPieces? (['\\', e] ++ cs) = (readPieces? cs).map fun (ps, rest) => (.char c :: ps, rest) := by
    rintro e d he rfl
    exact readPieces_plain he cs
  unfold escapeChar
  split
  · next h => exact hplain rfl h.symm
  split
  · next h => exact hplain rfl h.symm
  split
  · next h => exact hplain rfl (eq_ofNat h)
  split
  · next h => exact hplain rfl (eq_ofNat h)
  split
  · next h => exact hplain rfl (eq_ofNat h)
  split
  · next h => exact hplain rfl (eq_ofNat h)
  split
  · next h => exact hplain rfl (eq_ofNat h)
  split
  · next h =>
    have hunit : hexUnit? '0' '0' (hexDigit (c.toNat / 16)) (hexDigit (c.toNat % 16)) = some c.toNat := by
      simp only [hexUnit?, hexValue_hexDigit (Nat.mod_lt c.toNat (by decide : 0 < 16)),
        hexValue_hexDigit (by omega : c.toNat / 16 < 16)]
      have hzero : hexValue? '0' = some 0 := by decide
      simp [hzero]
      omega
    have hpiece : pieceOfUnit c.toNat = .char c := by
      rw [pieceOfUnit, if_neg (by omega), Char.ofNat_toNat]
    rw [← hpiece]
    exact readPieces_unit hunit cs
  · next hquote hslash _ _ _ _ _ hc => exact readPieces_self hquote hslash hc cs

private theorem charsOfPieces_chars (cs : List Char) : charsOfPieces? (cs.map .char) = some cs := by
  induction cs with
  | nil => rfl
  | cons c cs ih => simp [charsOfPieces?, ih]

/-- A quoted string is read up to its closing quote. -/
theorem readString_quoted (s : String) (rest : List Char) :
    readString? (s.toList.flatMap escapeChar ++ '"' :: rest) = some (some s, rest) := by
  have hpieces : ∀ cs : List Char,
      readPieces? (cs.flatMap escapeChar ++ '"' :: rest) = some (cs.map .char, rest) := by
    intro cs
    induction cs with
    | nil => rfl
    | cons c cs ih =>
      rw [List.flatMap_cons, List.append_assoc, readPieces_escapeChar, ih]
      rfl
  simp [readString?, hpieces, charsOfPieces_chars]

/-! ### Values -/

namespace Value

mutual

/-- Whether a value holds no number. -/
def isNumberless : Value → Bool
  | .number _ => false
  | .array items => areNumberless items
  | .object members => haveNumberless members
  | _ => true

/-- Whether items hold no number. -/
def areNumberless : List Value → Bool
  | [] => true
  | v :: rest => v.isNumberless && areNumberless rest

/-- Whether members hold no number. -/
def haveNumberless : Members → Bool
  | [] => true
  | (_, v) :: rest => v.isNumberless && haveNumberless rest

end

/-- The text of a value starts with a mark of its kind. -/
theorem head_text {v : Value} (hv : v.isNumberless = true) :
    ∃ c cs, v.text.toList = c :: cs ∧ c ∈ ['n', 't', 'f', '"', '[', '\x7b'] := by
  cases v with
  | null => exact ⟨'n', _, rfl, by decide⟩
  | bool b => cases b <;> exact ⟨_, _, rfl, by decide⟩
  | number n => simp [isNumberless] at hv
  | string s => exact ⟨'"', s.toList.flatMap escapeChar ++ ['"'], by simp [text, quoted], by decide⟩
  | array items => exact ⟨'[', (itemsText items).toList ++ [']'], by simp [text], by decide⟩
  | object members => exact ⟨'\x7b', (membersText members).toList ++ ['\x7d'], by simp [text], by decide⟩

theorem head_itemsText {v : Value} (items : List Value) (hv : v.isNumberless = true) :
    ∃ c cs, (itemsText (v :: items)).toList = c :: cs ∧ c ∈ ['n', 't', 'f', '"', '[', '\x7b'] := by
  obtain ⟨c, cs, hcs, hc⟩ := head_text hv
  cases items with
  | nil => exact ⟨c, cs, by rw [itemsText, hcs], hc⟩
  | cons w items => exact ⟨c, cs ++ ',' :: (itemsText (w :: items)).toList, by simp [itemsText, hcs], hc⟩

end Value

theorem skipSpace_of_not_space {c : Char} (hc : isSpace c = false) (cs : List Char) :
    skipSpace (c :: cs) = c :: cs := by
  simp [skipSpace, hc]

/-- In `n` steps the texts of values are read as the values. -/
def ReadsValues (n : Nat) : Prop :=
  ∀ (v : Value) (rest : List Char), v.isNumberless = true → v.text.toList.length ≤ n →
    readValue? n (v.text.toList ++ rest) = some (v.toDocument, rest)

/-- In `n` steps the texts of items are read up to the closing bracket. -/
def ReadsItems (n : Nat) : Prop :=
  ∀ (v : Value) (items : List Value) (rest : List Char), Value.areNumberless (v :: items) = true →
    (Value.itemsText (v :: items)).toList.length < n →
    readItems? n ((Value.itemsText (v :: items)).toList ++ ']' :: rest) =
      some (Value.itemDocuments (v :: items), rest)

/-- In `n` steps the texts of members are read up to the closing brace. -/
def ReadsMembers (n : Nat) : Prop :=
  ∀ (k : String) (v : Value) (members : Members) (rest : List Char),
    Value.haveNumberless ((k, v) :: members) = true →
    (Value.membersText ((k, v) :: members)).toList.length < n →
    readMembers? n ((Value.membersText ((k, v) :: members)).toList ++ '\x7d' :: rest) =
      some (Value.memberDocuments ((k, v) :: members), rest)

theorem ReadsItems.succ {n : Nat} (hvalues : ReadsValues n) (hitems : ReadsItems n) : ReadsItems (n + 1) := by
  intro v items rest hv hn
  have hnumberless := hv
  rw [Value.areNumberless, Bool.and_eq_true] at hv
  cases items with
  | nil =>
    have hread := hvalues v (']' :: rest) hv.1 (by simp [Value.itemsText] at hn; omega)
    simp [Value.itemsText, readItems?, hread, skipSpace_of_not_space, isSpace, Value.itemDocuments]
  | cons w items =>
    have htext : (Value.itemsText (v :: w :: items)).toList =
        v.text.toList ++ ',' :: (Value.itemsText (w :: items)).toList := by
      simp [Value.itemsText]
    rw [htext, List.length_append, List.length_cons] at hn
    have hread := hvalues v (',' :: ((Value.itemsText (w :: items)).toList ++ ']' :: rest)) hv.1 (by omega)
    have hrest := hitems w items rest hv.2 (by omega)
    rw [htext, List.append_assoc, List.cons_append]
    simp [readItems?, hread, hrest, skipSpace_of_not_space, isSpace, Value.itemDocuments]

theorem ReadsMembers.succ {n : Nat} (hvalues : ReadsValues n) (hmembers : ReadsMembers n) : ReadsMembers (n + 1) := by
  intro k v members rest hv hn
  rw [Value.haveNumberless, Bool.and_eq_true] at hv
  cases members with
  | nil =>
    have htext : (Value.membersText [(k, v)]).toList =
        '"' :: (k.toList.flatMap escapeChar ++ '"' :: ':' :: v.text.toList) := by
      simp [Value.membersText, quoted]
    rw [htext] at hn ⊢
    have hread := hvalues v ('\x7d' :: rest) hv.1 (by simp at hn; omega)
    have hkey := readString_quoted k (':' :: (v.text.toList ++ '\x7d' :: rest))
    simp [readMembers?, hkey, hread, skipSpace_of_not_space, isSpace, Value.memberDocuments]
  | cons m members =>
    obtain ⟨l, w⟩ := m
    have htext : (Value.membersText ((k, v) :: (l, w) :: members)).toList =
        '"' :: (k.toList.flatMap escapeChar ++ '"' :: ':' :: (v.text.toList ++
          ',' :: (Value.membersText ((l, w) :: members)).toList)) := by
      simp [Value.membersText, quoted]
    rw [htext] at hn ⊢
    have hlen : v.text.toList.length + (Value.membersText ((l, w) :: members)).toList.length + 4 ≤ n + 1 := by
      simp only [List.length_cons, List.length_append] at hn
      omega
    have hread := hvalues v (',' :: ((Value.membersText ((l, w) :: members)).toList ++ '\x7d' :: rest)) hv.1
      (by omega)
    have hkey := readString_quoted k
      (':' :: (v.text.toList ++ ',' :: ((Value.membersText ((l, w) :: members)).toList ++ '\x7d' :: rest)))
    have hrest := hmembers l w members rest hv.2 (by omega)
    simp [readMembers?, hkey, hread, hrest, skipSpace_of_not_space, isSpace, Value.memberDocuments]

theorem ReadsValues.succ {n : Nat} (hitems : ReadsItems n) (hmembers : ReadsMembers n) : ReadsValues (n + 1) := by
  intro v rest hv hn
  cases v with
  | null =>
    simp [Value.text, readValue?, skipSpace_of_not_space, isSpace, afterWord?, List.isPrefixOf?, Value.toDocument]
  | bool b =>
    cases b <;>
      simp [Value.text, readValue?, skipSpace_of_not_space, isSpace, afterWord?, List.isPrefixOf?, Value.toDocument]
  | number x => simp [Value.isNumberless] at hv
  | string s =>
    have hread := readString_quoted s rest
    simp [Value.text, quoted, readValue?, hread, skipSpace_of_not_space, isSpace, Value.toDocument]
  | array items =>
    have htext : (Value.array items).text.toList = '[' :: ((Value.itemsText items).toList ++ [']']) := by
      simp [Value.text]
    rw [htext] at hn ⊢
    simp only [List.length_cons, List.length_append, List.length_nil] at hn
    cases items with
    | nil =>
      simp [Value.itemsText, readValue?, skipSpace_of_not_space, isSpace, Value.toDocument, Value.itemDocuments]
    | cons w items =>
      have hread := hitems w items rest hv (by omega)
      obtain ⟨c, cs, hcs, hc⟩ := Value.head_itemsText items (Bool.and_eq_true _ _ ▸ hv : _ ∧ _).1
      -- no item starts with the closing bracket, so the array is not taken for an empty one
      have hmark : isSpace c = false ∧ c ≠ ']' := by
        simp only [List.mem_cons, List.not_mem_nil, or_false] at hc
        rcases hc with rfl | rfl | rfl | rfl | rfl | rfl <;> decide
      have hskip := skipSpace_of_not_space hmark.1 (cs ++ ']' :: rest)
      rw [hcs, List.cons_append] at hread
      simp only [hcs, readValue?, skipSpace_of_not_space (by decide : isSpace '[' = false), List.cons_append,
        List.append_assoc, List.nil_append, hskip]
      split
      · next h => exact absurd (List.cons.inj h).1 hmark.2
      · rw [hread]
        rfl
  | object members =>
    have htext : (Value.object members).text.toList = '\x7b' :: ((Value.membersText members).toList ++ ['\x7d']) := by
      simp [Value.text]
    rw [htext] at hn ⊢
    simp only [List.length_cons, List.length_append, List.length_nil] at hn
    cases members with
    | nil =>
      simp [Value.membersText, readValue?, skipSpace_of_not_space, isSpace, Value.toDocument, Value.memberDocuments]
    | cons m members =>
      obtain ⟨k, w⟩ := m
      have hread := hmembers k w members rest hv (by omega)
      obtain ⟨cs, hcs⟩ : ∃ cs, (Value.membersText ((k, w) :: members)).toList = '"' :: cs := by
        cases members <;> exact ⟨_, by simp [Value.membersText, quoted]; rfl⟩
      rw [hcs, List.cons_append] at hread
      simp [hcs, readValue?, hread, skipSpace_of_not_space, isSpace, Value.toDocument]

/-- The text of a value is read as the value, whatever follows it. -/
theorem reads_texts (n : Nat) : ReadsValues n ∧ ReadsItems n ∧ ReadsMembers n := by
  -- the readers call each other, each with a step less, so the three go through one induction
  induction n with
  | zero =>
    refine ⟨fun v rest hv hn => ?_, fun v items rest hv hn => ?_, fun k v members rest hv hn => ?_⟩
    · obtain ⟨c, cs, hcs, -⟩ := Value.head_text hv
      simp [hcs] at hn
    · exact absurd hn (Nat.not_lt_zero _)
    · exact absurd hn (Nat.not_lt_zero _)
  | succ n ih =>
    obtain ⟨hvalues, hitems, hmembers⟩ := ih
    exact ⟨.succ hitems hmembers, .succ hvalues hitems, .succ hvalues hmembers⟩

/-- The text of a value without numbers is read as that value. -/
theorem read_text {v : Value} (hv : v.isNumberless = true) : Document.read? v.text = some v.toDocument := by
  have hread := (reads_texts (v.text.toList.length + 1)).1 v [] hv (Nat.le_succ _)
  rw [List.append_nil] at hread
  simp [Document.read?, hread, skipSpace]

end JoinCanvas.Json
