import JoinCanvas.Config.Record
import Mathlib.Data.List.Nodup

/-!
# What a record gives

A record is looked at for one field at a time: an object gives the member of that name, and an array the item at its
place.  Null counts as nothing where a field may be missing.

* `settingFields_eq`: what is read of a record of settings, field by field.
* `ReadAs`: what is read of a document that may be missing.
-/

namespace JoinCanvas.Json.Document

/-- The member of an object with the name. -/
def member? (name : String) : Document → Option Document
  | .object members => (members.find? (·.1 = some name)).map (·.2)
  | _ => none

/-- What a record gives for one of its fields: the member of that name, or the item at its place. -/
def given? (names : List String) (name : String) : Document → Option Document
  | .array items => items[names.idxOf name]?
  | d => d.member? name

/-- A document that is no null. -/
def present? (d : Document) : Option Document :=
  (asOption? some d).join

/-- Of a document that may be missing, what is read of it may be missing, and nothing else. -/
def ReadAs {α : Type} (read : Document → Option α) (d? : Option Document) (x? : Option α) : Prop :=
  x?.map some = d?.map read

variable {α β : Type} {read : Document → Option α} {d? : Option Document} {x? : Option α}

theorem readAs_none : ReadAs read none none :=
  rfl

theorem ReadAs.cases (h : ReadAs read d? x?) :
    (d? = none ∧ x? = none) ∨ ∃ d x, d? = some d ∧ x? = some x ∧ read d = some x := by
  cases d? with
  | none =>
    cases x? with
    | none => exact Or.inl ⟨rfl, rfl⟩
    | some x => cases h
  | some d =>
    cases x? with
    | none => cases h
    | some x => exact Or.inr ⟨d, x, rfl, rfl, (Option.some.inj h).symm⟩

theorem ReadAs.bind {part : Document → Option Document} {readPart : Document → Option β} {f : α → Option β}
    (h : ReadAs read d? x?) (hpart : ∀ d x, read d = some x → ReadAs readPart (part d) (f x)) :
    ReadAs readPart (d?.bind part) (x?.bind f) := by
  rcases h.cases with ⟨rfl, rfl⟩ | ⟨d, x, rfl, rfl, hread⟩
  · exact readAs_none
  · exact hpart d x hread

/-- What is read of one document goes before what is read of another. -/
theorem ReadAs.or {default general : α} {general? : Option Document} (h : ReadAs read d? x?)
    (hgeneral : defaulting read default general? = some general) :
    defaulting read default (d?.or general?) = some (x?.getD general) := by
  rcases h.cases with ⟨rfl, rfl⟩ | ⟨d, x, rfl, rfl, hread⟩
  · exact hgeneral
  · exact hread

theorem readAs_present {d : Document} (h : asOption? read d = some x?) : ReadAs read d.present? x? := by
  unfold present? ReadAs
  unfold asOption? at h ⊢
  split at h
  · obtain rfl := Option.some.inj h
    rfl
  · split_ifs at h ⊢
    · obtain rfl := Option.some.inj h
      rfl
    · obtain ⟨x, hx, rfl⟩ := Option.map_eq_some_iff.1 h
      simp [hx]
  · obtain ⟨x, hx, rfl⟩ := Option.map_eq_some_iff.1 h
    simp [hx]

/-- Null counts as nothing. -/
theorem readAs_optional (h : defaulting (asOption? read) none d? = some x?) : ReadAs read (d?.bind present?) x? := by
  cases d? with
  | none =>
    obtain rfl := Option.some.inj h
    exact readAs_none
  | some d => exact readAs_present h

theorem givenFor_singleton (name : String) (members : List (Option String × Document)) :
    givenFor [name] members = (members.filter (·.1 = some name)).map (·.2) := by
  induction members with
  | nil => rfl
  | cons m members ih =>
    obtain ⟨key, d⟩ := m
    cases key with
    | none => simpa [givenFor] using ih
    | some k =>
      by_cases hk : k = name
      · subst hk
        simpa [givenFor] using ih
      · simpa [givenFor, hk] using ih

theorem single_eq {name : String} {members : List (Option String × Document)} {d? : Option Document}
    (h : single? [name] members = some d?) : d? = (Document.object members).member? name := by
  have hfirst : (givenFor [name] members).head? = (Document.object members).member? name := by
    rw [givenFor_singleton, List.head?_map, List.head?_filter]
    rfl
  rw [← hfirst]
  unfold single? at h
  split at h
  · next hgiven =>
    obtain rfl := Option.some.inj h
    rw [hgiven]
    rfl
  · next d hgiven =>
    obtain rfl := Option.some.inj h
    rw [hgiven]
    rfl
  · cases h

/-! ### Records of settings -/

private theorem mapM_single {names : List String} {members : List (Option String × Document)}
    {fields : List (Option Document)} (h : (names.map ([·])).mapM (single? · members) = some fields) :
    fields = names.map ((Document.object members).member? ·) := by
  induction names generalizing fields with
  | nil =>
    obtain rfl := Option.some.inj h
    rfl
  | cons name names ih =>
    rw [List.map_cons, List.mapM_cons] at h
    obtain ⟨d?, hd, h⟩ := Option.bind_eq_some_iff.1 h
    obtain ⟨rest, hrest, h⟩ := Option.bind_eq_some_iff.1 h
    obtain rfl := Option.some.inj h
    rw [List.map_cons, ← single_eq hd, ← ih hrest]

private theorem items_eq {names : List String} (hnodup : names.Nodup) (items : List Document) :
    (items.take names.length).map some ++ List.replicate (names.length - (items.take names.length).length) none =
      names.map (fun name => items[names.idxOf name]?) := by
  have hlength : (items.take names.length).length = min names.length items.length := List.length_take
  refine List.ext_getElem ?_ fun i hi hi' => ?_
  · rw [List.length_append, List.length_map, List.length_replicate, List.length_map]
    omega
  have hname : i < names.length := by rwa [List.length_map] at hi'
  rw [List.getElem_map, hnodup.idxOf_getElem i hname]
  by_cases hitem : i < items.length
  · have hfirst : i < ((items.take names.length).map some).length := by
      rw [List.length_map]
      omega
    rw [List.getElem_append_left hfirst, List.getElem_map, List.getElem_take, List.getElem?_eq_getElem hitem]
  · have hlast : ((items.take names.length).map some).length ≤ i := by
      rw [List.length_map]
      omega
    rw [List.getElem_append_right hlast, List.getElem_replicate, List.getElem?_eq_none (by omega)]

/-- A record gives each of its settings under its name, or at its place. -/
theorem settingFields_eq {names : List String} {d : Document} {fields : List (Option Document)}
    (hnodup : names.Nodup) (h : settingFields? names d = some fields) :
    fields = names.map (d.given? names ·) := by
  cases d with
  | object members =>
    simp only [settingFields?, fields?] at h
    split_ifs at h
    exact mapM_single h
  | array items =>
    simp only [settingFields?, fields?, List.length_map] at h
    split_ifs at h
    obtain rfl := Option.some.inj h
    exact items_eq hnodup items
  | plain s =>
    have hs : s = "" := by
      by_contra hs
      simp [settingFields?, fields?, hs] at h
    subst hs
    obtain rfl := Option.some.inj h
    rw [List.map_map]
    rfl
  | _ => cases h

/-- A record of two settings is read one by one. -/
theorem settingFields_two {α β γ : Type} {a b : String} {d : Document} {f : Option Document → Option α}
    {g : Option Document → Option β} {make : α → β → γ} {x : γ} (hnodup : [a, b].Nodup)
    (h : (do
      match ← settingFields? [a, b] d with
      | [p, q] => return make (← f p) (← g q)
      | _ => none) = some x) :
    ∃ u v, f (d.given? [a, b] a) = some u ∧ g (d.given? [a, b] b) = some v ∧ x = make u v := by
  obtain ⟨fields, hfields, h⟩ := Option.bind_eq_some_iff.1 h
  obtain rfl := settingFields_eq hnodup hfields
  obtain ⟨u, hu, h⟩ := Option.bind_eq_some_iff.1 h
  obtain ⟨v, hv, h⟩ := Option.bind_eq_some_iff.1 h
  exact ⟨u, v, hu, hv, (Option.some.inj h).symm⟩

/-- A record of three settings is read one by one. -/
theorem settingFields_three {α β γ δ : Type} {a b c : String} {d : Document} {f : Option Document → Option α}
    {g : Option Document → Option β} {k : Option Document → Option γ} {make : α → β → γ → δ} {x : δ}
    (hnodup : [a, b, c].Nodup)
    (h : (do
      match ← settingFields? [a, b, c] d with
      | [p, q, r] => return make (← f p) (← g q) (← k r)
      | _ => none) = some x) :
    ∃ u v w, f (d.given? [a, b, c] a) = some u ∧ g (d.given? [a, b, c] b) = some v ∧
      k (d.given? [a, b, c] c) = some w ∧ x = make u v w := by
  obtain ⟨fields, hfields, h⟩ := Option.bind_eq_some_iff.1 h
  obtain rfl := settingFields_eq hnodup hfields
  obtain ⟨u, hu, h⟩ := Option.bind_eq_some_iff.1 h
  obtain ⟨v, hv, h⟩ := Option.bind_eq_some_iff.1 h
  obtain ⟨w, hw, h⟩ := Option.bind_eq_some_iff.1 h
  exact ⟨u, v, w, hu, hv, hw, (Option.some.inj h).symm⟩

end JoinCanvas.Json.Document
