import JoinCanvas.Proofs.Json.RoundTrip
import JoinCanvas.Stored.Basic
import Mathlib.Data.List.Basic

/-!
# Storing a model and loading it

A key that was read from its stored form can be stored again, and a model whose keys can be stored is loaded as it
was, but for its warnings.

* `JoinKey.storable_iff`: the storable keys are those that are read back from their stored form.
* `model_ofModel`: a model survives being stored.
-/

namespace JoinCanvas

open JoinCanvas.Json JoinCanvas.Text

namespace KeyPair

/-- Whether neither column is blank. -/
def Named (p : KeyPair) : Prop :=
  allBlank p.fromColumn = false ∧ allBlank p.toColumn = false

theorem named_of (fromColumn toColumn : String) : (KeyPair.of fromColumn toColumn).Named :=
  ⟨allBlank_columnOrDefault fromColumn, allBlank_columnOrDefault toColumn⟩

theorem Named.of_eq {p : KeyPair} (h : p.Named) : KeyPair.of p.fromColumn p.toColumn = p := by
  rw [KeyPair.of, columnOrDefault_of_not_blank h.1, columnOrDefault_of_not_blank h.2]

/-- The members of the record of a pair, in key order. -/
theorem toValue_eq (p : KeyPair) :
    p.toValue = .object [("fromColumn", .string p.fromColumn), ("toColumn", .string p.toColumn)] := by
  have hne : ¬ ("toColumn" = "fromColumn") := by decide
  have hlt : ¬ ("toColumn" < "fromColumn") := by decide
  simp [KeyPair.toValue, Value.record, ofMembers, insertMember, hne, hlt]

/-- The record of a pair is read as the pair. -/
theorem ofDocument_toValue (p : KeyPair) : ofDocument? p.toValue.toDocument = some p := by
  have hne : ¬ ("toColumn" = "fromColumn") := by decide
  have hne' : ¬ ("fromColumn" = "toColumn") := by decide
  rw [toValue_eq]
  simp [ofDocument?, Value.toDocument, Value.memberDocuments, Document.fields?, Document.single?, Document.givenFor,
    defaulting, Document.asString?, hne, hne']

end KeyPair

namespace JoinKey

/-- A key that is read back from its stored form: its columns are not blank, and it is not mistaken for a composite
one, or has at least one pair. -/
def Storable : JoinKey → Prop
  | .simple a b => allBlank a = false ∧ allBlank b = false ∧ startsWith compositeMark a = false
  | .composite pairs => pairs ≠ [] ∧ ∀ p ∈ pairs, p.Named

theorem isNumberless_pairs (pairs : List KeyPair) :
    (Value.array (pairs.map KeyPair.toValue)).isNumberless = true := by
  rw [Value.isNumberless]
  induction pairs with
  | nil => rfl
  | cons p pairs ih =>
    rw [List.map_cons, Value.areNumberless, ih, KeyPair.toValue_eq]
    rfl

theorem mapM_ofDocument_pairs (pairs : List KeyPair) :
    (Value.itemDocuments (pairs.map KeyPair.toValue)).mapM KeyPair.ofDocument? = some pairs := by
  induction pairs with
  | nil => rfl
  | cons p pairs ih =>
    simp [Value.itemDocuments, List.mapM_cons, KeyPair.ofDocument_toValue, ih]

/-- The text of pairs is read as the pairs. -/
theorem readPairs_pairsText (pairs : List KeyPair) : readPairs? (pairsText pairs) = some pairs := by
  rw [readPairs?, pairsText, read_text (isNumberless_pairs pairs)]
  exact mapM_ofDocument_pairs pairs

theorem after_append (head text : String) : after? head (head ++ text) = some text := by
  simp [after?]

theorem after_eq_none_iff {head text : String} : after? head text = none ↔ startsWith head text = false := by
  rw [after?, startsWith, Option.map_eq_none_iff, ← List.isSome_isPrefixOf?_eq_isPrefixOf, Option.isSome_eq_false_iff,
    Option.isNone_iff_eq_none]

/-- A key that was read from a stored form can be stored. -/
theorem storable_of_ofStored {fromColumn? toColumn? : Option String} {k : JoinKey}
    (h : ofStored fromColumn? toColumn? = .ok k) : k.Storable := by
  unfold ofStored compositeText? at h
  cases ha : after? compositeMark (fromColumn?.getD "") with
  | none =>
    simp only [ha, Except.ok.injEq] at h
    subst h
    refine ⟨allBlank_columnOrDefault _, allBlank_columnOrDefault _, ?_⟩
    -- a blank column is replaced by one that does not look like a composite key
    unfold columnOrDefault
    split
    · decide
    · exact after_eq_none_iff.1 ha
  | some text =>
    simp only [ha] at h
    cases hpairs : readPairs? text with
    | none => simp [hpairs] at h
    | some pairs =>
      cases pairs with
      | nil => simp [hpairs] at h
      | cons p pairs =>
        simp only [hpairs, Except.ok.injEq] at h
        subst h
        refine ⟨by simp, fun q hq => ?_⟩
        obtain ⟨r, -, rfl⟩ := List.mem_map.1 hq
        exact KeyPair.named_of _ _

theorem storable_default : default.Storable :=
  ⟨by decide, by decide, by decide⟩

/-- A storable key is read back from its stored form. -/
theorem ofStored_stored {k : JoinKey} (h : k.Storable) : ofStored (some k.stored.1) (some k.stored.2) = .ok k := by
  cases k with
  | simple a b =>
    obtain ⟨ha, hb, hmark⟩ := h
    have hnone : after? compositeMark a = none := after_eq_none_iff.2 hmark
    simp [ofStored, compositeText?, stored, hnone, ofColumns, columnOrDefault_of_not_blank ha,
      columnOrDefault_of_not_blank hb]
  | composite pairs =>
    obtain ⟨hne, hnamed⟩ := h
    have hpairs : pairs.map (fun p => KeyPair.of p.fromColumn p.toColumn) = pairs :=
      (List.map_congr_left fun p hp => (hnamed p hp).of_eq).trans (List.map_id _)
    simp only [ofStored, compositeText?, stored, Option.getD_some, after_append, readPairs_pairsText]
    cases pairs with
    | nil => exact absurd rfl hne
    | cons p pairs => rw [hpairs]

/-- The storable keys are those that are read back from their stored form. -/
theorem storable_iff {k : JoinKey} : k.Storable ↔ ofStored (some k.stored.1) (some k.stored.2) = .ok k :=
  ⟨ofStored_stored, storable_of_ofStored⟩

end JoinKey

theorem StoredEdge.key_storable (e : StoredEdge) : e.key.Storable := by
  unfold StoredEdge.key
  split
  · next h => exact JoinKey.storable_of_ofStored h
  · exact JoinKey.storable_default

/-- An edge with a storable key is loaded as it was stored. -/
theorem StoredEdge.edge_ofEdge {e : Edge} (h : e.key.Storable) : (StoredEdge.ofEdge e).edge = e := by
  rw [StoredEdge.edge, StoredEdge.key, StoredEdge.ofEdge]
  simp only [JoinKey.ofStored_stored h]

theorem StoredEdge.warning_ofEdge {e : Edge} (h : e.key.Storable) (complaint : Complaint) :
    (StoredEdge.ofEdge e).warning? complaint = none := by
  rw [StoredEdge.warning?, StoredEdge.ofEdge]
  simp only [JoinKey.ofStored_stored h]

/-- Every key of a loaded model can be stored, and a model whose keys can be stored is loaded as it was stored, but
for its warnings. -/
theorem model_ofModel (complaint : Complaint) :
    (∀ s : StoredModel, ∀ e ∈ (s.model complaint).edges, e.key.Storable) ∧
    ∀ m : Model, (∀ e ∈ m.edges, e.key.Storable) →
      (StoredModel.ofModel m).model complaint = { m with warnings := [] } := by
  refine ⟨fun s e he => ?_, fun m hm => ?_⟩
  · obtain ⟨stored, -, rfl⟩ := List.mem_map.1 he
    exact stored.key_storable
  · have hedges : (m.edges.map StoredEdge.ofEdge).map StoredEdge.edge = m.edges := by
      rw [List.map_map]
      exact (List.map_congr_left fun e he => StoredEdge.edge_ofEdge (hm e he)).trans (List.map_id _)
    have hwarnings : (m.edges.map StoredEdge.ofEdge).filterMap (·.warning? complaint) = [] := by
      rw [List.filterMap_map, List.filterMap_eq_nil_iff]
      exact fun e he => StoredEdge.warning_ofEdge (hm e he) complaint
    simp only [StoredModel.model, StoredModel.ofModel, hedges, hwarnings, StoredFilters.filters_ofFilters]

/-- A model with a simple key and a composite one, whose columns hold quotes, backslashes and control characters. -/
def keyedModel : Model :=
  { id := "m"
    tables := [{ id := "a", name := "orders" }, { id := "b", name := "lines" }]
    edges :=
      [{ id := "e", fromTable := "a", toTable := "b", key := .simple "id" "order \\ id" },
        { id := "f", fromTable := "b", toTable := "a", key := .composite [⟨"\"\n\x01", "é"⟩, ⟨"line", "__JSON__:"⟩] }]
    filters := .manual "SELECT 1"
    warnings := [.crossJoinedTable "b"] }

/-- The model is loaded as it was stored. -/
theorem model_ofModel_keyed : (StoredModel.ofModel keyedModel).model = { keyedModel with warnings := [] } := by
  refine (model_ofModel fun _ => none).2 keyedModel fun e he => ?_
  simp only [keyedModel, List.mem_cons, List.not_mem_nil, or_false] at he
  rcases he with rfl | rfl
  · exact ⟨by decide, by decide, by decide⟩
  · refine ⟨by simp, fun p hp => ?_⟩
    simp only [List.mem_cons, List.not_mem_nil, or_false] at hp
    rcases hp with rfl | rfl <;> exact ⟨by decide, by decide⟩

end JoinCanvas
