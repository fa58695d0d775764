import JoinCanvas.Warehouse.Scripted
import JoinCanvas.Warehouse.Session

/-!
# How work goes

What becomes of work step by step, and when it is not cut off: a warehouse is patient when none of its calls is cut off
without a time limit, and then no work on it is.

* `Work.bind_returned`, `Work.attempt_failed`, `Work.within_failed`: one step of work.
* `Work.Keeps.andThen`: what each piece of work keeps, one after another keep.
* `Work.Patient.andThen`: work of patient pieces is patient.
* `scripted_patient`: a warehouse that follows a script is patient.
-/

namespace JoinCanvas

variable {σ ω α β : Type}

/-- Whether a task returned. -/
def Outcome.isReturned : Outcome α → Bool
  | .returned _ => true
  | _ => false

theorem exists_of_isReturned {x : Outcome α × β} (h : x.1.isReturned = true) : ∃ a b, x = (.returned a, b) := by
  rcases x with ⟨a | f | _, b⟩
  · exact ⟨a, b, rfl⟩
  · exact absurd h Bool.false_ne_true
  · exact absurd h Bool.false_ne_true

/-- The fault of an outcome, if it is one. -/
def Outcome.fault? : Outcome α → Option Fault
  | .failed f => some f
  | _ => none

/-- The faults of tasks that are done one after another, whether or not those before them failed. -/
def Task.series : List (Task σ Unit) → Scene σ → List Fault × Scene σ
  | [], s => ([], s)
  | t :: rest, s => ((t s).1.fault?.toList ++ (series rest (t s).2).1, (series rest (t s).2).2)

theorem Task.series_append (ts us : List (Task σ Unit)) (s : Scene σ) :
    series (ts ++ us) s =
      ((series ts s).1 ++ (series us (series ts s).2).1, (series us (series ts s).2).2) := by
  induction ts generalizing s with
  | nil => rfl
  | cons t rest ih => simp only [List.cons_append, series, ih, List.append_assoc]

/-- The first of the faults, or the value when there is none. -/
def firstOf (faults : List Fault) (a : α) : Except Fault α :=
  match faults with
  | [] => .ok a
  | f :: _ => .error f

theorem firstOf_append (fs gs : List Fault) (a : α) :
    (do firstOf fs (); firstOf gs a) = firstOf (fs ++ gs) a := by
  cases fs <;> rfl

theorem map_firstOf (faults : List Fault) (a : α) (g : α → β) :
    (firstOf faults a).map g = firstOf faults (g a) := by
  cases faults <;> rfl

/-! ### Steps of work -/

namespace Work

variable {k : Work σ ω α} {next : α → Work σ ω β} {c c' : Course σ ω}

theorem call_of {t : Task σ α} {outcome : Outcome α} {scene : Scene σ} (h : t c.scene = (outcome, scene))
    (event : Event) : call event t c =
      (outcome, { c with scene, log := c.log ++ [⟨event, outcome.isReturned⟩] }) := by
  simp only [call, h]
  rfl

theorem bind_returned {a : α} (h : k c = (.returned a, c')) : (k >>= next) c = next a c' := by
  change andThen k next c = _
  rw [andThen, h]

theorem bind_failed {f : Fault} (h : k c = (.failed f, c')) : (k >>= next) c = (.failed f, c') := by
  change andThen k next c = _
  rw [andThen, h]

theorem bind_cutOff (h : k c = (.cutOff, c')) : (k >>= next) c = (.cutOff, c') := by
  change andThen k next c = _
  rw [andThen, h]

theorem bind_held (next : Held ω → Work σ ω β) : (held >>= next) c = next c.held c := rfl

theorem bind_hold (f : Held ω → Held ω) (next : Unit → Work σ ω β) :
    (hold f >>= next) c = next () { c with held := f c.held } := rfl

theorem bind_accept (next : Nat → Work σ ω β) :
    (accept >>= next) c = next c.accepted { c with accepted := c.accepted + 1 } := rfl

theorem attempt_returned {a : α} (h : k c = (.returned a, c')) : attempt k c = (.returned (.ok a), c') := by
  rw [attempt, h]

theorem attempt_failed {f : Fault} (h : k c = (.failed f, c')) : attempt k c = (.returned (.error f), c') := by
  rw [attempt, h]

theorem attempt_cutOff (h : k c = (.cutOff, c')) : attempt k c = (.cutOff, c') := by
  rw [attempt, h]

theorem within_returned {limit? : Option Nat} {a : α}
    (h : k { c with scene := { c.scene with left? := limit? } } = (.returned a, c')) :
    within limit? k c = (some (.ok a), { c' with scene := { c'.scene with left? := none } }) := by
  simp only [within, h]

theorem within_failed {limit? : Option Nat} {f : Fault}
    (h : k { c with scene := { c.scene with left? := limit? } } = (.failed f, c')) :
    within limit? k c = (some (.error f), { c' with scene := { c'.scene with left? := none } }) := by
  simp only [within, h]

theorem within_cutOff {limit? : Option Nat}
    (h : k { c with scene := { c.scene with left? := limit? } } = (.cutOff, c')) :
    within limit? k c = (none, { c' with scene := { c'.scene with left? := none } }) := by
  simp only [within, h]

theorem within_ofExcept {limit? : Option Nat} {result : Except Fault α}
    (h : k { c with scene := { c.scene with left? := limit? } } = ofExcept result c') :
    within limit? k c = (some result, { c' with scene := { c'.scene with left? := none } }) := by
  cases result with
  | ok a => exact within_returned h
  | error f => exact within_failed h

theorem attempt_of_not_cutOff {k : Work σ ω Unit} (h : (k c).1 ≠ .cutOff) :
    attempt k c = (.returned (firstOf (k c).1.fault?.toList ()), (k c).2) := by
  rcases hk : k c with ⟨_ | f | _, c'⟩
  · exact attempt_returned hk
  · exact attempt_failed hk
  · rw [hk] at h
    exact absurd rfl h

theorem snd_ofExcept (result : Except Fault α) (c : Course σ ω) : (ofExcept result c).2 = c := by
  cases result <;> rfl

/-- Work whose outcome is handed on, unless it is cut off. -/
theorem attempt_then_cases (k : Work σ ω α) (next : Except Fault α → Work σ ω β) (c : Course σ ω) :
    (attempt k >>= next) c = (.cutOff, (k c).2) ∨ ∃ outcome, (attempt k >>= next) c = next outcome (k c).2 := by
  rcases h : k c with ⟨a | f | _, c'⟩
  · exact Or.inr ⟨_, bind_returned (attempt_returned h)⟩
  · exact Or.inr ⟨_, bind_returned (attempt_failed h)⟩
  · exact Or.inl (bind_cutOff (attempt_cutOff h))

/-- Work whose faults are passed over, before an outcome that is known already. -/
theorem snd_attempt_then (k : Work σ ω α) (outcome : Except Fault β) (c : Course σ ω) :
    ((do let _ ← attempt k; ofExcept outcome : Work σ ω β) c).2 = (k c).2 := by
  rcases attempt_then_cases k (fun _ => ofExcept outcome) c with h | ⟨_, h⟩
  · rw [h]
  · rw [h, snd_ofExcept]

theorem attempt_ofExcept {result : Except Fault α} (h : k c = ofExcept result c') :
    attempt k c = (.returned result, c') := by
  cases result with
  | ok a => exact attempt_returned h
  | error f => exact attempt_failed h

theorem attempt_then_ofExcept {k : Work σ ω α} {c : Course σ ω} (h : (k c).1 ≠ .cutOff) (outcome : Except Fault β) :
    (do let _ ← attempt k; ofExcept outcome : Work σ ω β) c = ofExcept outcome (k c).2 := by
  rcases hk : k c with ⟨a | f | _, c'⟩
  · exact bind_returned (attempt_returned hk)
  · exact bind_returned (attempt_failed hk)
  · rw [hk] at h
    exact absurd rfl h

theorem bind_return_ofExcept {result : Except Fault α} (h : k c = ofExcept result c') (f : α → β) :
    (do let a ← k; return f a : Work σ ω β) c = ofExcept (result.map f) c' := by
  cases result with
  | ok a => exact bind_returned h
  | error g => exact bind_failed h

theorem attempt_then_error_ne (k : Work σ ω α) (f : Fault) (c : Course σ ω) (b : β) :
    ((do let _ ← attempt k; ofExcept (.error f) : Work σ ω β) c).1 ≠ .returned b := by
  rcases attempt_then_cases k (fun _ => (ofExcept (.error f) : Work σ ω β)) c with h | ⟨_, h⟩
  · rw [h]
    exact nofun
  · rw [h]
    exact nofun

/-- The work keeps a property of courses. -/
def Keeps (P : Course σ ω → Prop) (k : Work σ ω α) : Prop :=
  ∀ c, P c → P (k c).2

theorem Keeps.andThen {P : Course σ ω → Prop} (hk : k.Keeps P) (hnext : ∀ a, (next a).Keeps P) :
    (k >>= next).Keeps P := by
  intro c hc
  have hfirst := hk c hc
  rcases h : k c with ⟨a | f | _, c'⟩ <;> rw [h] at hfirst
  · rw [bind_returned h]
    exact hnext a c' hfirst
  · rwa [bind_failed h]
  · rwa [bind_cutOff h]

end Work

/-! ### Patience -/

namespace Task

/-- Without a time limit the task is not cut off, and it sets none. -/
def Patient (t : Task σ α) : Prop :=
  ∀ s, s.left? = none → (t s).1 ≠ .cutOff ∧ (t s).2.left? = none

theorem patient_give (a : α) : (give a : Task σ α).Patient :=
  fun _ hs => ⟨nofun, hs⟩

theorem patient_fail (f : Fault) : (fail f : Task σ α).Patient :=
  fun _ hs => ⟨nofun, hs⟩

theorem patient_world : (world : Task σ σ).Patient :=
  fun _ hs => ⟨nofun, hs⟩

theorem patient_change (f : σ → σ) : (change f).Patient :=
  fun _ hs => ⟨nofun, hs⟩

theorem patient_wait (ms : Nat) : (wait ms : Task σ Unit).Patient := by
  intro s hs
  simp [wait, hs]

theorem patient_check (fault? : Option Fault) : (check fault? : Task σ Unit).Patient := by
  cases fault? with
  | none => exact patient_give ()
  | some f => exact patient_fail f

theorem Patient.andThen {t : Task σ α} {next : α → Task σ β} (ht : t.Patient) (hnext : ∀ a, (next a).Patient) :
    (t >>= next).Patient := by
  intro s hs
  obtain ⟨hcut, hleft⟩ := ht s hs
  change (Task.andThen t next s).1 ≠ _ ∧ (Task.andThen t next s).2.left? = none
  unfold Task.andThen
  split
  · next a s' h =>
    rw [h] at hleft
    exact hnext a s' hleft
  · next f s' h =>
    rw [h] at hleft
    exact ⟨nofun, hleft⟩
  · next s' h =>
    rw [h] at hcut
    exact absurd rfl hcut

end Task

/-- None of the calls is cut off without a time limit. -/
structure Warehouse.Patient (w : Warehouse σ ω) : Prop where
  connect : ∀ connection, (w.connect connection).Patient
  openSession : w.openSession.Patient
  execute : ∀ sql, (w.execute sql).Patient
  fetch : ∀ operation, (w.fetch operation).Patient
  schema : ∀ operation, (w.schema operation).Patient
  closeOperation : ∀ operation, (w.closeOperation operation).Patient
  closeSession : w.closeSession.Patient
  closeClient : w.closeClient.Patient

theorem patient_failing (text? : Option String) : (Script.failing text?).Patient :=
  Task.patient_check _

theorem patient_nextReply : Script.nextReply.Patient := by
  refine Task.patient_world.andThen fun script => ?_
  split
  · exact Task.patient_fail _
  · exact (Task.patient_change _).andThen fun _ => Task.patient_give _

/-- A warehouse that follows its script is patient. -/
theorem scripted_patient : scripted.Patient where
  connect _ := Task.patient_world.andThen fun _ => patient_failing _
  openSession := Task.patient_world.andThen fun _ => patient_failing _
  execute _ := patient_nextReply.andThen fun _ => (patient_failing _).andThen fun _ => Task.patient_give _
  fetch r := (Task.patient_wait r.delay).andThen fun _ => (patient_failing _).andThen fun _ => Task.patient_give _
  schema _ := (patient_failing _).andThen fun _ => Task.patient_give _
  closeOperation _ := patient_failing _
  closeSession := Task.patient_world.andThen fun _ => patient_failing _
  closeClient := Task.patient_world.andThen fun _ => patient_failing _

namespace Work

variable {k : Work σ ω α} {next : α → Work σ ω β}

/-- Without a time limit the work is not cut off, and it sets none. -/
def Patient (k : Work σ ω α) : Prop :=
  ∀ c, c.scene.left? = none → (k c).1 ≠ .cutOff ∧ (k c).2.scene.left? = none

theorem patient_give (a : α) : (give a : Work σ ω α).Patient :=
  fun _ hc => ⟨nofun, hc⟩

theorem patient_fail (f : Fault) : (fail f : Work σ ω α).Patient :=
  fun _ hc => ⟨nofun, hc⟩

theorem patient_hold (f : Held ω → Held ω) : (hold f : Work σ ω Unit).Patient :=
  fun _ hc => ⟨nofun, hc⟩

theorem patient_accept : (accept : Work σ ω Nat).Patient :=
  fun _ hc => ⟨nofun, hc⟩

theorem patient_ofExcept (result : Except Fault α) : (ofExcept result : Work σ ω α).Patient := by
  cases result with
  | ok a => exact patient_give a
  | error f => exact patient_fail f

theorem patient_call (event : Event) {t : Task σ α} (ht : t.Patient) : (call event t : Work σ ω α).Patient :=
  fun c hc => ht c.scene hc

theorem Patient.andThen (hk : k.Patient) (hnext : ∀ a, (next a).Patient) : (k >>= next).Patient := by
  intro c hc
  obtain ⟨hcut, hleft⟩ := hk c hc
  rcases h : k c with ⟨a | f | _, c'⟩ <;> rw [h] at hcut hleft
  · rw [bind_returned h]
    exact hnext a c' hleft
  · rw [bind_failed h]
    exact ⟨nofun, hleft⟩
  · exact absurd rfl hcut

theorem Patient.attempt (hk : k.Patient) : (attempt k).Patient := by
  intro c hc
  obtain ⟨hcut, hleft⟩ := hk c hc
  rcases h : k c with ⟨a | f | _, c'⟩ <;> rw [h] at hcut hleft
  · rw [attempt_returned h]
    exact ⟨nofun, hleft⟩
  · rw [attempt_failed h]
    exact ⟨nofun, hleft⟩
  · exact absurd rfl hcut

end Work

end JoinCanvas
