import JoinCanvas.Proofs.Warehouse.Sessions
import JoinCanvas.Service

/-!
# Running a model within a time limit

When the time is up the run of a model is cut off in the call in which it waits, and what it holds is closed behind it.
All that was handed out is closed then, but for a client on which a session was just being opened: no one holds it yet.

* `Session.closeAll_ended`: the end of a session, also where one of its closes is cut off.
* `execute_closes`: when a run closes all that was handed out.
* `slowOpening_leaves`: a warehouse that opens sessions slowly keeps its clients.
-/

namespace JoinCanvas

variable {σ ω α : Type}

namespace Session

variable {w : Warehouse σ ω}

/-- The log is balanced, and nothing is held unless the work was cut off. -/
def Ended (x : Outcome α × Course σ ω) : Prop :=
  x.2.Balanced ∧ (x.1 ≠ .cutOff → ∀ r, x.2.held.holds r = false)

/-- The end of a session closes everything, or is cut off in one of the closes. -/
theorem closeAll_ended (w : Warehouse σ ω) {c : Course σ ω} (hc : c.Balanced) : Ended (closeAll w c) := by
  have hoperation := closeOperation_balanced w hc
  have hsession := closeSession_balanced w hoperation (by rw [closeOperation_held])
  -- a close that is cut off is in the log already, and what comes behind it is still held
  unfold closeAll
  rcases Work.attempt_then_cases (closeOperation w) _ c with h | ⟨first, h⟩ <;> rw [h]
  · exact ⟨hoperation, fun hne => absurd rfl hne⟩
  rcases Work.attempt_then_cases (closeSession w) _ (closeOperation w c).2 with h | ⟨second, h⟩ <;> rw [h]
  · exact ⟨hsession, fun hne => absurd rfl hne⟩
  rcases Work.attempt_then_cases (closeClient w) _ (closeSession w (closeOperation w c).2).2 with h | ⟨third, h⟩ <;>
    rw [h]
  · exact ⟨closes_balanced w hc, fun hne => absurd rfl hne⟩
  · exact ⟨closes_balanced w hc, fun _ => closes_held w c⟩

theorem finish_ended (w : Warehouse σ ω) (outcome : Except Fault α) {c : Course σ ω} (hc : c.Balanced) :
    Ended (finish w outcome c) := by
  have hall := closeAll_ended w hc
  unfold finish
  rcases h : closeAll w c with ⟨closed | f | _, c'⟩ <;> rw [h] at hall
  · have hheld := hall.2 nofun
    rw [Work.bind_returned h]
    cases outcome <;> cases closed <;> exact ⟨hall.1, fun _ => hheld⟩
  · rw [Work.bind_failed h]
    exact ⟨hall.1, fun _ => hall.2 nofun⟩
  · rw [Work.bind_cutOff h]
    exact ⟨hall.1, fun hne => absurd rfl hne⟩

theorem query_finish_ended (w : Warehouse σ ω) (sql : String) {c : Course σ ω} (hc : Idle c) :
    Ended ((Work.attempt (query w sql) >>= finish w) c) := by
  obtain ⟨hbalanced, -, -⟩ := query_settled w sql hc
  rcases Work.attempt_then_cases (query w sql) (finish w) c with h | ⟨outcome, h⟩ <;> rw [h]
  · exact ⟨hbalanced, fun hne => absurd rfl hne⟩
  · exact finish_ended w outcome hbalanced

theorem abandon_of_free {c : Course σ ω} (hc : c.held = {}) : (abandon w c).log = c.log := by
  obtain ⟨scene, log, accepted, held⟩ := c
  obtain rfl : held = {} := hc
  rfl

end Session

open Session

/-! ### Runs -/

variable {w : Warehouse σ ω} {store : Store} {connection : String} {record : Connection}

/-- The run of a query closes all that was handed out, or is cut off and holds what is not closed yet, unless it is cut
off where a session is being opened. -/
theorem runSql_cases (w : Warehouse σ ω) (hrecord : store.connection connection = .ok record) (sql : String)
    (s : Scene σ) :
    let x := Service.runSql w store connection sql { scene := s }
    (¬ CutOffOpening w record s ∧ (Ended x ∨ x.2.held = {} ∧ Over x.2.log)) ∨
      (CutOffOpening w record s ∧ LeavesClient record.id x) := by
  intro x
  have hx : x = (start w record >>= fun _ => Work.attempt (query w sql) >>= finish w) { scene := s } := by
    simp only [x, Service.runSql, hrecord]
    rfl
  rw [hx]
  rcases hstart : start w record { scene := s } with ⟨u | f | _, c⟩ <;>
    have hcases := start_cases w record s <;> rw [hstart] at hcases
  · rw [Work.bind_returned hstart]
    rcases hcases with ⟨hnot, ⟨-, hidle⟩ | ⟨hne, -⟩⟩ | ⟨-, hcut, -⟩
    · exact Or.inl ⟨hnot, Or.inl (query_finish_ended w sql hidle)⟩
    · exact absurd rfl hne
    · exact absurd hcut nofun
  · rw [Work.bind_failed hstart]
    rcases hcases with ⟨hnot, ⟨hne, -⟩ | ⟨-, h⟩⟩ | ⟨-, hcut, -⟩
    · exact absurd hne nofun
    · exact Or.inl ⟨hnot, Or.inr h⟩
    · exact absurd hcut nofun
  · rw [Work.bind_cutOff hstart]
    rcases hcases with ⟨hnot, ⟨hne, -⟩ | ⟨-, h⟩⟩ | ⟨hcut, -, h⟩
    · exact absurd hne nofun
    · exact Or.inl ⟨hnot, Or.inr h⟩
    · exact Or.inr ⟨hcut, rfl, h⟩

/-- A run within a time limit closes all that was handed out, unless it is cut off where a session is being opened. -/
theorem runWithin_cases (hw : w.Patient) (hrecord : store.connection connection = .ok record) (sql : String)
    (limit : Nat) (world : σ) :
    let log := (Service.runWithin w store connection sql limit { scene := { world } }).2.log
    (¬ CutOffOpening w record ⟨world, some limit⟩ ∧ Over log) ∨
      (CutOffOpening w record ⟨world, some limit⟩ ∧ log = [⟨.connect record.id, true⟩, ⟨.openSession, false⟩]) := by
  intro log
  have hcases := runSql_cases w hrecord sql ⟨world, some limit⟩
  simp only [log, Service.runWithin]
  rcases h : Service.runSql w store connection sql { scene := ⟨world, some limit⟩ } with ⟨outcome, c⟩
  rw [h] at hcases
  by_cases hcut : outcome = .cutOff
  · subst hcut
    rw [Work.within_cutOff h]
    rcases hcases with ⟨hnot, hended | ⟨hheld, hover⟩⟩ | ⟨hopening, -, hheld, hlog⟩
    · exact Or.inl ⟨hnot, abandon_over hw (hended.1.inScene _)⟩
    · exact Or.inl ⟨hnot, (abandon_of_free (c := { c with scene := _ }) hheld).symm ▸ hover⟩
    · exact Or.inr ⟨hopening, (abandon_of_free (c := { c with scene := _ }) hheld).trans hlog⟩
  · -- a run that was not cut off has closed everything itself
    have hover : ¬ CutOffOpening w record ⟨world, some limit⟩ ∧ Over c.log := by
      rcases hcases with ⟨hnot, hended | ⟨-, hover⟩⟩ | ⟨-, hcut', -⟩
      · exact ⟨hnot, over_of_balanced hended.1 (hended.2 hcut)⟩
      · exact ⟨hnot, hover⟩
      · exact absurd hcut' hcut
    rcases outcome with a | f | _
    · rw [Work.within_returned h]
      exact Or.inl hover
    · rw [Work.within_failed h]
      exact Or.inl hover
    · exact absurd rfl hcut

theorem not_over_of_opening (connection : String) : ¬ Over [⟨.connect connection, true⟩, ⟨.openSession, false⟩] := by
  rintro ⟨hcloses, -⟩
  simpa [closes, handedOut, Resource.closing, Event.isConnect] using hcloses .client

theorem log_execute {m : Model} (hconnection : m.connection? = some connection) (config : Config)
    (requested : Option Nat) {compiled : Compiled}
    (hcompiled : m.compileWithLimit? ((config.settingsFor connection).query.effectiveLimit requested) = some compiled)
    (c : Course σ ω) :
    (Service.execute w config store m requested c).2.log =
      (Service.runWithin w store connection compiled.sql (config.settingsFor connection).query.timeoutMs c).2.log := by
  simp only [Service.execute, hconnection, hcompiled]
  split <;> next h => rw [h]

theorem runWithin_of_error {f : Fault} (hstore : store.connection connection = .error f) (sql : String) (limit : Nat)
    (c : Course σ ω) : (Service.runWithin w store connection sql limit c).2.log = c.log := by
  simp only [Service.runWithin, Service.runSql, hstore]
  rfl

/-- In every run of a model on its connection, wherever the time limit cuts it off, each client, session and statement
that was handed out is closed once and in order, exactly unless the limit cuts off the opening of a session; then
nothing is called after that, and the client is left. -/
theorem execute_closes (hw : w.Patient) (config : Config) (store : Store) {m : Model}
    (hconnection : m.connection? = some connection) (hcompiled : m.compile?.isSome) (requested : Option Nat)
    (world : σ) :
    let s : Scene σ := ⟨world, some (config.settingsFor connection).query.timeoutMs⟩
    let log := (Service.execute w config store m requested { scene := { world } }).2.log
    (Over log ↔ ∀ record, store.connection connection = .ok record → ¬ CutOffOpening w record s) ∧
    ∀ record, store.connection connection = .ok record → CutOffOpening w record s →
      log = [⟨.connect record.id, true⟩, ⟨.openSession, false⟩] := by
  intro s log
  let limit? := (config.settingsFor connection).query.effectiveLimit requested
  obtain ⟨compiled, hlimited⟩ : ∃ compiled, m.compileWithLimit? limit? = some compiled := by
    rw [← Option.isSome_iff_exists, Model.compileWithLimit?, Option.isSome_map]
    exact hcompiled
  simp only [log, log_execute hconnection config requested hlimited]
  rcases hstore : store.connection connection with f | record
  · rw [runWithin_of_error hstore]
    exact ⟨⟨fun _ => nofun, fun _ => over_nil⟩, nofun⟩
  · simp only [Except.ok.injEq, forall_eq']
    rcases runWithin_cases hw hstore compiled.sql (config.settingsFor connection).query.timeoutMs world with
      ⟨hnot, hover⟩ | ⟨hcut, hlog⟩
    · exact ⟨⟨fun _ => hnot, fun _ => hover⟩, fun hcut => absurd hcut hnot⟩
    · rw [hlog]
      exact ⟨⟨fun h => absurd h (not_over_of_opening _), fun hnot => absurd hcut hnot⟩, fun _ => rfl⟩

/-- A warehouse that follows a script does not wait while it opens. -/
theorem not_cutOffOpening_scripted (connection : Connection) (s : Scene Script) :
    ¬ CutOffOpening scripted connection s := by
  rintro ⟨s', -, hcut⟩
  change (Script.failing s'.world.openError? s').1 = .cutOff at hcut
  cases h : s'.world.openError? <;> rw [h] at hcut <;> exact absurd hcut nofun

/-- A model that is run on a connection. -/
def handWrittenModel : Model :=
  { id := "m", filters := .manual "SELECT 1", connection? := some "c" }

/-- The store of its connection. -/
def oneConnection : Store :=
  { connections := [⟨"c", "", "", ""⟩] }

/-- A time limit of ten milliseconds. -/
def shortLimit : Config :=
  { defaults := { query := { timeoutMs := 10 } } }

/-- The rows of the statement take longer than the limit, and the statement is closed with the rest. -/
theorem execute_closes_fetching :
    let script : Script := { replies := [{ delay := 50 }] }
    let x := Service.execute scripted shortLimit oneConnection handWrittenModel none { scene := ⟨script, none⟩ }
    x.1 = .error ⟨.fault (.timedOut 10), some "SELECT 1"⟩ ∧ scripted.Patient ∧ handWrittenModel.connection? = some "c" ∧
      handWrittenModel.compile?.isSome ∧ Over x.2.log := by
  intro script x
  refine ⟨rfl, scripted_patient, rfl, rfl, ?_⟩
  have hcloses := execute_closes scripted_patient shortLimit oneConnection (m := handWrittenModel) rfl rfl none script
  exact hcloses.1.2 fun record _ => not_cutOffOpening_scripted record _

/-- A warehouse that takes fifty milliseconds to open a session. -/
def slowOpening : Warehouse Script ScriptedReply :=
  { scripted with openSession := Task.wait 50 }

/-- The client that it handed out is never closed. -/
theorem slowOpening_leaves :
    let x := Service.execute slowOpening shortLimit oneConnection handWrittenModel none { scene := ⟨{}, none⟩ }
    slowOpening.Patient ∧ handWrittenModel.connection? = some "c" ∧ handWrittenModel.compile?.isSome ∧
      handedOut x.2.log .client = true ∧ closes x.2.log .client = 0 :=
  ⟨{ scripted_patient with openSession := Task.patient_wait 50 }, rfl, rfl, rfl, rfl⟩

end JoinCanvas
