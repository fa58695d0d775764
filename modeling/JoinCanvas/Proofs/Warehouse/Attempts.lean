import JoinCanvas.Proofs.Warehouse.Answers
import JoinCanvas.Proofs.Warehouse.TimeLimit

/-!
# What the run of a model attempts

A run sends the compiled query of its model once, and only when a session is open for it; nothing else is ever executed.
It returns when every call returns but the close of the statement, which may fail.  Of all other runs the fault is
shown with the query that was attempted, if it came to that.

* `Work.bind_eq_returned_iff`, `Work.call_eq_returned_iff`: how work returns, step by step.
* `Work.Silent`: work that executes nothing.
* `Session.query_returns_iff`, `Session.finish_returns_iff`: when queries and closes return.
* `runSql_returns_iff`, `statements_runSql`: when a run returns, and what it executes.
* `execute_attempts`: the run of a model.
-/

namespace JoinCanvas

variable {σ ω α β : Type}

/-- The statements that were sent, in order. -/
def statements (log : List Entry) : List String :=
  log.filterMap (·.event.sql?)

@[simp] theorem statements_append (log more : List Entry) :
    statements (log ++ more) = statements log ++ statements more :=
  List.filterMap_append

theorem Task.bind_eq_returned_iff {t : Task σ α} {next : α → Task σ β} {s s' : Scene σ} {b : β} :
    (t >>= next) s = (.returned b, s') ↔ ∃ a s₁, t s = (.returned a, s₁) ∧ next a s₁ = (.returned b, s') := by
  change Task.andThen t next s = _ ↔ _
  unfold Task.andThen
  rcases t s with ⟨a | f | _, s₁⟩
  · simp only [Prod.mk.injEq, Outcome.returned.injEq]
    constructor
    · exact fun h => ⟨a, s₁, ⟨rfl, rfl⟩, h⟩
    · rintro ⟨_, _, ⟨rfl, rfl⟩, h⟩
      exact h
  · simp
  · simp

namespace Work

variable {k : Work σ ω α} {next : α → Work σ ω β} {c c' : Course σ ω}

/-! ### How work returns -/

theorem bind_eq_returned_iff {b : β} :
    (k >>= next) c = (.returned b, c') ↔ ∃ a c₁, k c = (.returned a, c₁) ∧ next a c₁ = (.returned b, c') := by
  constructor
  · intro h
    rcases hk : k c with ⟨a | f | _, c₁⟩
    · exact ⟨a, c₁, rfl, by rwa [bind_returned hk] at h⟩
    · rw [bind_failed hk] at h
      cases h
    · rw [bind_cutOff hk] at h
      cases h
  · rintro ⟨a, c₁, hk, hnext⟩
    rwa [bind_returned hk]

theorem attempt_eq_returned_iff {outcome : Except Fault α} :
    attempt k c = (.returned outcome, c') ↔ k c = ofExcept outcome c' := by
  constructor
  · intro h
    rcases hk : k c with ⟨a | f | _, c₁⟩
    · rw [attempt_returned hk] at h
      obtain ⟨hoc, rfl⟩ := Prod.mk.inj h
      rw [← Outcome.returned.inj hoc]
      rfl
    · rw [attempt_failed hk] at h
      obtain ⟨hoc, rfl⟩ := Prod.mk.inj h
      rw [← Outcome.returned.inj hoc]
      rfl
    · rw [attempt_cutOff hk] at h
      cases h
  · exact attempt_ofExcept

theorem ofExcept_eq_returned_iff {result : Except Fault α} {a : α} :
    ofExcept result c = (.returned a, c') ↔ result = .ok a ∧ c = c' := by
  cases result with
  | ok b => simp [ofExcept, give]
  | error f => simp [ofExcept, fail]

theorem call_eq_returned_iff {event : Event} {t : Task σ α} {a : α} :
    call event t c = (.returned a, c') ↔
      ∃ s, t c.scene = (.returned a, s) ∧ c' = { c with scene := s, log := c.log ++ [⟨event, true⟩] } := by
  rcases h : t c.scene with ⟨outcome, s⟩
  rw [call_of h]
  constructor
  · intro heq
    obtain ⟨rfl, rfl⟩ := Prod.mk.inj heq
    exact ⟨s, rfl, rfl⟩
  · rintro ⟨s', heq, rfl⟩
    obtain ⟨rfl, rfl⟩ := Prod.mk.inj heq
    rfl

/-! ### What work executes -/

/-- The work executes nothing. -/
def Silent (k : Work σ ω α) : Prop :=
  ∀ c, statements (k c).2.log = statements c.log

theorem silent_give (a : α) : (give a : Work σ ω α).Silent := fun _ => rfl

theorem silent_fail (f : Fault) : (fail f : Work σ ω α).Silent := fun _ => rfl

theorem silent_held : (held : Work σ ω (Held ω)).Silent := fun _ => rfl

theorem silent_hold (f : Held ω → Held ω) : (hold f : Work σ ω Unit).Silent := fun _ => rfl

theorem silent_accept : (accept : Work σ ω Nat).Silent := fun _ => rfl

theorem silent_ofExcept (result : Except Fault α) : (ofExcept result : Work σ ω α).Silent := fun c => by
  rw [snd_ofExcept]

theorem silent_call {event : Event} (hsql : event.sql? = none) (t : Task σ α) :
    (call event t : Work σ ω α).Silent := fun c => by
  rcases h : t c.scene with ⟨outcome, s⟩
  rw [call_of h, statements_append]
  simp [statements, hsql]

/-- Of work that goes on silently the first part counts. -/
theorem statements_bind (hnext : ∀ a, (next a).Silent) (c : Course σ ω) :
    statements ((k >>= next) c).2.log = statements (k c).2.log := by
  rcases h : k c with ⟨a | f | _, c'⟩
  · rw [bind_returned h]
    exact hnext a c'
  · rw [bind_failed h]
  · rw [bind_cutOff h]

theorem Silent.andThen (hk : k.Silent) (hnext : ∀ a, (next a).Silent) : (k >>= next).Silent := fun c =>
  (statements_bind hnext c).trans (hk c)

theorem snd_attempt (k : Work σ ω α) (c : Course σ ω) : (attempt k c).2 = (k c).2 := by
  rcases h : k c with ⟨a | f | _, c'⟩
  · rw [attempt_returned h]
  · rw [attempt_failed h]
  · rw [attempt_cutOff h]

theorem Silent.attempt (hk : k.Silent) : (attempt k).Silent := fun c => by
  rw [snd_attempt, hk c]

end Work

namespace Session

open Work

variable {w : Warehouse σ ω}

theorem silent_result (w : Warehouse σ ω) (r : Running ω) : (result w r).Silent :=
  (silent_call rfl _).andThen fun _ => (silent_call rfl _).andThen fun _ => silent_give _

theorem silent_report (w : Warehouse σ ω) (r : Running ω) (outcome : Except Fault QueryResult) :
    (report w r outcome).Silent :=
  (silent_hold _).andThen fun _ => (silent_call rfl _).attempt.andThen fun _ => silent_ofExcept outcome

theorem silent_start (w : Warehouse σ ω) (record : Connection) : (start w record).Silent := by
  refine (silent_call rfl _).andThen fun _ => (silent_call rfl _).attempt.andThen fun opened => ?_
  cases opened with
  | ok _ => exact silent_hold _
  | error f => exact (silent_call rfl _).attempt.andThen fun _ => silent_fail f

theorem silent_closeAll (w : Warehouse σ ω) : (closeAll w).Silent := by
  have hoperation : (closeOperation w).Silent := silent_held.andThen fun h => by
    cases h.operation? with
    | none => exact silent_give ()
    | some r => exact (silent_hold _).andThen fun _ => silent_call rfl _
  have hsession : (closeSession w).Silent := silent_held.andThen fun h => by
    cases h.session with
    | false => exact silent_give ()
    | true => exact (silent_hold _).andThen fun _ => silent_call rfl _
  have hclient : (closeClient w).Silent := silent_held.andThen fun h => by
    cases h.client with
    | false => exact silent_give ()
    | true => exact (silent_hold _).andThen fun _ => silent_call rfl _
  exact hoperation.attempt.andThen fun _ => hsession.attempt.andThen fun _ => hclient.attempt.andThen fun _ =>
    silent_give _

theorem silent_finish (w : Warehouse σ ω) (outcome : Except Fault α) : (finish w outcome).Silent := by
  refine (silent_closeAll w).andThen fun closed => ?_
  cases outcome with
  | error f => exact silent_fail f
  | ok a =>
    cases closed with
    | ok _ => exact silent_give a
    | error f => exact silent_fail f

/-- A query executes its statement and nothing else. -/
theorem statements_query (w : Warehouse σ ω) (sql : String) (c : Course σ ω) :
    statements (query w sql c).2.log = statements c.log ++ [sql] := by
  have hrest (operation : ω) : Work.Silent (do
      let n ← accept
      hold fun h => { h with operation? := some ⟨n, operation⟩ }
      let outcome ← attempt (result w ⟨n, operation⟩)
      report w ⟨n, operation⟩ outcome) :=
    silent_accept.andThen fun n => (silent_hold _).andThen fun _ => (silent_result w _).attempt.andThen fun outcome =>
      silent_report w ⟨n, operation⟩ outcome
  rcases h : w.execute sql c.scene with ⟨outcome, s⟩
  rw [query_eq, statements_bind hrest, call_of h, statements_append]
  rfl

/-! ### How sessions return -/

/-- The closes of a session in which no statement runs. -/
def closing (w : Warehouse σ ω) : Task σ Unit := do
  w.closeSession
  w.closeClient

/-- A query that returns: its statement is accepted and read, and the close of it may fail but is not cut off. -/
def Completes (w : Warehouse σ ω) (sql : String) (s : Scene σ) (r : QueryResult) (s' : Scene σ) : Prop :=
  ∃ operation s₁ s₂, w.execute sql s = (.returned operation, s₁) ∧ Reads w operation s₁ (.ok r) s₂ ∧
    (w.closeOperation operation s₂).1 ≠ .cutOff ∧ (w.closeOperation operation s₂).2 = s'

theorem result_returns_iff {running : Running ω} {c : Course σ ω} {r : QueryResult} {s' : Scene σ} :
    (∃ c', result w running c = (.returned r, c') ∧ c'.scene = s') ↔ Reads w running.operation c.scene (.ok r) s' := by
  constructor
  · rintro ⟨c', h, rfl⟩
    obtain ⟨rows, c₁, hfetch, h⟩ := bind_eq_returned_iff.1 h
    obtain ⟨columns, c₂, hschema, h⟩ := bind_eq_returned_iff.1 h
    obtain ⟨s₁, hrows, rfl⟩ := call_eq_returned_iff.1 hfetch
    obtain ⟨s₂, hcolumns, rfl⟩ := call_eq_returned_iff.1 hschema
    obtain ⟨hr, rfl⟩ := Prod.mk.inj h
    rw [← Outcome.returned.inj hr]
    exact .read hrows hcolumns
  · intro h
    cases h with
    | read hrows hcolumns =>
      rw [result, bind_returned (call_of hrows _)]
      exact ⟨_, bind_returned (call_of hcolumns _), rfl⟩

theorem report_returns_iff {running : Running ω} {outcome : Except Fault QueryResult} {c : Course σ ω} {r : QueryResult}
    {s' : Scene σ} :
    (∃ c', report w running outcome c = (.returned r, c') ∧ c'.scene = s') ↔
      outcome = .ok r ∧ (w.closeOperation running.operation c.scene).1 ≠ .cutOff ∧
        (w.closeOperation running.operation c.scene).2 = s' := by
  let c₁ : Course σ ω := { c with held := { c.held with operation? := none } }
  have hreport : report w running outcome c = (do
      let _ ← attempt (call (.closeOperation running.number) (w.closeOperation running.operation))
      ofExcept outcome : Work σ ω QueryResult) c₁ := bind_hold _ _
  rw [hreport]
  by_cases hcut : (w.closeOperation running.operation c.scene).1 = .cutOff
  · have hcall : call (.closeOperation running.number) (w.closeOperation running.operation) c₁ = (.cutOff, _) :=
      Prod.ext hcut rfl
    rw [bind_cutOff (attempt_cutOff hcall)]
    simp [hcut]
  · have hcall : (call (.closeOperation running.number) (w.closeOperation running.operation) c₁).1 ≠ .cutOff := hcut
    simp only [attempt_then_ofExcept hcall, ofExcept_eq_returned_iff]
    constructor
    · rintro ⟨c', ⟨rfl, rfl⟩, rfl⟩
      exact ⟨rfl, hcut, rfl⟩
    · rintro ⟨rfl, -, rfl⟩
      exact ⟨_, ⟨rfl, rfl⟩, rfl⟩

theorem query_returns_iff {sql : String} {c : Course σ ω} {r : QueryResult} {s' : Scene σ} :
    (∃ c', query w sql c = (.returned r, c') ∧ c'.scene = s') ↔ Completes w sql c.scene r s' := by
  have hquery {operation : ω} {s₁ : Scene σ} (h : w.execute sql c.scene = (.returned operation, s₁)) :
      query w sql c = (attempt (result w ⟨c.accepted, operation⟩) >>= report w ⟨c.accepted, operation⟩)
        { c with
          scene := s₁
          log := c.log ++ [⟨.execute sql, true⟩]
          accepted := c.accepted + 1
          held := { c.held with operation? := some ⟨c.accepted, operation⟩ } } := by
    rw [query_eq, bind_returned (call_of h _)]
    rfl
  constructor
  · rintro ⟨c', h, hs'⟩
    obtain ⟨operation, c₁, hexecute, -⟩ := bind_eq_returned_iff.1 h
    obtain ⟨s₁, hs₁, rfl⟩ := call_eq_returned_iff.1 hexecute
    rw [hquery hs₁] at h
    obtain ⟨outcome, c₂, hresult, hreport⟩ := bind_eq_returned_iff.1 h
    obtain ⟨rfl, hcut, hclosed⟩ := report_returns_iff.1 ⟨c', hreport, hs'⟩
    have hreads := result_returns_iff.1 ⟨c₂, attempt_eq_returned_iff.1 hresult, rfl⟩
    exact ⟨operation, s₁, c₂.scene, hs₁, hreads, hcut, hclosed⟩
  · rintro ⟨operation, s₁, s₂, hexecute, hreads, hcut, hclosed⟩
    rw [hquery hexecute]
    let c₁ : Course σ ω := { c with
      scene := s₁
      log := c.log ++ [⟨.execute sql, true⟩]
      accepted := c.accepted + 1
      held := { c.held with operation? := some ⟨c.accepted, operation⟩ } }
    have hreturned : ∃ c₂, result w ⟨c.accepted, operation⟩ c₁ = (.returned r, c₂) ∧ c₂.scene = s₂ :=
      result_returns_iff.2 hreads
    obtain ⟨c₂, hresult, rfl⟩ := hreturned
    rw [bind_returned (attempt_returned hresult)]
    exact report_returns_iff.2 ⟨rfl, hcut, hclosed⟩

theorem closeAll_returns_iff {c : Course σ ω} (hc : Idle c) :
    (∃ c', closeAll w c = (.returned (.ok ()), c')) ↔ ∃ s', closing w c.scene = (.returned (), s') := by
  obtain ⟨hbalanced, hsession, hfree⟩ := hc
  have hclient := hbalanced.session_client hsession
  let c₁ : Course σ ω := { c with held := { c.held with session := false } }
  have hoperation : closeOperation w c = (.returned (), c) := by
    rw [closeOperation_eq, operationClose?, hfree]
    rfl
  have hcloseSession : closeSession w c = call .closeSession w.closeSession c₁ := by
    rw [closeSession_eq, sessionClose?, hsession]
    rfl
  have hcloseClient (s : Scene σ) (log : List Entry) : closeClient w { c₁ with scene := s, log } =
      call .closeClient w.closeClient { c₁ with scene := s, log, held := { c₁.held with client := false } } := by
    rw [closeClient_eq, clientClose?, hclient]
    rfl
  rw [closeAll, bind_returned (attempt_returned hoperation)]
  constructor
  · rintro ⟨c', h⟩
    obtain ⟨second, c₂, hsecond, h⟩ := bind_eq_returned_iff.1 h
    obtain ⟨third, c₃, hthird, h⟩ := bind_eq_returned_iff.1 h
    obtain ⟨hfirst, -⟩ := Prod.mk.inj h
    -- the first of the faults is the outcome, so there was none
    have hboth : (do second; third) = Except.ok () := Outcome.returned.inj hfirst
    cases second with
    | error f => cases hboth
    | ok u =>
      cases third with
      | error f => cases hboth
      | ok v =>
        have hs := attempt_eq_returned_iff.1 hsecond
        rw [hcloseSession] at hs
        obtain ⟨s₁, hs₁, rfl⟩ := call_eq_returned_iff.1 hs
        have ht := attempt_eq_returned_iff.1 hthird
        rw [hcloseClient] at ht
        obtain ⟨s₂, hs₂, rfl⟩ := call_eq_returned_iff.1 ht
        exact ⟨s₂, Task.bind_eq_returned_iff.2 ⟨u, s₁, hs₁, hs₂⟩⟩
  · rintro ⟨s', h⟩
    obtain ⟨u, s₁, hs₁, hs₂⟩ := Task.bind_eq_returned_iff.1 h
    have hsecond := hcloseSession.trans (call_of (c := c₁) hs₁ _)
    rw [bind_returned (attempt_returned hsecond)]
    exact ⟨_, bind_returned (attempt_returned ((hcloseClient s₁ _).trans (call_of hs₂ _)))⟩

theorem finish_eq_returned_iff {outcome : Except Fault α} {c c' : Course σ ω} {a : α} :
    finish w outcome c = (.returned a, c') ↔ outcome = .ok a ∧ closeAll w c = (.returned (.ok ()), c') := by
  rw [finish]
  constructor
  · intro h
    obtain ⟨closed, c₁, hclosed, h⟩ := bind_eq_returned_iff.1 h
    cases outcome with
    | error f => cases h
    | ok b =>
      cases closed with
      | error f => cases h
      | ok u =>
        obtain ⟨hb, rfl⟩ := Prod.mk.inj h
        exact ⟨congrArg Except.ok (Outcome.returned.inj hb), hclosed⟩
  · rintro ⟨rfl, hclosed⟩
    exact bind_returned hclosed

/-- The end of a session in which no statement runs returns when its work went well and its closes return. -/
theorem finish_returns_iff {outcome : Except Fault α} {c : Course σ ω} (hc : Idle c) {a : α} :
    (∃ c', finish w outcome c = (.returned a, c')) ↔
      outcome = .ok a ∧ ∃ s', closing w c.scene = (.returned (), s') := by
  simp only [finish_eq_returned_iff, exists_and_left, closeAll_returns_iff hc]

theorem start_returns_iff {record : Connection} {s : Scene σ} {c' : Course σ ω} :
    start w record { scene := s } = (.returned (), c') ↔
      ∃ s', opening w record s = (.returned (), s') ∧ c' = opened record.id s' := by
  constructor
  · intro h
    obtain ⟨u, c₁, hconnect, h⟩ := bind_eq_returned_iff.1 h
    obtain ⟨s₁, hs₁, rfl⟩ := call_eq_returned_iff.1 hconnect
    obtain ⟨outcome, c₂, hopen, h⟩ := bind_eq_returned_iff.1 h
    cases outcome with
    | error f =>
      have hreturned := congrArg Prod.fst h
      exact absurd hreturned (attempt_then_error_ne _ f c₂ ())
    | ok v =>
      obtain ⟨s₂, hs₂, rfl⟩ := call_eq_returned_iff.1 (attempt_eq_returned_iff.1 hopen)
      obtain ⟨-, rfl⟩ := Prod.mk.inj h
      exact ⟨s₂, Task.bind_eq_returned_iff.2 ⟨u, s₁, hs₁, hs₂⟩, rfl⟩
  · rintro ⟨s', hopening, rfl⟩
    exact start_of_opening hopening

/-- A run in which every call returns, but perhaps the close of the statement. -/
def Succeeds (w : Warehouse σ ω) (record : Connection) (sql : String) (s : Scene σ) (r : QueryResult) : Prop :=
  ∃ s₁ s₂ s₃, opening w record s = (.returned (), s₁) ∧ Completes w sql s₁ r s₂ ∧ closing w s₂ = (.returned (), s₃)

end Session

open Session

/-! ### Runs -/

variable {w : Warehouse σ ω} {store : Store} {connection : String} {record : Connection}

theorem runSql_eq (hrecord : store.connection connection = .ok record) (sql : String) (c : Course σ ω) :
    Service.runSql w store connection sql c =
      (start w record >>= fun _ => Work.attempt (query w sql) >>= finish w) c := by
  simp only [Service.runSql, hrecord]
  rfl

/-- The run of a query returns exactly when all its calls do, but perhaps the close of the statement. -/
theorem runSql_returns_iff (hrecord : store.connection connection = .ok record) {sql : String} {s : Scene σ}
    {r : QueryResult} :
    (∃ c', Service.runSql w store connection sql { scene := s } = (.returned r, c')) ↔ Succeeds w record sql s r := by
  rw [runSql_eq hrecord]
  constructor
  · rintro ⟨c', h⟩
    obtain ⟨u, c₁, hstart, h⟩ := Work.bind_eq_returned_iff.1 h
    obtain ⟨s₁, hopening, rfl⟩ := start_returns_iff.1 hstart
    obtain ⟨outcome, c₂, hquery, hfinish⟩ := Work.bind_eq_returned_iff.1 h
    have hquery := Work.attempt_eq_returned_iff.1 hquery
    -- the closes of the session count only once the statement is closed
    have hidle : Idle c₂ := by
      obtain ⟨hbalanced, hsession, hfree⟩ := query_settled w sql (idle_opened record.id s₁)
      rw [hquery, Work.snd_ofExcept] at hbalanced hsession hfree
      exact ⟨hbalanced, hsession, hfree (by cases outcome <;> exact nofun)⟩
    obtain ⟨rfl, s₃, hclosing⟩ := (finish_returns_iff hidle).1 ⟨c', hfinish⟩
    exact ⟨s₁, c₂.scene, s₃, hopening, query_returns_iff.1 ⟨c₂, hquery, rfl⟩, hclosing⟩
  · rintro ⟨s₁, s₂, s₃, hopening, hcompletes, hclosing⟩
    rw [Work.bind_returned (start_of_opening hopening)]
    obtain ⟨c₂, hquery, rfl⟩ := (query_returns_iff (c := opened record.id s₁)).2 hcompletes
    have hidle : Idle c₂ := by
      obtain ⟨hbalanced, hsession, hfree⟩ := query_settled w sql (idle_opened record.id s₁)
      rw [hquery] at hbalanced hsession hfree
      exact ⟨hbalanced, hsession, hfree nofun⟩
    rw [Work.bind_returned (Work.attempt_returned hquery)]
    exact (finish_returns_iff hidle).2 ⟨rfl, s₃, hclosing⟩

/-- A run executes its query when a session opens for it, and nothing otherwise. -/
theorem statements_runSql (hrecord : store.connection connection = .ok record) (sql : String) (s : Scene σ) :
    let log := (Service.runSql w store connection sql { scene := s }).2.log
    ((∃ s', opening w record s = (.returned (), s')) → statements log = [sql]) ∧
      ((∀ s', opening w record s ≠ (.returned (), s')) → statements log = []) := by
  intro log
  have hsilent := silent_start w record { scene := s }
  simp only [log, runSql_eq hrecord]
  constructor
  · rintro ⟨s', hopening⟩
    rw [Work.bind_returned (start_of_opening hopening), Work.statements_bind (silent_finish w), Work.snd_attempt,
      statements_query]
    rfl
  · intro hnot
    rcases hstart : start w record { scene := s } with ⟨u | f | _, c⟩ <;> rw [hstart] at hsilent
    · obtain ⟨s', hopening, -⟩ := start_returns_iff.1 hstart
      exact absurd hopening (hnot s')
    · rw [Work.bind_failed hstart]
      exact hsilent
    · rw [Work.bind_cutOff hstart]
      exact hsilent

theorem silent_abandon (w : Warehouse σ ω) (c : Course σ ω) : statements (abandon w c).log = statements c.log :=
  silent_closeAll w _

/-- A time limit changes neither what is executed nor what is returned in time. -/
theorem runWithin_spec (w : Warehouse σ ω) (store : Store) (connection sql : String) (limit : Nat) (world : σ) :
    let x := Service.runWithin w store connection sql limit { scene := { world } }
    let run := Service.runSql w store connection sql { scene := ⟨world, some limit⟩ }
    statements x.2.log = statements run.2.log ∧ ∀ r, x.1 = .ok r ↔ ∃ c', run = (.returned r, c') := by
  intro x run
  simp only [x, Service.runWithin]
  rcases hrun : Service.runSql w store connection sql { scene := ⟨world, some limit⟩ } with ⟨r | f | _, c⟩ <;>
    simp only [run, hrun]
  · rw [Work.within_returned hrun]
    exact ⟨rfl, fun r' => by simp⟩
  · rw [Work.within_failed hrun]
    exact ⟨rfl, fun r' => by simp⟩
  · rw [Work.within_cutOff hrun]
    exact ⟨silent_abandon w _, fun r' => by simp⟩

theorem runWithin_of_unknown {f : Fault} (hstore : store.connection connection = .error f) (sql : String) (limit : Nat)
    (world : σ) : Service.runWithin w store connection sql limit { scene := { world } } =
      (.error f, { scene := { world } }) := by
  simp only [Service.runWithin, Service.runSql, hstore]
  rfl

theorem runWithin_returns_iff {sql : String} {limit : Nat} {world : σ} {r : QueryResult} :
    (Service.runWithin w store connection sql limit { scene := { world } }).1 = .ok r ↔
      ∃ record, store.connection connection = .ok record ∧ Succeeds w record sql ⟨world, some limit⟩ r := by
  cases hstore : store.connection connection with
  | error f =>
    rw [runWithin_of_unknown hstore]
    simp
  | ok record =>
    rw [(runWithin_spec w store connection sql limit world).2, runSql_returns_iff hstore]
    simp

theorem execute_eq {m : Model} (hconnection : m.connection? = some connection) (config : Config)
    (requested : Option Nat) {limited : Compiled}
    (hlimited : m.compileWithLimit? ((config.settingsFor connection).query.effectiveLimit requested) = some limited)
    (c : Course σ ω) :
    let run := Service.runWithin w store connection limited.sql (config.settingsFor connection).query.timeoutMs c
    Service.execute w config store m requested c =
      (match run.1 with
        | .ok r => .ok ⟨limited.sql, r.columns, r.rows, limited.warnings⟩
        | .error f => .error ⟨.fault f, some limited.sql⟩, run.2) := by
  intro run
  simp only [Service.execute, hconnection, hlimited]
  split <;> next h => simp only [run, h]

theorem warnings_compileWithLimit {m : Model} {limit? : Option Nat} {limited : Compiled}
    (h : m.compileWithLimit? limit? = some limited) : m.compile?.map (·.warnings) = some limited.warnings := by
  obtain ⟨c, hc, rfl⟩ := Option.map_eq_some_iff.1 h
  rw [hc]
  cases limit? <;> rfl

theorem execute_returns {m : Model} {config : Config} {requested : Option Nat} {world : σ} {r : ExecutionResult}
    (hr : (Service.execute w config store m requested { scene := { world } }).1 = .ok r) :
    ∃ connection record limited, m.connection? = some connection ∧ store.connection connection = .ok record ∧
      m.compileWithLimit? ((config.settingsFor connection).query.effectiveLimit requested) = some limited ∧
      r.sql = limited.sql ∧
      Succeeds w record limited.sql ⟨world, some (config.settingsFor connection).query.timeoutMs⟩
        ⟨r.columns, r.rows⟩ := by
  cases hconnection : m.connection? with
  | none => simp [Service.execute, hconnection] at hr
  | some connection =>
    cases hlimited : m.compileWithLimit? ((config.settingsFor connection).query.effectiveLimit requested) with
    | none => simp [Service.execute, hconnection, hlimited] at hr
    | some limited =>
      rw [execute_eq hconnection config requested hlimited] at hr
      dsimp only at hr
      split at hr
      · next result hresult =>
        obtain rfl := Except.ok.inj hr
        obtain ⟨record, hrecord, hsucceeds⟩ := runWithin_returns_iff.1 hresult
        exact ⟨connection, record, limited, rfl, hrecord, hlimited, rfl, hsucceeds⟩
      · cases hr

theorem execute_of_succeeds {m : Model} (hconnection : m.connection? = some connection) {config : Config}
    {requested : Option Nat} {limited : Compiled}
    (hlimited : m.compileWithLimit? ((config.settingsFor connection).query.effectiveLimit requested) = some limited)
    (hrecord : store.connection connection = .ok record) {world : σ} {r : QueryResult}
    (hr : Succeeds w record limited.sql ⟨world, some (config.settingsFor connection).query.timeoutMs⟩ r) :
    (Service.execute w config store m requested { scene := { world } }).1 =
      .ok ⟨limited.sql, r.columns, r.rows, limited.warnings⟩ := by
  rw [execute_eq hconnection config requested hlimited]
  have hrun := runWithin_returns_iff.2 ⟨record, hrecord, hr⟩
  simp only [hrun]

/-- A run calls its warehouse only when the model has a connection that is known, and a query.  It executes that query,
limited as the connection wants it, once if a session opens for it, and nothing else.  A failure shows this query, and
none when there is none; a result comes with it, with the warnings of the model, and with the rows and columns that the
warehouse gave, exactly when no call failed or was cut off but perhaps the close of the statement. -/
theorem execute_attempts (w : Warehouse σ ω) (config : Config) (store : Store) (m : Model) (requested : Option Nat)
    (world : σ) :
    let start : Course σ ω := { scene := { world } }
    let x := Service.execute w config store m requested start
    (m.connection? = none → x = (.error ⟨.noConnection, none⟩, start)) ∧
    ∀ connection, m.connection? = some connection →
      let settings := (config.settingsFor connection).query
      let s : Scene σ := ⟨world, some settings.timeoutMs⟩
      (m.compile? = none → x = (.error ⟨.noTables, none⟩, start)) ∧
      ∀ limited, m.compileWithLimit? (settings.effectiveLimit requested) = some limited →
        (∀ f, store.connection connection = .error f →
          x.1 = .error ⟨.fault f, some limited.sql⟩ ∧ x.2.log = []) ∧
        (∀ e, x.1 = .error e → e.sql? = some limited.sql) ∧
        (∀ record, store.connection connection = .ok record →
          ((∃ s', opening w record s = (.returned (), s')) → statements x.2.log = [limited.sql]) ∧
          ((∀ s', opening w record s ≠ (.returned (), s')) → statements x.2.log = [])) ∧
        ∀ r, x.1 = .ok r ↔ r.sql = limited.sql ∧ m.compile?.map (·.warnings) = some r.warnings ∧
          ∃ record, store.connection connection = .ok record ∧
            Succeeds w record limited.sql s ⟨r.columns, r.rows⟩ := by
  intro start x
  refine ⟨fun hnone => ?_, fun connection hconnection => ?_⟩
  · simp only [x, Service.execute, hnone]
  intro settings s
  refine ⟨fun hnone => ?_, fun limited hlimited => ?_⟩
  · have hlimited : m.compileWithLimit? (settings.effectiveLimit requested) = none := by
      rw [Model.compileWithLimit?, hnone, Option.map_none]
    simp only [x, Service.execute, hconnection, settings, hlimited]
  -- what is left is the run within its limit, beside which the query and the warnings are known
  have hx : x = _ := execute_eq hconnection config requested hlimited start
  have hstatements := (runWithin_spec w store connection limited.sql settings.timeoutMs world).1
  rw [hx]
  refine ⟨fun f hf => ?_, fun e he => ?_, fun record hrecord => ?_, fun r => ?_⟩
  · rw [runWithin_of_unknown hf]
    exact ⟨rfl, rfl⟩
  · split at he
    · cases he
    · exact (Except.error.inj he) ▸ rfl
  · rw [hstatements]
    exact statements_runSql hrecord limited.sql s
  · have hreturns : (Service.runWithin w store connection limited.sql settings.timeoutMs start).1 =
        .ok ⟨r.columns, r.rows⟩ ↔ _ := runWithin_returns_iff
    rw [← hreturns, warnings_compileWithLimit hlimited]
    split
    · next q hq =>
      rw [hq]
      obtain ⟨columns, rows⟩ := q
      obtain ⟨sql, columns', rows', warnings⟩ := r
      simp only [Except.ok.injEq, ExecutionResult.mk.injEq, QueryResult.mk.injEq, Option.some.injEq]
      constructor
      · rintro ⟨hsql, hcolumns, hrows, hwarnings⟩
        exact ⟨hsql.symm, hwarnings, hcolumns, hrows⟩
      · rintro ⟨hsql, hwarnings, hcolumns, hrows⟩
        exact ⟨hsql.symm, hcolumns, hrows, hwarnings⟩
    · next f hf =>
      rw [hf]
      simp

/-- The run of a query with a row limit, in time. -/
theorem execute_attempts_scripted :
    let script : Script := { replies := [{ rows := [[("1", .integer 1)]] }] }
    let x := Service.execute scripted shortLimit oneConnection handWrittenModel (some 5)
      { scene := { world := script } }
    statements x.2.log = ["SELECT 1 LIMIT 5"] ∧ x.1 = .ok ⟨"SELECT 1 LIMIT 5", ["1"], [[("1", .integer 1)]], []⟩ := by
  intro script x
  obtain ⟨-, hconnected⟩ := execute_attempts scripted shortLimit oneConnection handWrittenModel (some 5) script
  obtain ⟨-, hlimited⟩ := hconnected "c" rfl
  obtain ⟨-, -, hstatements, hresult⟩ := hlimited ⟨"SELECT 1 LIMIT 5", [], []⟩ (by rfl)
  refine ⟨(hstatements ⟨"c", "", "", ""⟩ rfl).1 ⟨_, rfl⟩, (hresult _).2 ⟨rfl, rfl, ⟨"c", "", "", ""⟩, rfl, ?_⟩⟩
  exact ⟨_, _, _, rfl, ⟨_, _, _, rfl, .read rfl rfl, nofun, rfl⟩, rfl⟩

end JoinCanvas
