import JoinCanvas.Proofs.Warehouse.Sessions

/-!
# What a warehouse answers

Where time does not matter a query comes to an end with what the calls of the warehouse say: it is refused, or its rows
and columns are fetched as far as they can be, and its statement is closed.  Of a log this tells what was asked for: a
client, a session, and the queries in their order.

* `query_answers`: the outcome of a query and the scene behind it, from the calls of the warehouse.
* `start_of_opening`, `start_of_refused`: a session opens, or the fault of its opening is all that comes of it.
* `finish_closing`: the end of a session in which no statement runs.
-/

namespace JoinCanvas

variable {σ ω α : Type}

/-! ### What was asked for -/

/-- The call asks for something that must be closed. -/
def Event.asks : Event → Bool
  | .connect _ | .openSession | .execute _ => true
  | _ => false

/-- What was asked for, in order. -/
def asked (log : List Entry) : List Event :=
  (log.map (·.event)).filter Event.asks

@[simp] theorem asked_append (log more : List Entry) : asked (log ++ more) = asked log ++ asked more := by
  simp [asked]

@[simp] theorem asked_cons (e : Entry) (log : List Entry) :
    asked (e :: log) = (if e.event.asks then [e.event] else []) ++ asked log := by
  cases h : e.event.asks <;> simp [asked, h]

@[simp] theorem asked_nil : asked [] = [] := rfl

namespace Session

variable {w : Warehouse σ ω}

/-! ### Queries -/

/-- What comes of reading a statement: a fault of its rows, a fault of its columns, or its result. -/
inductive Reads (w : Warehouse σ ω) (operation : ω) (s : Scene σ) : Except Fault QueryResult → Scene σ → Prop where
  | rowsFail {f : Fault} {s₁ : Scene σ} (rows : w.fetch operation s = (.failed f, s₁)) :
      Reads w operation s (.error f) s₁
  | columnsFail {rows : List Json.Members} {f : Fault} {s₁ s₂ : Scene σ}
      (fetched : w.fetch operation s = (.returned rows, s₁)) (columns : w.schema operation s₁ = (.failed f, s₂)) :
      Reads w operation s (.error f) s₂
  | read {rows : List Json.Members} {columns : List String} {s₁ s₂ : Scene σ}
      (fetched : w.fetch operation s = (.returned rows, s₁)) (named : w.schema operation s₁ = (.returned columns, s₂)) :
      Reads w operation s (.ok ⟨columns, rows⟩) s₂

/-- What comes of a query: it is refused, or its statement is read and then closed, whatever comes of the close. -/
inductive Answers (w : Warehouse σ ω) (sql : String) (s : Scene σ) : Except Fault QueryResult → Scene σ → Prop where
  | refused {f : Fault} {s₁ : Scene σ} (execute : w.execute sql s = (.failed f, s₁)) : Answers w sql s (.error f) s₁
  | accepted {operation : ω} {s₁ s₂ : Scene σ} {outcome : Except Fault QueryResult}
      (execute : w.execute sql s = (.returned operation, s₁)) (reads : Reads w operation s₁ outcome s₂) :
      Answers w sql s outcome (w.closeOperation operation s₂).2

theorem result_reads (hw : w.Patient) (r : Running ω) {c : Course σ ω} (hleft : c.scene.left? = none) :
    ∃ outcome c', result w r c = Work.ofExcept outcome c' ∧ Reads w r.operation c.scene outcome c'.scene ∧
      asked c'.log = asked c.log := by
  obtain ⟨hfetch, hleft₁⟩ := hw.fetch r.operation c.scene hleft
  rcases hrows : w.fetch r.operation c.scene with ⟨rows | f | _, s₁⟩ <;> rw [hrows] at hfetch hleft₁
  · have hschema := (hw.schema r.operation s₁ hleft₁).1
    rw [result, Work.bind_returned (Work.call_of hrows _)]
    rcases hcolumns : w.schema r.operation s₁ with ⟨columns | f | _, s₂⟩ <;> rw [hcolumns] at hschema
    · refine ⟨.ok ⟨columns, rows⟩, _, Work.bind_returned (Work.call_of hcolumns _), .read hrows hcolumns, ?_⟩
      simp [Event.asks]
    · refine ⟨.error f, _, Work.bind_failed (Work.call_of hcolumns _), .columnsFail hrows hcolumns, ?_⟩
      simp [Event.asks]
    · exact absurd rfl hschema
  · refine ⟨.error f, _, Work.bind_failed (Work.call_of hrows _), .rowsFail hrows, ?_⟩
    simp [Event.asks]
  · exact absurd rfl hfetch

/-- A query ends with what the warehouse answers, and asks for one statement. -/
theorem query_answers (hw : w.Patient) (sql : String) {c : Course σ ω} (hleft : c.scene.left? = none) :
    ∃ outcome c', query w sql c = Work.ofExcept outcome c' ∧ Answers w sql c.scene outcome c'.scene ∧
      asked c'.log = asked c.log ++ [.execute sql] := by
  obtain ⟨hexecute, hleft₁⟩ := hw.execute sql c.scene hleft
  rw [query_eq]
  rcases hcall : w.execute sql c.scene with ⟨operation | f | _, s₁⟩ <;> rw [hcall] at hexecute hleft₁
  · rw [Work.bind_returned (Work.call_of hcall _), Work.bind_accept, Work.bind_hold]
    let r : Running ω := ⟨c.accepted, operation⟩
    let c₁ : Course σ ω := { c with
      scene := s₁
      log := c.log ++ [⟨.execute sql, true⟩]
      accepted := c.accepted + 1
      held := { c.held with operation? := some r } }
    obtain ⟨outcome, c₂, hresult, hreads, hasked⟩ := result_reads hw r (c := c₁) hleft₁
    have hleft₂ : c₂.scene.left? = none := by
      have hpatient := (result_patient hw r c₁ hleft₁).2
      rwa [hresult, Work.snd_ofExcept] at hpatient
    refine ⟨outcome, (report w r outcome c₂).2, ?_, ?_, ?_⟩
    · refine (Work.bind_returned (Work.attempt_ofExcept hresult)).trans ?_
      rw [report_snd, report, Work.bind_hold]
      exact Work.attempt_then_ofExcept (hw.closeOperation operation c₂.scene hleft₂).1 outcome
    · rw [report_snd]
      exact .accepted hcall hreads
    · rw [report_snd]
      simp [hasked, c₁, Event.asks]
  · refine ⟨.error f, _, Work.bind_failed (Work.call_of hcall _), .refused hcall, ?_⟩
    simp [Event.asks]
  · exact absurd rfl hexecute

theorem idle_of_query (hw : w.Patient) {sql : String} {c c' : Course σ ω} {outcome : Except Fault QueryResult}
    (hc : Idle c) (hleft : c.scene.left? = none) (h : query w sql c = Work.ofExcept outcome c') :
    Idle c' ∧ c'.scene.left? = none := by
  obtain ⟨hbalanced, hsession, hfree⟩ := query_settled w sql hc
  obtain ⟨hcut, hleft'⟩ := query_patient hw sql c hleft
  have hsnd : (query w sql c).2 = c' := by rw [h, Work.snd_ofExcept]
  rw [hsnd] at hbalanced hsession hfree hleft'
  exact ⟨⟨hbalanced, hsession, hfree hcut⟩, hleft'⟩

/-! ### The ends of a session -/

/-- The opening of a session on a client of its own. -/
def opening (w : Warehouse σ ω) (connection : Connection) : Task σ Unit := do
  w.connect connection
  w.openSession

theorem opening_patient (hw : w.Patient) (connection : Connection) : (opening w connection).Patient :=
  (hw.connect connection).andThen fun _ => hw.openSession

theorem start_of_opening {connection : Connection} {s s' : Scene σ} (h : opening w connection s = (.returned (), s')) :
    start w connection { scene := s } = (.returned (), opened connection.id s') := by
  change Task.andThen (w.connect connection) (fun _ => w.openSession) s = _ at h
  unfold Task.andThen at h
  rcases hconnect : w.connect connection s with ⟨u | f | _, s₁⟩ <;> rw [hconnect] at h
  · rw [start, Work.bind_returned (Work.call_of hconnect _)]
    exact Work.bind_returned (Work.attempt_returned (Work.call_of h _))
  · exact absurd h nofun
  · exact absurd h nofun

/-- Of a session that does not open nothing else comes but the fault of its opening. -/
theorem start_of_refused (hw : w.Patient) {connection : Connection} {s s' : Scene σ} {f : Fault}
    (hleft : s.left? = none) (h : opening w connection s = (.failed f, s')) :
    ∃ c, start w connection { scene := s } = (.failed f, c) ∧ asked c.log <+: [.connect connection.id, .openSession] ∧
      Over c.log := by
  obtain ⟨c, hstart, hasked⟩ :
      ∃ c, start w connection { scene := s } = (.failed f, c) ∧
        asked c.log <+: [.connect connection.id, .openSession] := by
    have hleft' := (opening_patient hw connection s hleft).2
    rw [h] at hleft'
    change Task.andThen (w.connect connection) (fun _ => w.openSession) s = _ at h
    unfold Task.andThen at h
    rcases hconnect : w.connect connection s with ⟨u | g | _, s₁⟩ <;> rw [hconnect] at h
    · have hclose := (hw.closeClient s' hleft').1
      rw [start, Work.bind_returned (Work.call_of hconnect _),
        Work.bind_returned (Work.attempt_failed (Work.call_of h _))]
      refine ⟨_, Work.attempt_then_ofExcept hclose (.error f), ?_⟩
      simp [Work.call, Event.asks]
    · obtain ⟨hg, rfl⟩ := Prod.mk.inj h
      exact ⟨_, hg ▸ Work.bind_failed (Work.call_of hconnect _), by simp [Event.asks]⟩
    · cases h
  refine ⟨c, hstart, hasked, ?_⟩
  have hcases := start_cases w connection s
  rw [hstart] at hcases
  rcases hcases with ⟨-, ⟨hreturned, -⟩ | ⟨-, -, hover⟩⟩ | ⟨-, hcut, -⟩
  · cases hreturned
  · exact hover
  · cases hcut

theorem asked_giveUp (drop : Held ω → Held ω) {close? : Option (Event × Task σ Unit)}
    (h : ∀ x ∈ close?, x.1.asks = false) (c : Course σ ω) : asked (giveUp drop close? c).2.log = asked c.log := by
  cases close? with
  | none => rfl
  | some x =>
    change asked (c.log ++ [⟨x.1, _⟩]) = asked c.log
    simp [h x rfl]

theorem asked_closes (w : Warehouse σ ω) (c : Course σ ω) :
    asked (closeClient w (closeSession w (closeOperation w c).2).2).2.log = asked c.log := by
  rw [closeClient_eq, asked_giveUp, closeSession_eq, asked_giveUp, closeOperation_eq, asked_giveUp]
  · intro x hx
    obtain ⟨r, -, rfl⟩ := Option.map_eq_some_iff.1 hx
    rfl
  · intro x hx
    obtain ⟨-, ⟨⟩⟩ := Option.ite_none_right_eq_some.1 hx
    rfl
  · intro x hx
    obtain ⟨-, ⟨⟩⟩ := Option.ite_none_right_eq_some.1 hx
    rfl

/-- The faults of closing a session and its client. -/
def closingFaults (w : Warehouse σ ω) (s : Scene σ) : List Fault :=
  (Task.series [w.closeSession, w.closeClient] s).1

theorem closeFaults_of_idle (w : Warehouse σ ω) {c : Course σ ω} (hc : Idle c) (hleft : c.scene.left? = none) :
    closeFaults w c = closingFaults w c.scene := by
  obtain ⟨hbalanced, hsession, hfree⟩ := hc
  have hscene : { c.scene with left? := none } = c.scene := by rw [← hleft]
  simp [closeFaults, closingFaults, dueCloses, operationClose?, sessionClose?, clientClose?, hfree, hsession,
    hbalanced.session_client hsession, hscene]

/-- The end of a session in which no statement runs closes the session and the client, and asks for nothing. -/
theorem finish_closing (hw : w.Patient) (outcome : Except Fault α) {c : Course σ ω} (hc : Idle c)
    (hleft : c.scene.left? = none) :
    ∃ c', finish w outcome c = Work.ofExcept (outcome >>= firstOf (closingFaults w c.scene)) c' ∧
      asked c'.log = asked c.log ∧ Over c'.log := by
  refine ⟨(closeAll w c).2, ?_, ?_, closeAll_over hw hc.1 hleft⟩
  · rw [finish_eq hw outcome hleft, closeFaults_of_idle w hc hleft]
  · rw [closeAll_eq hw hleft]
    exact asked_closes w c

end Session

end JoinCanvas
