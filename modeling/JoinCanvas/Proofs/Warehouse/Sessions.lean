import JoinCanvas.Proofs.Warehouse.Ledger
import JoinCanvas.Proofs.Warehouse.Work

/-!
# Closing what was handed out

While a session is in use the log of its calls is balanced, and when it ends nothing is held any more, whichever calls
fail.

* `query_settled`: a query closes its statement, unless it is cut off.
* `closeAll_eq`, `finish_eq`: the closes at the end of a session, and what it returns.
* `visit_closes`: in every use of a session all that was handed out is closed once and in order.
-/

namespace JoinCanvas

variable {σ ω α : Type}

/-! ### Queries -/

/-- An open session: the log is balanced, and this is held. -/
def Opened (held : Held ω) (c : Course σ ω) : Prop :=
  c.Balanced ∧ c.held = held ∧ held.session = true

/-- An open session in which no statement runs. -/
def Idle (c : Course σ ω) : Prop :=
  c.Balanced ∧ c.held.session = true ∧ c.held.operation? = none

/-- A call that hands out nothing and closes nothing keeps a session open. -/
theorem keeps_call (held : Held ω) (event : Event) (t : Task σ α) (hsql : event.sql? = none)
    (hopen : event ≠ .openSession) (hconnect : event.isConnect = false)
    (hcloses : ∀ r : Resource, event ≠ r.closing) : (Work.call event t : Work σ ω α).Keeps (Opened held) := by
  rintro c ⟨hc, rfl, hsession⟩
  exact ⟨hc.noted hsession _ (Or.inr ⟨hsql, hopen, hconnect⟩) hcloses, rfl, hsession⟩

namespace Session

variable {w : Warehouse σ ω}

theorem keeps_result (w : Warehouse σ ω) (r : Running ω) (held : Held ω) :
    (result w r).Keeps (Opened held) := by
  have hfetch := keeps_call held (.fetch r.number) (w.fetch r.operation) rfl nofun rfl
    (fun s => by cases s <;> nofun)
  have hschema := keeps_call held (.schema r.number) (w.schema r.operation) rfl nofun rfl
    (fun s => by cases s <;> nofun)
  exact hfetch.andThen fun _ => hschema.andThen fun _ _ h => h

/-- Giving up a statement whose result was read, or could not be read. -/
def report (w : Warehouse σ ω) (r : Running ω) (outcome : Except Fault QueryResult) : Work σ ω QueryResult := do
  Work.hold fun h => { h with operation? := none }
  let _ ← Work.attempt (Work.call (.closeOperation r.number) (w.closeOperation r.operation))
  Work.ofExcept outcome

theorem query_eq (w : Warehouse σ ω) (sql : String) : query w sql = (do
    let operation ← Work.call (.execute sql) (w.execute sql)
    let n ← Work.accept
    Work.hold fun h => { h with operation? := some ⟨n, operation⟩ }
    let outcome ← Work.attempt (result w ⟨n, operation⟩)
    report w ⟨n, operation⟩ outcome) :=
  rfl

theorem report_snd (w : Warehouse σ ω) (r : Running ω) (outcome : Except Fault QueryResult) (c : Course σ ω) :
    (report w r outcome c).2 = { c with
      scene := (w.closeOperation r.operation c.scene).2
      log := c.log ++ [⟨.closeOperation r.number, (w.closeOperation r.operation c.scene).1.isReturned⟩]
      held := { c.held with operation? := none } } := by
  rw [report, Work.bind_hold]
  exact Work.snd_attempt_then _ outcome _

/-- What is left of a session in which a query ran: its statement is running only when it was cut off. -/
def Settled (x : Outcome α × Course σ ω) : Prop :=
  x.2.Balanced ∧ x.2.held.session = true ∧ (x.1 ≠ .cutOff → x.2.held.operation? = none)

theorem report_settled (w : Warehouse σ ω) {r : Running ω} {held : Held ω} (hr : held.operation? = some r)
    {c : Course σ ω} (hc : Opened held c) (outcome : Except Fault QueryResult) : Settled (report w r outcome c) := by
  obtain ⟨hbalanced, rfl, hsession⟩ := hc
  unfold Settled
  rw [report_snd]
  exact ⟨hbalanced.dropsOperation hr _ _, hsession, fun _ => rfl⟩

/-- A query leaves the session open, and closes its statement whatever comes of it, unless it is cut off. -/
theorem query_settled (w : Warehouse σ ω) (sql : String) {c : Course σ ω} (hc : Idle c) :
    Settled (query w sql c) := by
  obtain ⟨hc, hsession, hfree⟩ := hc
  -- a statement that is not accepted only leaves a call in the log
  have hrefused := hc.noted hsession (w.execute sql c.scene).2 (e := ⟨.execute sql, false⟩) (Or.inl rfl)
    (fun r => by cases r <;> nofun)
  rw [query_eq]
  rcases hexecute : w.execute sql c.scene with ⟨operation | f | _, s⟩
  · let r : Running ω := ⟨c.accepted, operation⟩
    let c' : Course σ ω := { c with
      scene := s
      log := c.log ++ [⟨.execute sql, true⟩]
      accepted := c.accepted + 1
      held := { c.held with operation? := some r } }
    have hopened : Opened c'.held c' := ⟨hc.accepts hsession hfree s sql operation, rfl, hsession⟩
    have hread := keeps_result w r c'.held c' hopened
    rw [Work.bind_returned (Work.call_of hexecute _), Work.bind_accept, Work.bind_hold]
    change Settled ((Work.attempt (result w r) >>= report w r) c')
    rcases hresult : result w r c' with ⟨rows | f | _, c''⟩ <;> rw [hresult] at hread
    · rw [Work.bind_returned (Work.attempt_returned hresult)]
      exact report_settled w rfl hread (.ok rows)
    · rw [Work.bind_returned (Work.attempt_failed hresult)]
      exact report_settled w rfl hread (.error f)
    · rw [Work.bind_cutOff (Work.attempt_cutOff hresult)]
      exact ⟨hread.1, hread.2.1 ▸ hsession, fun h => absurd rfl h⟩
  · rw [Work.bind_failed (Work.call_of hexecute _)]
    rw [hexecute] at hrefused
    exact ⟨hrefused, hsession, fun _ => hfree⟩
  · rw [Work.bind_cutOff (Work.call_of hexecute _)]
    rw [hexecute] at hrefused
    exact ⟨hrefused, hsession, fun _ => hfree⟩

theorem result_patient (hw : w.Patient) (r : Running ω) : (result w r).Patient :=
  (Work.patient_call _ (hw.fetch r.operation)).andThen fun _ =>
    (Work.patient_call _ (hw.schema r.operation)).andThen fun _ => Work.patient_give _

theorem query_patient (hw : w.Patient) (sql : String) : (query w sql).Patient := by
  refine (Work.patient_call _ (hw.execute sql)).andThen fun operation => Work.patient_accept.andThen fun n =>
    (Work.patient_hold _).andThen fun _ => (result_patient hw ⟨n, operation⟩).attempt.andThen fun outcome =>
    (Work.patient_hold _).andThen fun _ => ?_
  exact (Work.patient_call _ (hw.closeOperation operation)).attempt.andThen fun _ => Work.patient_ofExcept outcome

/-! ### The end of a session -/

/-- Gives something up and closes it, if there is something. -/
def giveUp (drop : Held ω → Held ω) (close? : Option (Event × Task σ Unit)) : Work σ ω Unit :=
  match close? with
  | some (event, task) => do
    Work.hold drop
    Work.call event task
  | none => return ()

theorem giveUp_patient (drop : Held ω → Held ω) {close? : Option (Event × Task σ Unit)}
    (h : ∀ x ∈ close?, x.2.Patient) : (giveUp drop close?).Patient := by
  cases close? with
  | none => exact Work.patient_give _
  | some x => exact (Work.patient_hold _).andThen fun _ => Work.patient_call _ (h x rfl)

theorem giveUp_held {drop : Held ω → Held ω} {close? : Option (Event × Task σ Unit)} {c : Course σ ω}
    (h : close? = none → drop c.held = c.held) : (giveUp drop close? c).2.held = drop c.held := by
  cases close? with
  | none => exact (h rfl).symm
  | some x => rfl

theorem giveUp_series (drop : Held ω → Held ω) (close? : Option (Event × Task σ Unit)) (c : Course σ ω) :
    Task.series (close?.toList.map (·.2)) c.scene =
      ((giveUp drop close? c).1.fault?.toList, (giveUp drop close? c).2.scene) := by
  cases close? with
  | none => rfl
  | some x => exact Prod.ext (List.append_nil _) rfl

def operationClose? (w : Warehouse σ ω) (h : Held ω) : Option (Event × Task σ Unit) :=
  h.operation?.map fun r => (.closeOperation r.number, w.closeOperation r.operation)

def sessionClose? (w : Warehouse σ ω) (h : Held ω) : Option (Event × Task σ Unit) :=
  if h.session then some (.closeSession, w.closeSession) else none

def clientClose? (w : Warehouse σ ω) (h : Held ω) : Option (Event × Task σ Unit) :=
  if h.client then some (.closeClient, w.closeClient) else none

theorem closeOperation_eq (w : Warehouse σ ω) (c : Course σ ω) :
    closeOperation w c = giveUp (fun h => { h with operation? := none }) (operationClose? w c.held) c := by
  rw [closeOperation, Work.bind_held, operationClose?]
  cases c.held.operation? <;> rfl

theorem closeSession_eq (w : Warehouse σ ω) (c : Course σ ω) :
    closeSession w c = giveUp (fun h => { h with session := false }) (sessionClose? w c.held) c := by
  rw [closeSession, Work.bind_held, sessionClose?]
  cases c.held.session <;> rfl

theorem closeClient_eq (w : Warehouse σ ω) (c : Course σ ω) :
    closeClient w c = giveUp (fun h => { h with client := false }) (clientClose? w c.held) c := by
  rw [closeClient, Work.bind_held, clientClose?]
  cases c.held.client <;> rfl

theorem closeOperation_held (w : Warehouse σ ω) (c : Course σ ω) :
    (closeOperation w c).2.held = { c.held with operation? := none } := by
  rw [closeOperation_eq]
  refine giveUp_held fun h => ?_
  rw [← Option.map_eq_none_iff.1 h]

theorem closeSession_held (w : Warehouse σ ω) (c : Course σ ω) :
    (closeSession w c).2.held = { c.held with session := false } := by
  rw [closeSession_eq]
  refine giveUp_held fun h => ?_
  have hfalse : c.held.session = false := by simpa [sessionClose?] using h
  rw [← hfalse]

theorem closeClient_held (w : Warehouse σ ω) (c : Course σ ω) :
    (closeClient w c).2.held = { c.held with client := false } := by
  rw [closeClient_eq]
  refine giveUp_held fun h => ?_
  have hfalse : c.held.client = false := by simpa [clientClose?] using h
  rw [← hfalse]

theorem closeOperation_balanced (w : Warehouse σ ω) {c : Course σ ω} (hc : c.Balanced) :
    (closeOperation w c).2.Balanced := by
  rw [closeOperation, Work.bind_held]
  cases hr : c.held.operation? with
  | none => exact hc
  | some r => exact hc.dropsOperation hr _ _

theorem closeSession_balanced (w : Warehouse σ ω) {c : Course σ ω} (hc : c.Balanced)
    (hfree : c.held.operation? = none) : (closeSession w c).2.Balanced := by
  rw [closeSession, Work.bind_held]
  cases hs : c.held.session with
  | false => exact hc
  | true => exact hc.dropsSession hs hfree _ _

theorem closeClient_balanced (w : Warehouse σ ω) {c : Course σ ω} (hc : c.Balanced) (hs : c.held.session = false) :
    (closeClient w c).2.Balanced := by
  rw [closeClient, Work.bind_held]
  cases hclient : c.held.client with
  | false => exact hc
  | true => exact hc.dropsClient hclient hs _ _

theorem closes_balanced (w : Warehouse σ ω) {c : Course σ ω} (hc : c.Balanced) :
    (closeClient w (closeSession w (closeOperation w c).2).2).2.Balanced := by
  have hoperation := closeOperation_balanced w hc
  have hsession := closeSession_balanced w hoperation (by rw [closeOperation_held])
  exact closeClient_balanced w hsession (by rw [closeSession_held])

/-- After the closes nothing is held. -/
theorem closes_held (w : Warehouse σ ω) (c : Course σ ω) (r : Resource) :
    (closeClient w (closeSession w (closeOperation w c).2).2).2.held.holds r = false := by
  rw [closeClient_held, closeSession_held, closeOperation_held]
  cases r <;> rfl

theorem closeOperation_patient (hw : w.Patient) : (closeOperation w).Patient := by
  intro c hc
  rw [closeOperation_eq]
  refine giveUp_patient _ (fun x hx => ?_) c hc
  obtain ⟨r, -, rfl⟩ := Option.map_eq_some_iff.1 hx
  exact hw.closeOperation r.operation

theorem closeSession_patient (hw : w.Patient) : (closeSession w).Patient := by
  intro c hc
  rw [closeSession_eq]
  refine giveUp_patient _ (fun x hx => ?_) c hc
  obtain ⟨-, hx⟩ := Option.ite_none_right_eq_some.1 hx
  obtain rfl := Option.some.inj hx
  exact hw.closeSession

theorem closeClient_patient (hw : w.Patient) : (closeClient w).Patient := by
  intro c hc
  rw [closeClient_eq]
  refine giveUp_patient _ (fun x hx => ?_) c hc
  obtain ⟨-, hx⟩ := Option.ite_none_right_eq_some.1 hx
  obtain rfl := Option.some.inj hx
  exact hw.closeClient

/-- The closes that are due at the end of a session, in their order. -/
def dueCloses (w : Warehouse σ ω) (h : Held ω) : List (Task σ Unit) :=
  ((operationClose? w h).toList ++ ((sessionClose? w h).toList ++ (clientClose? w h).toList)).map (·.2)

/-- The faults of the closes at the end of a session. -/
def closeFaults (w : Warehouse σ ω) (c : Course σ ω) : List Fault :=
  (Task.series (dueCloses w c.held) { c.scene with left? := none }).1

theorem closeFaults_eq (w : Warehouse σ ω) {c : Course σ ω} (hc : c.scene.left? = none) :
    let c₁ := (closeOperation w c).2
    let c₂ := (closeSession w c₁).2
    closeFaults w c = (closeOperation w c).1.fault?.toList ++
      ((closeSession w c₁).1.fault?.toList ++ (closeClient w c₂).1.fault?.toList) := by
  intro c₁ c₂
  have hscene : { c.scene with left? := none } = c.scene := by rw [← hc]
  have hfirst : Task.series ((operationClose? w c.held).toList.map (·.2)) c.scene =
      ((closeOperation w c).1.fault?.toList, c₁.scene) := by
    simp only [c₁, closeOperation_eq]
    exact giveUp_series _ _ c
  have hsecond : Task.series ((sessionClose? w c.held).toList.map (·.2)) c₁.scene =
      ((closeSession w c₁).1.fault?.toList, c₂.scene) := by
    have hheld : sessionClose? w c.held = sessionClose? w c₁.held := by rw [closeOperation_held]; rfl
    simp only [c₂, closeSession_eq, hheld]
    exact giveUp_series _ _ c₁
  have hthird : Task.series ((clientClose? w c.held).toList.map (·.2)) c₂.scene =
      ((closeClient w c₂).1.fault?.toList, (closeClient w c₂).2.scene) := by
    have hheld : clientClose? w c.held = clientClose? w c₂.held := by rw [closeSession_held, closeOperation_held]; rfl
    simp only [closeClient_eq, hheld]
    exact giveUp_series _ _ c₂
  simp only [closeFaults, dueCloses, hscene, List.map_append, Task.series_append, hfirst, hsecond, hthird]

/-- The end of a session makes the closes that are due, and returns the first of their faults. -/
theorem closeAll_eq (hw : w.Patient) {c : Course σ ω} (hc : c.scene.left? = none) :
    closeAll w c = (.returned (firstOf (closeFaults w c) ()),
      (closeClient w (closeSession w (closeOperation w c).2).2).2) := by
  obtain ⟨hcut₁, hleft₁⟩ := closeOperation_patient hw c hc
  obtain ⟨hcut₂, hleft₂⟩ := closeSession_patient hw _ hleft₁
  obtain ⟨hcut₃, -⟩ := closeClient_patient hw _ hleft₂
  rw [closeFaults_eq w hc, ← firstOf_append, ← firstOf_append, closeAll,
    Work.bind_returned (Work.attempt_of_not_cutOff hcut₁), Work.bind_returned (Work.attempt_of_not_cutOff hcut₂),
    Work.bind_returned (Work.attempt_of_not_cutOff hcut₃)]
  rfl

theorem closeAll_over (hw : w.Patient) {c : Course σ ω} (hc : c.Balanced)
    (hleft : c.scene.left? = none) : Over (closeAll w c).2.log := by
  rw [closeAll_eq hw hleft]
  exact over_of_balanced (closes_balanced w hc) (closes_held w c)

/-- The end of a session with an outcome: the fault of the work counts before those of the closes. -/
theorem finish_eq (hw : w.Patient) (outcome : Except Fault α) {c : Course σ ω}
    (hc : c.scene.left? = none) :
    finish w outcome c = Work.ofExcept (outcome >>= firstOf (closeFaults w c)) (closeAll w c).2 := by
  have hall := closeAll_eq hw hc
  rw [finish, Work.bind_returned hall, hall]
  cases outcome <;> cases closeFaults w c <;> rfl

/-! ### The use of a session -/

/-- What opening a session goes on with when it has a client. -/
def openOn (w : Warehouse σ ω) : Work σ ω Unit := do
  match ← Work.attempt (Work.call .openSession w.openSession) with
  | .ok _ => Work.hold fun _ => { session := true, client := true }
  | .error f =>
    let _ ← Work.attempt (Work.call .closeClient w.closeClient)
    Work.fail f

/-- A session is open, or nothing is held and all that was handed out is closed. -/
def OpenedOrOver (x : Outcome Unit × Course σ ω) : Prop :=
  (x.1 = .returned () ∧ Idle x.2) ∨ (x.1 ≠ .returned () ∧ x.2.held = {} ∧ Over x.2.log)

/-- A client is left that is neither held nor closed. -/
def LeavesClient (connection : String) (x : Outcome α × Course σ ω) : Prop :=
  x.1 = .cutOff ∧ x.2.held = {} ∧ x.2.log = [⟨.connect connection, true⟩, ⟨.openSession, false⟩]

/-- A session that has just been opened. -/
def opened (connection : String) (s : Scene σ) : Course σ ω :=
  { scene := s
    log := [⟨.connect connection, true⟩, ⟨.openSession, true⟩]
    held := { session := true, client := true } }

theorem idle_opened (connection : String) (s : Scene σ) : Idle (opened connection s : Course σ ω) := by
  refine ⟨⟨rfl, fun r => ?_, ?_, nofun, fun _ => rfl⟩, rfl, rfl⟩
  · cases r <;> rfl
  · simp [InOrder, opened]

/-- A session opens on a client, or the client is closed again, unless the opening is cut off. -/
theorem openOn_cases (w : Warehouse σ ω) (connection : String) (s : Scene σ) :
    let x := openOn w { scene := s, log := [⟨.connect connection, true⟩] }
    ((w.openSession s).1 ≠ .cutOff ∧ OpenedOrOver x) ∨ ((w.openSession s).1 = .cutOff ∧ LeavesClient connection x) := by
  intro x
  rcases hopen : w.openSession s with ⟨u | f | _, s'⟩
  · have hx : x = (.returned (), opened connection s') :=
      Work.bind_returned (Work.attempt_returned (Work.call_of hopen _))
    rw [hx]
    exact Or.inl ⟨nofun, Or.inl ⟨rfl, idle_opened connection s'⟩⟩
  · let c : Course σ ω := { scene := s', log := [⟨.connect connection, true⟩, ⟨.openSession, false⟩] }
    have hx : x = (do
        let _ ← Work.attempt (Work.call .closeClient w.closeClient)
        Work.ofExcept (.error f) : Work σ ω Unit) c :=
      Work.bind_returned (Work.attempt_failed (Work.call_of hopen _))
    have hne : x.1 ≠ .returned () := hx ▸ Work.attempt_then_error_ne _ f c ()
    have hsnd : x.2 = (Work.call .closeClient w.closeClient c).2 := hx ▸ Work.snd_attempt_then _ _ c
    refine Or.inl ⟨nofun, Or.inr ⟨hne, by rw [hsnd]; rfl, fun r => ?_, ?_⟩⟩
    · cases r <;>
        simp [hsnd, Work.call, c, closes, handedOut, acceptedIn, Resource.closing, Event.isConnect, Event.sql?]
    · simp [hsnd, InOrder, Work.call, c]
  · have hx : x = (.cutOff, { scene := s', log := [⟨.connect connection, true⟩, ⟨.openSession, false⟩] }) :=
      Work.bind_cutOff (Work.attempt_cutOff (Work.call_of hopen _))
    rw [hx]
    exact Or.inr ⟨rfl, rfl, rfl, rfl⟩

/-- The opening of a session is cut off, on a client that was handed out. -/
def CutOffOpening (w : Warehouse σ ω) (connection : Connection) (s : Scene σ) : Prop :=
  ∃ s', w.connect connection s = (.returned (), s') ∧ (w.openSession s').1 = .cutOff

/-- A session opens, or all that was handed out for it is closed again, unless the opening is cut off. -/
theorem start_cases (w : Warehouse σ ω) (connection : Connection) (s : Scene σ) :
    let x := start w connection { scene := s }
    (¬ CutOffOpening w connection s ∧ OpenedOrOver x) ∨
      (CutOffOpening w connection s ∧ LeavesClient connection.id x) := by
  intro x
  have hrefused : ∀ outcome s', outcome ≠ .returned () → w.connect connection s = (outcome, s') →
      x = (outcome, { scene := s', log := [⟨.connect connection.id, false⟩] }) →
      ¬ CutOffOpening w connection s ∧ OpenedOrOver x := by
    intro outcome s' hne hconnect hx
    refine ⟨fun ⟨s'', h, _⟩ => hne (Prod.mk.inj (hconnect.symm.trans h)).1, Or.inr ?_⟩
    rw [hx]
    refine ⟨hne, rfl, fun r => ?_, List.pairwise_singleton _ _⟩
    cases r <;> rfl
  rcases hconnect : w.connect connection s with ⟨u | f | _, s'⟩
  · have hx : x = openOn w { scene := s', log := [⟨.connect connection.id, true⟩] } :=
      Work.bind_returned (Work.call_of hconnect _)
    rw [hx]
    rcases openOn_cases w connection.id s' with ⟨hne, h⟩ | ⟨hcut, h⟩
    · refine Or.inl ⟨fun ⟨s'', hs, hcut⟩ => hne ?_, h⟩
      rwa [(Prod.mk.inj (hconnect.symm.trans hs)).2]
    · exact Or.inr ⟨⟨s', hconnect, hcut⟩, h⟩
  · exact Or.inl (hrefused (.failed f) s' nofun hconnect (Work.bind_failed (Work.call_of hconnect _)))
  · exact Or.inl (hrefused .cutOff s' nofun hconnect (Work.bind_cutOff (Work.call_of hconnect _)))

theorem start_patient (hw : w.Patient) (connection : Connection) : (start w connection).Patient := by
  refine (Work.patient_call _ (hw.connect connection)).andThen fun _ =>
    (Work.patient_call _ hw.openSession).attempt.andThen fun opened => ?_
  cases opened with
  | ok _ => exact Work.patient_hold _
  | error f => exact (Work.patient_call _ hw.closeClient).attempt.andThen fun _ => Work.patient_fail f

/-- A session opens, or all that was handed out for it is closed again. -/
theorem start_idle (hw : w.Patient) (connection : Connection) (world : σ) :
    let x := start w connection { scene := { world } }
    (x.1 = .returned () ∧ Idle x.2) ∨ (∃ f, x.1 = .failed f) ∧ Over x.2.log := by
  intro x
  have hcut : x.1 ≠ .cutOff := (start_patient hw connection _ rfl).1
  rcases start_cases w connection { world } with ⟨-, ⟨hx, hidle⟩ | ⟨hx, -, hover⟩⟩ | ⟨-, hx, -⟩
  · exact Or.inl ⟨hx, hidle⟩
  · refine Or.inr ⟨?_, hover⟩
    rcases h : x.1 with _ | f | _
    · exact absurd h hx
    · exact ⟨f, rfl⟩
    · exact absurd h hcut
  · exact absurd hx hcut

/-- A query that may be cut off leaves the log balanced; one that is not cut off leaves no statement. -/
theorem query_within (w : Warehouse σ ω) (sql : String) (limit? : Option Nat) {c : Course σ ω} (hc : Idle c) :
    Settled ((query w sql { c with scene := { c.scene with left? := limit? } }).1,
      (Work.within limit? (query w sql) c).2) := by
  obtain ⟨hbalanced, hsession, hfree⟩ := hc
  obtain ⟨hbalanced, hsession, hfree⟩ := query_settled w sql
    ⟨hbalanced.inScene { c.scene with left? := limit? }, hsession, hfree⟩
  exact ⟨hbalanced.inScene _, hsession, hfree⟩

theorem query_idle (hw : w.Patient) (sql : String) {c : Course σ ω} (hc : Idle c) :
    Idle (Work.within none (query w sql) c).2 := by
  obtain ⟨hbalanced, hsession, hfree⟩ := query_within w sql none hc
  exact ⟨hbalanced, hsession, hfree (query_patient hw sql _ rfl).1⟩

theorem queries_idle (hw : w.Patient) (queries : List String) {c : Course σ ω} (hc : Idle c) :
    Idle (queries.foldl (fun c sql => (Work.within none (query w sql) c).2) c) := by
  induction queries generalizing c with
  | nil => exact hc
  | cons sql rest ih => exact ih (query_idle hw sql hc)

/-- A session that ends with an outcome leaves what one leaves that is dropped. -/
theorem finish_within (hw : w.Patient) (outcome : Except Fault α) (c : Course σ ω) :
    Work.within none (finish w outcome) c = (some (outcome >>= firstOf (closeFaults w c)),
      { abandon w c with scene := { (abandon w c).scene with left? := none } }) :=
  Work.within_ofExcept (finish_eq hw outcome rfl)

theorem abandon_over (hw : w.Patient) {c : Course σ ω} (hc : c.Balanced) : Over (abandon w c).log :=
  closeAll_over hw (hc.inScene { c.scene with left? := none }) rfl

end Session

open Session

/-- How the use of a session ends: an outcome is handed in, or the session is dropped. -/
inductive Ending (α : Type) where
  | finish (outcome : Except Fault α)
  | drop

/-- The use of a session: queries one after another, perhaps a last one that may be cut off when its time is up, and
the end. -/
structure Visit (α : Type) where
  queries : List String := []
  last? : Option (String × Nat) := none
  ending : Ending α

namespace Visit

def queried (v : Visit α) (w : Warehouse σ ω) (c : Course σ ω) : Course σ ω :=
  let c := v.queries.foldl (fun c sql => (Work.within none (query w sql) c).2) c
  match v.last? with
  | some (sql, limit) => (Work.within (some limit) (query w sql) c).2
  | none => c

def ended (v : Visit α) (w : Warehouse σ ω) (c : Course σ ω) : Course σ ω :=
  match v.ending with
  | .finish outcome => (Work.within none (finish w outcome) c).2
  | .drop => abandon w c

/-- The whole use of a session in a world.  When the session does not open nothing else is done. -/
def course (v : Visit α) (w : Warehouse σ ω) (connection : Connection) (world : σ) : Course σ ω :=
  match Work.within none (start w connection) { scene := { world } } with
  | (some (.ok _), c) => v.ended w (v.queried w c)
  | (_, c) => c

variable {w : Warehouse σ ω}

theorem queried_balanced (hw : w.Patient) (v : Visit α) {c : Course σ ω} (hc : Idle c) : (v.queried w c).Balanced := by
  have hidle := queries_idle hw v.queries hc
  unfold queried
  rcases v.last? with _ | ⟨sql, limit⟩
  · exact hidle.1
  · exact (query_within w sql (some limit) hidle).1

theorem ended_over (hw : w.Patient) (v : Visit α) {c : Course σ ω} (hc : c.Balanced) : Over (v.ended w c).log := by
  unfold ended
  cases v.ending with
  | drop => exact abandon_over hw hc
  | finish outcome =>
    change Over (Work.within none (finish w outcome) c).2.log
    rw [finish_within hw]
    exact abandon_over hw hc

theorem course_over (hw : w.Patient) (v : Visit α) (connection : Connection) (world : σ) :
    Over (v.course w connection world).log := by
  have hidle := start_idle hw connection world
  unfold course
  rcases hstart : start w connection { scene := { world } } with ⟨outcome, c⟩
  simp only [hstart] at hidle
  rcases hidle with ⟨rfl, hbalanced, hsession, hfree⟩ | ⟨⟨f, rfl⟩, hover⟩
  · rw [Work.within_returned hstart]
    exact v.ended_over hw (v.queried_balanced hw ⟨hbalanced.inScene _, hsession, hfree⟩)
  · rw [Work.within_failed hstart]
    exact hover

end Visit

/-- In every use of a session, whichever calls fail, each client, session and statement that was handed out is closed
once, statements before the session and the session before the client, and nothing is executed after that.  The end of
a session returns the fault of the work, or else the first fault of the closes that it makes, or else the value. -/
theorem visit_closes {w : Warehouse σ ω} (hw : w.Patient) :
    (∀ (v : Visit α) (connection : Connection) (world : σ), Over (v.course w connection world).log) ∧
    ∀ (outcome : Except Fault α) (c : Course σ ω),
      (Work.within none (finish w outcome) c).1 = some (outcome >>= firstOf (closeFaults w c)) := by
  refine ⟨fun v connection world => v.course_over hw connection world, fun outcome c => ?_⟩
  rw [finish_within hw]

/-- A warehouse that fails to read its first statement, takes long over the second, and fails to close anything. -/
def failingScript : Script :=
  { replies :=
      [{ fetchError? := some "expired", closeError? := some "gone" }, { delay := 50, closeError? := some "gone" }]
    closeSessionError? := some "gone"
    closeClientError? := some "gone" }

/-- A session that is dropped while its second query waits. -/
def droppedVisit : Visit Unit :=
  { queries := ["SELECT 1"], last? := some ("SELECT 2", 10), ending := .drop }

theorem visit_closes_failing : scripted.Patient ∧
    Over (droppedVisit.course scripted ⟨"c", "", "", ""⟩ failingScript).log ∧
    ∀ c, (Work.within none (finish scripted (.ok ())) c).1 = some (firstOf (closeFaults scripted c) ()) :=
  ⟨scripted_patient, (visit_closes scripted_patient).1 droppedVisit _ failingScript,
    (visit_closes scripted_patient).2 (.ok ())⟩

/-- The statement that waits is closed with the session. -/
example : (droppedVisit.course scripted ⟨"c", "", "", ""⟩ failingScript).log.map (·.event) =
    [.connect "c", .openSession, .execute "SELECT 1", .fetch 0, .closeOperation 0, .execute "SELECT 2", .fetch 1,
      .closeOperation 1, .closeSession, .closeClient] := by
  rfl

end JoinCanvas
