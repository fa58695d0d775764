import JoinCanvas.Proofs.Warehouse.Chunks
import JoinCanvas.Proofs.Warehouse.Sessions

/-!
# Statements are not left running

A statement of a query is closed by the query, or by the end of the session when the query was cut off, and never by
both.  Closing asks nothing of the server but to cancel a statement whose last report does not say that it has come to an
end.  So all that a query and the end of its session send is the submission, the requests for the state, those for
chunks, and one cancel or none.

* `execute_returned`: what is known of a statement that was accepted.
* `result_polls`: reading a statement polls it and leaves its last report behind.
* `query_leaves`: what a query has sent, and what is left of its statement to be closed.
* `closeAll_sends`: what the end of a session sends.
* `query_cancels`: both together.
-/

namespace JoinCanvas

open JoinCanvas.Http JoinCanvas.Json

namespace ApiClient

/-- The request that submits a statement. -/
def submit (client : ApiClient) (sql : String) : Request :=
  client.request .post StatementApi.statementsPath (some (StatementApi.submission client sql))

/-- The request that cancels a statement. -/
def cancel (client : ApiClient) (id : String) : Request :=
  client.request .post (StatementApi.statementsPath ++ "/" ++ id ++ "/cancel")

/-- The requests that close a statement by its last report: one cancel when it was waiting or running. -/
def cancels (client : ApiClient) (last : StatementReport) : List Request :=
  if last.state = .pending ∨ last.state = .running then [client.cancel last.id] else []

theorem cancels_eq (client : ApiClient) (last : StatementReport) :
    client.cancels last = if last.state.isFinal then [] else [client.cancel last.id] := by
  rw [cancels]
  cases last.state <;> rfl

end ApiClient

/-- What comes after a task leaves the scene as it is, if it only hands something on. -/
theorem Task.snd_bind {σ α β : Type} {next : α → Task σ β} (h : ∀ a s, (next a s).2 = s) (k : Task σ α) (s : Scene σ) :
    ((k >>= next) s).2 = (k s).2 := by
  rcases hk : k s with ⟨a | f | _, s'⟩
  · rw [bind_returned hk, h]
  · rw [bind_failed hk]
  · rw [bind_cutOff hk]

theorem Work.snd_bind {σ ω α β : Type} {next : α → Work σ ω β} (h : ∀ a c, (next a c).2 = c) (k : Work σ ω α)
    (c : Course σ ω) : ((k >>= next) c).2 = (k c).2 := by
  rcases hk : k c with ⟨a | f | _, c'⟩
  · rw [bind_returned hk, h]
  · rw [bind_failed hk]
  · rw [bind_cutOff hk]

namespace StatementApi

variable {n : Nat} {known : StatementReport} {limit? : Option Nat} {t : Nat}

theorem Ends.world_eq {α : Type} {get : Exchange → Option α} {exchange? : Option Exchange} {world : ApiWorld}
    {x : Outcome α × Scene ApiWorld} (h : Ends limit? t get exchange? world x) : x.2.world = world := by
  cases h <;> rfl

/-- The submission of a statement that was accepted was answered by a report, which is kept. -/
theorem execute_returned {sql : String} {world : ApiWorld} {s : Scene ApiWorld}
    (h : execute sql ⟨world, limit?⟩ = (.returned n, s)) :
    ∃ e rest first, world.server.script = e :: rest ∧
      world.client.answer? StatementReport.ofDocument? e = some first ∧ InTime limit? e.delay ∧
      n = world.reports.length ∧ s = Scene.at { world with
        server := world.server.after [world.client.submit sql], reports := world.reports ++ [first] } limit? e.delay := by
  have hends := sendFor_ends (inTime_zero limit?) StatementReport.ofDocument? .post statementsPath
    (some (submission world.client sql)) world
  rw [Scene.at_zero] at hends
  generalize hsend : sendFor StatementReport.ofDocument? .post statementsPath (some (submission world.client sql))
    ⟨world, limit?⟩ = x at hends
  have hexecute : execute sql ⟨world, limit?⟩ = (do
      let report ← sendFor StatementReport.ofDocument? .post statementsPath (some (submission world.client sql))
      Task.check report.fault?
      Task.change fun w => { w with reports := w.reports ++ [report] }
      return world.reports.length : Task ApiWorld Nat) ⟨world, limit?⟩ := rfl
  rw [hexecute] at h
  cases hends with
  | @answered e first taken answer inTime =>
    rw [Task.bind_returned hsend] at h
    rw [Nat.zero_add] at h inTime
    obtain ⟨rest, hrest⟩ : ∃ rest, world.server.script = e :: rest := List.head?_eq_some_iff.1 taken
    -- a report of a failure is not kept, and the submission fails with it
    cases hfault : first.fault? with
    | some f =>
      rw [hfault] at h
      exact absurd (congrArg Prod.fst h) nofun
    | none =>
      rw [hfault] at h
      obtain ⟨hn, hs⟩ := Prod.mk.inj h
      exact ⟨e, rest, first, hrest, answer, inTime, (Outcome.returned.inj hn).symm, hs.symm⟩
  | fails =>
    rw [Task.bind_failed hsend] at h
    exact absurd (congrArg Prod.fst h) nofun
  | cutOff =>
    rw [Task.bind_cutOff hsend] at h
    exact absurd (congrArg Prod.fst h) nofun

/-- The columns of a statement that has come to an end take no request. -/
theorem schema_final (config : Config) {s : Scene ApiWorld} (hknown : s.world.reports[n]? = some known)
    (hfinal : known.state.isFinal = true) : ((statementApi config).schema n s).2 = s := by
  have hwait : (finalReport n (Scene.at s.world s.left? 0)).2 = Scene.at s.world s.left? 0 := by
    rcases waitFor_final hknown hfinal s.world.client.settings.maxPollAttempts 0 s.left? 0 with
      ⟨-, hwait⟩ | ⟨-, f, hwait⟩
    · exact congrArg Prod.snd hwait
    · exact congrArg Prod.snd hwait
  rw [Scene.at_zero] at hwait
  exact (Task.snd_bind (fun _ _ => rfl) (finalReport n) s).trans hwait

theorem send_world (method : Method) (path : String) (body? : Option Value) (s : Scene ApiWorld) :
    (send method path body? s).2.world =
      { s.world with server := s.world.server.after [s.world.client.request method path body?] } := by
  have hsend := send_eq method path body? s.world s.left? 0
  rw [Scene.at_zero] at hsend
  rw [hsend]
  exact (await_ends (inTime_zero s.left?) _ _ _).world_eq

/-- Closing a statement takes the requests that its last report asks for, however much time is left. -/
theorem close_sends (n : Nat) (s : Scene ApiWorld) :
    let last := s.world.reports[n]?.getD default
    (close n s).2.world = { s.world with server := s.world.server.after (s.world.client.cancels last) } := by
  intro last
  have hlatest : latest n s = (.returned last, s) := rfl
  rw [close, Task.bind_returned hlatest, ApiClient.cancels_eq]
  by_cases hfinal : last.state.isFinal = true
  · rw [if_pos hfinal, if_pos hfinal]
    rfl
  · rw [if_neg hfinal, if_neg hfinal, ApiClient.cancel,
      ← send_world .post (statementsPath ++ "/" ++ last.id ++ "/cancel") none s]
    refine congrArg Scene.world (Task.snd_bind (fun r s => ?_) _ s)
    split <;> rfl

/-! ### Queries -/

/-- Reading a statement polls it and leaves its last report behind; it returns only when that says that the statement
succeeded. -/
theorem result_polls (config : Config) (ht : InTime limit? t) {world : ApiWorld} (hknown : world.reports[n]? = some known)
    (number : Nat) {c : Course ApiWorld Nat} (hc : c.scene = Scene.at world limit? t) :
    ∃ polls last, ∃ links : List String,
      Polls world.client limit? world.client.settings.maxPollAttempts t known world.server.script polls last ∧
      (links ≠ [] → last.state = .succeeded) ∧
      let x := Session.result (statementApi config) ⟨number, n⟩ c
      (∀ r, x.1 = .returned r → last.state = .succeeded) ∧ x.2.held = c.held ∧
      x.2.scene.world = { world with
        server := world.server.after
          (List.replicate polls (world.client.status known.id) ++ links.map world.client.follow)
        reports := world.reports.set n last } := by
  obtain ⟨polls, last, hpolls, hfetch⟩ := fetch_polls ht hknown
  obtain ⟨chunks, complete, hchain⟩ := exists_chain world.client (world.server.script.drop polls)
    (last.chunk?.bind (·.next?))
  obtain ⟨⟨links, hlinks, hworld⟩, -, hfailed⟩ := hfetch chunks complete hchain
  refine ⟨polls, last, links, hpolls, hlinks, ?_⟩
  have hlt : n < world.reports.length := (List.getElem?_eq_some_iff.1 hknown).1
  intro x
  rw [← hc] at hworld hfailed
  rcases hread : fetch n c.scene with ⟨rows | f | _, s⟩ <;> rw [hread] at hworld hfailed
  · -- the statement succeeded, so its columns are known
    have hstate : last.state = .succeeded := by
      by_contra hne
      exact hfailed hne rows rfl
    have hlast : s.world.reports[n]? = some last := by
      rw [hworld]
      exact List.getElem?_set_self hlt
    have hsame := schema_final config hlast (by rw [hstate]; rfl)
    have hx : x = _ := Work.bind_returned (Work.call_of hread _)
    have hsnd : x.2.held = c.held ∧ x.2.scene = ((statementApi config).schema n s).2 := by
      rw [hx, Work.snd_bind fun _ _ => rfl]
      exact ⟨rfl, rfl⟩
    exact ⟨fun _ _ => hstate, hsnd.1, by rw [hsnd.2, hsame, hworld]⟩
  · have hx : x = _ := Work.bind_failed (Work.call_of hread _)
    rw [hx]
    exact ⟨nofun, rfl, hworld⟩
  · have hx : x = _ := Work.bind_cutOff (Work.call_of hread _)
    rw [hx]
    exact ⟨nofun, rfl, hworld⟩

end StatementApi

open StatementApi

/-- The requests that are due for what is held. -/
def Course.due (c : Course ApiWorld Nat) : List Request :=
  match c.held.operation? with
  | none => []
  | some r => c.scene.world.client.cancels (c.scene.world.reports[r.operation]?.getD default)

namespace Session

variable {α : Type}

theorem due_of_held {c : Course ApiWorld Nat} {r : Running Nat} (hr : c.held.operation? = some r) :
    c.due = c.scene.world.client.cancels (c.scene.world.reports[r.operation]?.getD default) := by
  rw [Course.due, hr]

/-- Giving up a statement sends what was due for it. -/
theorem report_sends (config : Config) {c : Course ApiWorld Nat} {r : Running Nat} (hr : c.held.operation? = some r)
    (outcome : Except Fault QueryResult) :
    let x := report (statementApi config) r outcome c
    x.2.scene.world = { c.scene.world with server := c.scene.world.server.after c.due } ∧ x.2.due = [] := by
  intro x
  have hx : x.2 = _ := report_snd (statementApi config) r outcome c
  rw [hx, due_of_held hr]
  exact ⟨close_sends r.operation c.scene, rfl⟩

/-- A statement is given up after it was read, or is still due when the reading was cut off. -/
theorem attempt_report (config : Config) {k : Work ApiWorld Nat QueryResult} {c : Course ApiWorld Nat} {r : Running Nat}
    (hr : (k c).2.held.operation? = some r) :
    let x := (Work.attempt k >>= report (statementApi config) r) c
    (∀ a, x.1 = .returned a → ∃ b, (k c).1 = .returned b) ∧
      x.2.scene.world.server.after x.2.due = (k c).2.scene.world.server.after (k c).2.due := by
  intro x
  have hreport : ∀ outcome, x = report (statementApi config) r outcome (k c).2 →
      x.2.scene.world.server.after x.2.due = (k c).2.scene.world.server.after (k c).2.due := by
    intro outcome hx
    obtain ⟨hworld, hdue⟩ := report_sends config hr outcome
    rw [hx, hworld, hdue]
    rfl
  rcases hk : k c with ⟨a | f | _, c'⟩ <;> rw [hk] at hreport
  · exact ⟨fun _ _ => ⟨a, rfl⟩, hreport (.ok a) (Work.bind_returned (Work.attempt_returned hk))⟩
  · have hx : x = report (statementApi config) r (.error f) c' := Work.bind_returned (Work.attempt_failed hk)
    have hne : ∀ a, x.1 ≠ .returned a := fun a => hx ▸ Work.attempt_then_error_ne _ f _ a
    exact ⟨fun a ha => absurd ha (hne a), hreport (.error f) hx⟩
  · have hx : x = (.cutOff, c') := Work.bind_cutOff (Work.attempt_cutOff hk)
    rw [hx]
    exact ⟨nofun, rfl⟩

/-- What a query has sent, and what is due for its statement after it, come to one cancel or none. -/
theorem query_leaves (config : Config) {sql : String} {c : Course ApiWorld Nat} {n : Nat} {s : Scene ApiWorld}
    (haccepted : execute sql c.scene = (.returned n, s)) :
    let world := c.scene.world
    let x := query (statementApi config) sql c
    ∃ e script first polls last, ∃ links : List String, world.server.script = e :: script ∧
      world.client.answer? StatementReport.ofDocument? e = some first ∧
      Polls world.client c.scene.left? world.client.settings.maxPollAttempts e.delay first script polls last ∧
      (links ≠ [] → last.state = .succeeded) ∧ (∀ r, x.1 = .returned r → last.state = .succeeded) ∧
      x.2.scene.world.server.after x.2.due = world.server.after (world.client.submit sql ::
        (List.replicate polls (world.client.status first.id) ++ links.map world.client.follow ++
          world.client.cancels last)) := by
  intro world x
  obtain ⟨e, script, first, hscript, hanswer, hin, rfl, rfl⟩ := execute_returned haccepted
  let world₁ : ApiWorld := { world with
    server := world.server.after [world.client.submit sql], reports := world.reports ++ [first] }
  let r : Running Nat := ⟨c.accepted, world.reports.length⟩
  let c₁ : Course ApiWorld Nat := { c with
    scene := Scene.at world₁ c.scene.left? e.delay
    log := c.log ++ [⟨.execute sql, true⟩]
    accepted := c.accepted + 1
    held := { c.held with operation? := some r } }
  have hx : x = (Work.attempt (result (statementApi config) r) >>= report (statementApi config) r) c₁ :=
    Work.bind_returned (Work.call_of haccepted _)
  have hfirst : world₁.reports[world.reports.length]? = some first := List.getElem?_concat_length
  obtain ⟨polls, last, links, hpolls, hlinks, hreturned, hheld, hworld⟩ :=
    result_polls config hin hfirst c.accepted (c := c₁) rfl
  have hrest : world₁.server.script = script := by
    rw [Server.script_after, hscript]
    rfl
  rw [hrest] at hpolls
  refine ⟨e, script, first, polls, last, links, hscript, hanswer, hpolls, hlinks, ?_⟩
  -- what was sent and what is due are those of the reading
  have hr : (result (statementApi config) r c₁).2.held.operation? = some r := by rw [hheld]
  obtain ⟨hread, hsame⟩ := attempt_report config hr
  have hdue : (result (statementApi config) r c₁).2.due = world.client.cancels last := by
    have hlt : r.operation < world₁.reports.length := (List.getElem?_eq_some_iff.1 hfirst).1
    rw [due_of_held hr, hworld, List.getElem?_set_self hlt]
    rfl
  rw [hx]
  refine ⟨fun a ha => ?_, ?_⟩
  · obtain ⟨b, hb⟩ := hread a ha
    exact hreturned b hb
  · rw [hsame, hdue, hworld, ← Server.after_append, ← Server.after_append]
    rfl

/-! ### The end of a session -/

theorem closeOperation_sends (config : Config) (c : Course ApiWorld Nat) :
    (closeOperation (statementApi config) c).2.scene.world =
      { c.scene.world with server := c.scene.world.server.after c.due } := by
  rw [closeOperation, Work.bind_held, Course.due]
  cases c.held.operation? with
  | none => rfl
  | some r => exact close_sends r.operation c.scene

theorem closeSession_scene (config : Config) (c : Course ApiWorld Nat) :
    (closeSession (statementApi config) c).2.scene = c.scene := by
  rw [closeSession, Work.bind_held]
  cases c.held.session <;> rfl

theorem closeClient_scene (config : Config) (c : Course ApiWorld Nat) :
    (closeClient (statementApi config) c).2.scene = c.scene := by
  rw [closeClient, Work.bind_held]
  cases c.held.client <;> rfl

/-- The end of a session sends what is due, and then nothing is due any more, also when it is cut off. -/
theorem closeAll_sends (config : Config) (c : Course ApiWorld Nat) :
    let x := closeAll (statementApi config) c
    x.2.scene.world = { c.scene.world with server := c.scene.world.server.after c.due } ∧ x.2.due = [] := by
  intro x
  let c₁ := (closeOperation (statementApi config) c).2
  -- the session and the client take no request
  let Done (c' : Course ApiWorld Nat) : Prop := c'.scene = c₁.scene ∧ c'.held.operation? = none
  have hsession : (Work.attempt (closeSession (statementApi config))).Keeps Done := by
    rintro c' ⟨hscene, hfree⟩
    rw [Work.snd_attempt]
    exact ⟨(closeSession_scene config c').trans hscene, by rw [closeSession_held]; exact hfree⟩
  have hclient : (Work.attempt (closeClient (statementApi config))).Keeps Done := by
    rintro c' ⟨hscene, hfree⟩
    rw [Work.snd_attempt]
    exact ⟨(closeClient_scene config c').trans hscene, by rw [closeClient_held]; exact hfree⟩
  have hdone : Done c₁ := ⟨rfl, by rw [closeOperation_held]⟩
  have hx : Done x.2 := by
    rcases Work.attempt_then_cases (closeOperation (statementApi config)) (fun first => do
      let second ← Work.attempt (closeSession (statementApi config))
      let third ← Work.attempt (closeClient (statementApi config))
      return do first; second; third) c with hcut | ⟨first, hnext⟩
    · have hsnd : x.2 = c₁ := congrArg Prod.snd hcut
      rw [hsnd]
      exact hdone
    · have hkeeps : Work.Keeps Done (do
          let second ← Work.attempt (closeSession (statementApi config))
          let third ← Work.attempt (closeClient (statementApi config))
          return do first; second; third) := hsession.andThen fun _ => hclient.andThen fun _ _ h => h
      have hsnd : x.2 = _ := congrArg Prod.snd hnext
      rw [hsnd]
      exact hkeeps c₁ hdone
  have hworld : x.2.scene.world = c₁.scene.world := congrArg Scene.world hx.1
  have hdue : x.2.due = [] := by rw [Course.due, hx.2]
  rw [hworld, hdue]
  exact ⟨closeOperation_sends config c, rfl⟩

theorem finish_snd {α σ ω : Type} (w : Warehouse σ ω) (outcome : Except Fault α) (c : Course σ ω) :
    (finish w outcome c).2 = (closeAll w c).2 := by
  refine Work.snd_bind (fun closed c => ?_) (closeAll w) c
  cases outcome <;> cases closed <;> rfl

end Session

namespace Ending

variable {α : Type}

/-- The end of a session; when closing it is cut off, it is dropped. -/
def run {σ ω : Type} (ending : Ending α) (w : Warehouse σ ω) (limit? : Option Nat) (c : Course σ ω) : Course σ ω :=
  match ending with
  | .finish outcome => Session.abandon w (Work.within limit? (Session.finish w outcome) c).2
  | .drop => Session.abandon w c

theorem run_sends (config : Config) (ending : Ending α) (limit? : Option Nat) (c : Course ApiWorld Nat) :
    (ending.run (statementApi config) limit? c).scene.world =
      { c.scene.world with server := c.scene.world.server.after c.due } := by
  have habandon : ∀ c : Course ApiWorld Nat, (Session.abandon (statementApi config) c).scene.world =
      { c.scene.world with server := c.scene.world.server.after c.due } := fun c =>
    (Session.closeAll_sends config { c with scene := { c.scene with left? := none } }).1
  cases ending with
  | drop => exact habandon c
  | finish outcome =>
    obtain ⟨hworld, hdue⟩ := Session.closeAll_sends config { c with scene := { c.scene with left? := limit? } }
    rw [← Session.finish_snd (statementApi config) outcome] at hworld hdue
    let c₁ := (Work.within limit? (Session.finish (statementApi config) outcome) c).2
    have hdue₁ : c₁.due = [] := hdue
    have hworld₁ : c₁.scene.world = _ := hworld
    change (Session.abandon (statementApi config) c₁).scene.world = _
    rw [habandon, hdue₁, hworld₁]
    rfl

end Ending

/-- A query on a statement interface whose submission is accepted, and the end of its session.  Whatever the server
answers, however long that takes, and whenever the query or the closing is cut off: the statement is polled at most as
often as the settings allow, rows are returned only when the last report says that it succeeded, and all that is sent is
the submission, the requests for the state, those for chunks, and one cancel when the last report says that the
statement waits or runs. -/
theorem query_cancels {α : Type} (config : Config) (ending : Ending α) (sql : String) (limit? closeLimit? : Option Nat)
    (c : Course ApiWorld Nat) {n : Nat} {s : Scene ApiWorld}
    (haccepted : (statementApi config).execute sql ⟨c.scene.world, limit?⟩ = (.returned n, s)) :
    let world := c.scene.world
    let client := world.client
    let x := Work.within limit? (Session.query (statementApi config) sql) c
    ∃ e script first polls last, ∃ links : List String, world.server.script = e :: script ∧
      client.answer? StatementReport.ofDocument? e = some first ∧
      Polls client limit? client.settings.maxPollAttempts e.delay first script polls last ∧
      polls ≤ client.settings.maxPollAttempts ∧ (links ≠ [] → last.state = .succeeded) ∧
      (∀ r, x.1 = some (.ok r) → last.state = .succeeded) ∧
      (ending.run (statementApi config) closeLimit? x.2).scene.world.server.received =
        world.server.received ++ client.submit sql ::
          (List.replicate polls (client.status first.id) ++ links.map client.follow ++
            if last.state = .pending ∨ last.state = .running then [client.cancel first.id] else []) := by
  intro world client x
  obtain ⟨e, script, first, polls, last, links, hscript, hanswer, hpolls, hlinks, hreturned, hsent⟩ :=
    Session.query_leaves config (c := { c with scene := ⟨world, limit?⟩ }) haccepted
  refine ⟨e, script, first, polls, last, links, hscript, hanswer, hpolls, hpolls.le_attempts, hlinks, ?_, ?_⟩
  · intro r hr
    rcases hquery : Session.query (statementApi config) sql { c with scene := ⟨world, limit?⟩ } with ⟨a | f | _, c'⟩
    · exact hreturned a (by rw [hquery])
    · have hx : x = _ := Work.within_failed hquery
      rw [hx] at hr
      cases hr
    · have hx : x = _ := Work.within_cutOff hquery
      rw [hx] at hr
      cases hr
  · have hinReach : world.server.inReach = true := by
      by_contra hne
      rw [Server.script, if_neg hne] at hscript
      exact absurd hscript.symm (List.cons_ne_nil _ _)
    have hsame : x.2.scene.world.server.after x.2.due = _ := hsent
    rw [Ending.run_sends config ending closeLimit? x.2, hsame, Server.received_after hinReach, ApiClient.cancels,
      hpolls.id_eq]

/-- The report on a statement that runs. -/
def runningAnswer : Value :=
  .record [("statement_id", .string "s"), ("status", .record [("state", .string "RUNNING")])]

/-- A server that accepts a statement and cannot say what became of it. -/
def busyServer : ApiWorld where
  server := { exchanges := [{ response? := some { body := runningAnswer.text } },
    { response? := some { status := 503, body := "busy" } }] }
  client := ⟨"https://h", "", "w", {}, 30000⟩

/-- The theorem at that server, for a session that is dropped. -/
theorem query_cancels_busyServer :
    let c : Course ApiWorld Nat := Session.opened "c" ⟨busyServer, none⟩
    let x := Work.within (some 700) (Session.query (statementApi {}) "SELECT 1") c
    (∃ s, (statementApi {}).execute "SELECT 1" ⟨c.scene.world, some 700⟩ = (.returned 0, s)) ∧
      ((Ending.drop : Ending Unit).run (statementApi {}) none x.2).scene.world.server.received =
        [busyServer.client.submit "SELECT 1", busyServer.client.status "s", busyServer.client.cancel "s"] := by
  intro c x
  have hread : (Document.read? runningAnswer.text).bind StatementReport.ofDocument? =
      some ⟨"s", .running, none, [], none⟩ := by
    rw [read_text (by rfl)]
    rfl
  have hsent : ∃ server, sendFor StatementReport.ofDocument? .post statementsPath
      (some (submission busyServer.client "SELECT 1")) ⟨busyServer, some 700⟩ =
        (.returned ⟨"s", .running, none, [], none⟩, ⟨{ busyServer with server }, some 700⟩) :=
    sendFor_of_read rfl rfl (by decide) rfl hread
  obtain ⟨server, hsend⟩ := hsent
  have haccepted : (statementApi {}).execute "SELECT 1" ⟨c.scene.world, some 700⟩ = (.returned 0, _) :=
    Task.bind_eq_returned_iff.2 ⟨_, _, rfl, Task.bind_eq_returned_iff.2 ⟨_, _, hsend, rfl⟩⟩
  refine ⟨⟨_, haccepted⟩, ?_⟩
  obtain ⟨e, script, first, polls, last, links, hscript, hanswer, hpolls, -, hlinks, -, hreceived⟩ :=
    query_cancels {} (Ending.drop : Ending Unit) "SELECT 1" (some 700) none c haccepted
  obtain ⟨rfl, rfl⟩ := List.cons.inj hscript
  have hfirst : first = ⟨"s", .running, none, [], none⟩ :=
    Option.some.inj (hanswer.symm.trans (answer_text (by decide) (by rfl) StatementReport.ofDocument?))
  subst hfirst
  -- the only request for the state is not answered by a report
  have hunheard : Polls busyServer.client (some 700) 600 0 ⟨"s", .running, none, [], none⟩
      [{ response? := some { status := 503, body := "busy" } }] 1 ⟨"s", .running, none, [], none⟩ := by
    refine .unheard rfl (by simp [InTime, busyServer]) fun e he => Or.inl ?_
    obtain rfl := Option.some.inj he
    rfl
  obtain ⟨rfl, rfl⟩ := hpolls.unique hunheard
  have hnolinks : links = [] := by
    by_contra hne
    exact absurd (hlinks hne) (by decide)
  rw [hreceived, hnolinks]
  rfl

end JoinCanvas
