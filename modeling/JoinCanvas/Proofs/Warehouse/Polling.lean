import JoinCanvas.Proofs.Warehouse.Requests
import JoinCanvas.Proofs.Warehouse.Rows

/-!
# Polling a statement

A statement is asked for until its state is final, as often as the settings allow, with a pause before each request.  The
last report that was heard is kept; a request that is not answered, or whose answer comes when the time is up, ends the
polling and changes nothing.

* `Polls.le_attempts`, `Polls.unique`: the number of requests is bounded, and the script of the server decides on them.
* `waitFor_polls`: waiting for a statement polls it, and returns its last report exactly when it says that it succeeded.
-/

namespace JoinCanvas

open JoinCanvas.Http JoinCanvas.Json

/-- The polling of a statement, from a time at which a report is known, with so many attempts left: how many requests are
sent, and which report is known in the end. -/
inductive Polls (client : ApiClient) (limit? : Option Nat) :
    Nat → Nat → StatementReport → List Exchange → Nat → StatementReport → Prop where
  /-- The state is final, and nothing is asked any more. -/
  | final {attempts t : Nat} {known : StatementReport} {script : List Exchange} (h : known.state.isFinal = true) :
      Polls client limit? attempts t known script 0 known
  /-- No attempt is left. -/
  | givesUp {t : Nat} {known : StatementReport} {script : List Exchange} (h : known.state.isFinal = false) :
      Polls client limit? 0 t known script 0 known
  /-- The time is up in the pause. -/
  | dropped {attempts t : Nat} {known : StatementReport} {script : List Exchange} (h : known.state.isFinal = false)
      (late : ¬ InTime limit? (t + client.settings.pollIntervalMs)) :
      Polls client limit? (attempts + 1) t known script 0 known
  /-- The request is not answered, or the time is up before its answer comes. -/
  | unheard {attempts t : Nat} {known : StatementReport} {script : List Exchange} (h : known.state.isFinal = false)
      (paused : InTime limit? (t + client.settings.pollIntervalMs))
      (silent : ∀ e, script.head? = some e → client.answer? StatementReport.ofDocument? e = none ∨
        ¬ InTime limit? (t + client.settings.pollIntervalMs + e.delay)) :
      Polls client limit? (attempts + 1) t known script 1 known
  /-- The request is answered in time by a report, which is known from then on. -/
  | heard {attempts t polls : Nat} {known report last : StatementReport} {e : Exchange} {script : List Exchange}
      (h : known.state.isFinal = false)
      (answer : client.answer? StatementReport.ofDocument? e = some report)
      (inTime : InTime limit? (t + client.settings.pollIntervalMs + e.delay))
      (next : Polls client limit? attempts (t + client.settings.pollIntervalMs + e.delay) { report with id := known.id }
        script polls last) :
      Polls client limit? (attempts + 1) t known (e :: script) (polls + 1) last

namespace Polls

variable {client : ApiClient} {limit? : Option Nat} {attempts t polls : Nat} {known last : StatementReport}
  {script : List Exchange}

theorem le_attempts (h : Polls client limit? attempts t known script polls last) : polls ≤ attempts := by
  induction h with
  | final | givesUp | dropped => exact Nat.zero_le _
  | unheard => exact Nat.le_add_left 1 _
  | heard _ _ _ _ ih => exact Nat.succ_le_succ ih

theorem id_eq (h : Polls client limit? attempts t known script polls last) : last.id = known.id := by
  induction h with
  | final | givesUp | dropped | unheard => rfl
  | heard _ _ _ _ ih => exact ih

theorem unique {polls' : Nat} {last' : StatementReport} (h : Polls client limit? attempts t known script polls last)
    (h' : Polls client limit? attempts t known script polls' last') : polls = polls' ∧ last = last' := by
  -- the state, the time and the answer settle how a polling goes on, so any other way contradicts one of them
  induction h generalizing polls' last' with
  | final hfinal =>
    cases h' with
    | final => exact ⟨rfl, rfl⟩
    | givesUp h | dropped h | unheard h | heard h => exact absurd hfinal (by rw [h]; exact Bool.false_ne_true)
  | givesUp hrunning =>
    cases h' with
    | final h => exact absurd h (by rw [hrunning]; exact Bool.false_ne_true)
    | givesUp => exact ⟨rfl, rfl⟩
  | dropped hrunning late =>
    cases h' with
    | final h => exact absurd h (by rw [hrunning]; exact Bool.false_ne_true)
    | dropped => exact ⟨rfl, rfl⟩
    | unheard _ paused => exact absurd paused late
    | heard _ _ inTime => exact absurd inTime.of_add late
  | unheard hrunning paused silent =>
    cases h' with
    | final h => exact absurd h (by rw [hrunning]; exact Bool.false_ne_true)
    | dropped _ late => exact absurd paused late
    | unheard => exact ⟨rfl, rfl⟩
    | heard _ answer inTime =>
      rcases silent _ rfl with hnone | hlate
      · exact absurd (hnone.symm.trans answer) nofun
      · exact absurd inTime hlate
  | heard hrunning answer inTime next ih =>
    cases h' with
    | final h => exact absurd h (by rw [hrunning]; exact Bool.false_ne_true)
    | dropped _ late => exact absurd inTime.of_add late
    | unheard _ _ silent =>
      rcases silent _ rfl with hnone | hlate
      · exact absurd (hnone.symm.trans answer) nofun
      · exact absurd inTime hlate
    | heard _ answer' _ next' =>
      obtain rfl := Option.some.inj (answer.symm.trans answer')
      obtain ⟨rfl, rfl⟩ := ih next'
      exact ⟨rfl, rfl⟩

end Polls

namespace ApiClient

/-- The request for the state of a statement. -/
def status (client : ApiClient) (id : String) : Request :=
  client.request .get (StatementApi.statementsPath ++ "/" ++ id)

end ApiClient

/-- The text of a value is answered with what the value is read as. -/
theorem answer_text {client : ApiClient} (htimeout : 0 < client.requestTimeoutMs) {v : Value} (hv : v.isNumberless = true)
    {α : Type} (read? : Document → Option α) :
    client.answer? read? { response? := some { body := v.text } } = read? v.toDocument := by
  have hresponse : client.response? { response? := some { body := v.text } } = some { body := v.text } :=
    if_neg (Nat.not_le.2 htimeout)
  have hread : (Document.read? v.text).bind read? = read? v.toDocument := by rw [read_text hv]; rfl
  rw [ApiClient.answer?, hresponse]
  exact hread

namespace StatementApi

variable {n : Nat} {known : StatementReport}

theorem latest_eq {world : ApiWorld} (hknown : world.reports[n]? = some known) (limit? : Option Nat) (t : Nat) :
    latest n (Scene.at world limit? t) = (.returned known, Scene.at world limit? t) := by
  change (Outcome.returned (world.reports[n]?.getD default), Scene.at world limit? t) = _
  rw [hknown]
  rfl

/-- A request for the state of a statement: its report is kept, or nothing is. -/
theorem poll_cases {limit? : Option Nat} {t : Nat} (ht : InTime limit? t) {world : ApiWorld}
    (hknown : world.reports[n]? = some known) :
    let x := poll n (Scene.at world limit? t)
    let server := world.server.after [world.client.status known.id]
    (∃ e report, world.server.script.head? = some e ∧
        world.client.answer? StatementReport.ofDocument? e = some report ∧ InTime limit? (t + e.delay) ∧
        x = (.returned { report with id := known.id }, Scene.at { world with
          server, reports := world.reports.set n { report with id := known.id } } limit? (t + e.delay))) ∨
      ((∀ r, x.1 ≠ .returned r) ∧ x.2.world = { world with server } ∧
        ∀ e, world.server.script.head? = some e →
          world.client.answer? StatementReport.ofDocument? e = none ∨ ¬ InTime limit? (t + e.delay)) := by
  intro x server
  have hx : x = _ := Task.bind_returned (latest_eq hknown limit? t)
  have hends := sendFor_ends ht StatementReport.ofDocument? .get (statementsPath ++ "/" ++ known.id) none world
  generalize hsend : sendFor StatementReport.ofDocument? .get (statementsPath ++ "/" ++ known.id) none
    (Scene.at world limit? t) = y at hends
  cases hends with
  | @answered e report taken answer inTime =>
    rw [Task.bind_returned hsend] at hx
    exact Or.inl ⟨e, report, taken, answer, inTime, hx⟩
  | fails silent =>
    rw [Task.bind_failed hsend] at hx
    rw [hx]
    exact Or.inr ⟨nofun, rfl, fun e he => Or.inl (by rwa [he] at silent)⟩
  | cutOff _ taken late =>
    rw [Task.bind_cutOff hsend] at hx
    rw [hx]
    exact Or.inr ⟨nofun, rfl, fun e he => by rwa [← Option.some.inj (taken.symm.trans he)]⟩

theorem waitFor_final {world : ApiWorld} (hknown : world.reports[n]? = some known)
    (hfinal : known.state.isFinal = true) (attempts asked : Nat) (limit? : Option Nat) (t : Nat) :
    let s := Scene.at world limit? t
    (known.state = .succeeded ∧ waitFor n attempts asked s = (.returned known, s)) ∨
      (known.state ≠ .succeeded ∧ ∃ f, waitFor n attempts asked s = (.failed f, s)) := by
  intro s
  have hwait : waitFor n attempts asked s = (do
      Task.check known.fault?
      return known : Task ApiWorld StatementReport) s := by
    unfold waitFor
    rw [Task.bind_returned (latest_eq hknown limit? t), if_pos hfinal]
  rw [hwait]
  cases hfault : known.fault? with
  | none => exact Or.inl ⟨succeeded_of_final hfinal hfault, rfl⟩
  | some f =>
    refine Or.inr ⟨fun h => ?_, f, rfl⟩
    simp [StatementReport.fault?, h] at hfault

theorem waitFor_zero {world : ApiWorld} (hknown : world.reports[n]? = some known)
    (hrunning : known.state.isFinal = false) (asked : Nat) (limit? : Option Nat) (t : Nat) :
    ∃ f, waitFor n 0 asked (Scene.at world limit? t) = (.failed f, Scene.at world limit? t) := by
  unfold waitFor
  rw [Task.bind_returned (latest_eq hknown limit? t), if_neg (by rw [hrunning]; exact Bool.false_ne_true)]
  exact ⟨_, rfl⟩

theorem waitFor_succ {world : ApiWorld} (hknown : world.reports[n]? = some known)
    (hrunning : known.state.isFinal = false) (attempts asked : Nat) (limit? : Option Nat) (t : Nat) :
    waitFor n (attempts + 1) asked (Scene.at world limit? t) = (do
      Task.wait world.client.settings.pollIntervalMs
      let _ ← poll n
      waitFor n attempts (asked + 1) : Task ApiWorld StatementReport) (Scene.at world limit? t) := by
  conv_lhs => unfold waitFor
  rw [Task.bind_returned (latest_eq hknown limit? t), if_neg (by rw [hrunning]; exact Bool.false_ne_true)]
  rfl

theorem ne_succeeded_of_running (h : known.state.isFinal = false) : known.state ≠ .succeeded := by
  intro hstate
  rw [hstate] at h
  exact absurd h (by decide)

theorem set_known {reports : List StatementReport} (hknown : reports[n]? = some known) : reports.set n known = reports := by
  obtain ⟨hlt, rfl⟩ := List.getElem?_eq_some_iff.1 hknown
  exact List.set_getElem_self hlt

/-- What waiting for a statement comes to: the requests for its state are sent, the last report is kept, and it is returned
exactly when it says that the statement succeeded. -/
structure Awaited (n : Nat) (limit? : Option Nat) (world : ApiWorld) (known : StatementReport) (polls : Nat)
    (last : StatementReport) (x : Outcome StatementReport × Scene ApiWorld) : Prop where
  world_eq : x.2.world = { world with
    server := world.server.after (List.replicate polls (world.client.status known.id))
    reports := world.reports.set n last }
  outcome : (last.state = .succeeded ∧ ∃ t, InTime limit? t ∧ x = (.returned last, Scene.at x.2.world limit? t)) ∨
    (last.state ≠ .succeeded ∧ ∀ r, x.1 ≠ .returned r)

theorem awaited_final {limit? : Option Nat} {t : Nat} (ht : InTime limit? t) {world : ApiWorld}
    (hknown : world.reports[n]? = some known) (hfinal : known.state.isFinal = true) (attempts asked : Nat) :
    Awaited n limit? world known 0 known (waitFor n attempts asked (Scene.at world limit? t)) := by
  have hworld : world = { world with reports := world.reports.set n known } := by rw [set_known hknown]
  rcases waitFor_final hknown hfinal attempts asked limit? t with
    ⟨hstate, hwait⟩ | ⟨hstate, f, hwait⟩ <;> rw [hwait]
  · exact ⟨hworld, Or.inl ⟨hstate, t, ht, rfl⟩⟩
  · exact ⟨hworld, Or.inr ⟨hstate, nofun⟩⟩

/-- Waiting for a statement polls it. -/
theorem waitFor_polls {limit? : Option Nat} {t : Nat} (ht : InTime limit? t) {world : ApiWorld}
    (hknown : world.reports[n]? = some known) (attempts asked : Nat) :
    ∃ polls last, Polls world.client limit? attempts t known world.server.script polls last ∧
      Awaited n limit? world known polls last (waitFor n attempts asked (Scene.at world limit? t)) := by
  -- by induction on the attempts; of each of them the pause and the request are taken apart
  induction attempts generalizing t world known asked with
  | zero =>
    by_cases hfinal : known.state.isFinal = true
    · exact ⟨0, known, .final hfinal, awaited_final ht hknown hfinal 0 asked⟩
    · rw [Bool.not_eq_true] at hfinal
      obtain ⟨f, hwait⟩ := waitFor_zero hknown hfinal asked limit? t
      refine ⟨0, known, .givesUp hfinal, ?_, Or.inr ⟨ne_succeeded_of_running hfinal, ?_⟩⟩ <;> rw [hwait]
      · rw [set_known hknown]
        rfl
      · exact nofun
  | succ attempts ih =>
    by_cases hfinal : known.state.isFinal = true
    · exact ⟨0, known, .final hfinal, awaited_final ht hknown hfinal _ asked⟩
    rw [Bool.not_eq_true] at hfinal
    have hrunning := ne_succeeded_of_running hfinal
    rw [waitFor_succ hknown hfinal attempts asked limit? t]
    rcases Task.wait_cases ht world world.client.settings.pollIntervalMs with ⟨hpaused, hwait⟩ | ⟨hlate, hwait⟩
    swap
    · rw [Task.bind_cutOff hwait]
      exact ⟨0, known, .dropped hfinal hlate, by rw [set_known hknown]; rfl, Or.inr ⟨hrunning, nofun⟩⟩
    rw [Task.bind_returned hwait]
    rcases poll_cases hpaused hknown with ⟨e, report, he, hanswer, hin, hpoll⟩ | ⟨hnot, hworld, hsilent⟩
    · -- what is left is the same wait, with a report more and an exchange less
      rw [Task.bind_returned hpoll]
      have hlt : n < world.reports.length := (List.getElem?_eq_some_iff.1 hknown).1
      let world' : ApiWorld := { world with
        server := world.server.after [world.client.status known.id]
        reports := world.reports.set n { report with id := known.id } }
      have hknown' : world'.reports[n]? = some { report with id := known.id } := List.getElem?_set_self hlt
      obtain ⟨polls, last, hpolls, hlast⟩ := ih hin hknown' (asked + 1)
      obtain ⟨rest, hrest⟩ : ∃ rest, world.server.script = e :: rest := by
        cases hscript : world.server.script with
        | nil => rw [hscript] at he; exact absurd he nofun
        | cons e' rest =>
          rw [hscript] at he
          exact ⟨rest, by rw [Option.some.inj he]⟩
      have hdrop : world'.server.script = rest := by
        rw [Server.script_after, hrest]
        rfl
      rw [hdrop] at hpolls
      refine ⟨polls + 1, last, hrest ▸ .heard hfinal hanswer hin hpolls, ?_, hlast.outcome⟩
      rw [hlast.world_eq, List.set_set]
      rfl
    · obtain ⟨hsnd, hnone⟩ := Task.bind_of_not_returned hnot fun _ => waitFor n attempts (asked + 1)
      refine ⟨1, known, .unheard hfinal hpaused hsilent, ?_, Or.inr ⟨hrunning, hnone⟩⟩
      rw [hsnd, hworld, set_known hknown]
      rfl

end StatementApi

end JoinCanvas
