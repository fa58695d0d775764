import JoinCanvas.Warehouse.StatementApi

/-!
# What comes of a request

A request uses up an exchange of the server, whatever comes of it.  It returns when the answer is a success that reads as
what was asked for, comes before the request is given up, and comes in time; else it fails or is cut off.

Time is counted from the start of the work: `Scene.at` is a scene after so many milliseconds of the time that there is.

* `Task.wait_cases`: a pause ends in time, or cuts the work off.
* `sendFor_ends`: the three ends of a request.
-/

namespace JoinCanvas

open JoinCanvas.Http JoinCanvas.Json

variable {σ α β : Type}

/-! ### Steps of tasks -/

namespace Task

variable {k : Task σ α} {next : α → Task σ β} {s s' : Scene σ}

theorem bind_returned {a : α} (h : k s = (.returned a, s')) : (k >>= next) s = next a s' := by
  change andThen k next s = _
  rw [andThen, h]

theorem bind_failed {f : Fault} (h : k s = (.failed f, s')) : (k >>= next) s = (.failed f, s') := by
  change andThen k next s = _
  rw [andThen, h]

theorem bind_cutOff (h : k s = (.cutOff, s')) : (k >>= next) s = (.cutOff, s') := by
  change andThen k next s = _
  rw [andThen, h]

/-- What comes after a task that does not return is not done. -/
theorem bind_of_not_returned (h : ∀ a, (k s).1 ≠ .returned a) (next : α → Task σ β) :
    ((k >>= next) s).2 = (k s).2 ∧ ∀ b, ((k >>= next) s).1 ≠ .returned b := by
  rcases hk : k s with ⟨a | f | _, s'⟩
  · exact absurd (congrArg Prod.fst hk) (h a)
  · rw [bind_failed hk]
    exact ⟨rfl, nofun⟩
  · rw [bind_cutOff hk]
    exact ⟨rfl, nofun⟩

end Task

/-! ### Time -/

/-- What is done after so many milliseconds is done before the time is up. -/
def InTime (limit? : Option Nat) (t : Nat) : Prop :=
  ∀ limit, limit? = some limit → t ≤ limit

/-- The scene after so many milliseconds. -/
def Scene.at (world : σ) (limit? : Option Nat) (t : Nat) : Scene σ :=
  ⟨world, limit?.map (· - t)⟩

theorem Scene.at_zero (world : σ) (limit? : Option Nat) : Scene.at world limit? 0 = ⟨world, limit?⟩ := by
  cases limit? <;> rfl

theorem inTime_zero (limit? : Option Nat) : InTime limit? 0 :=
  fun _ _ => Nat.zero_le _

theorem inTime_none (t : Nat) : InTime none t :=
  fun _ h => absurd h (Option.some_ne_none _).symm

theorem InTime.of_add {limit? : Option Nat} {t ms : Nat} (h : InTime limit? (t + ms)) : InTime limit? t :=
  fun limit hlimit => Nat.le_of_add_right_le (h limit hlimit)

theorem Task.wait_cases {limit? : Option Nat} {t : Nat} (ht : InTime limit? t) (world : σ) (ms : Nat) :
    (InTime limit? (t + ms) ∧
      wait ms (Scene.at world limit? t) = (.returned (), Scene.at world limit? (t + ms))) ∨
    (¬ InTime limit? (t + ms) ∧ wait ms (Scene.at world limit? t) = (.cutOff, ⟨world, some 0⟩)) := by
  cases limit? with
  | none => exact Or.inl ⟨nofun, rfl⟩
  | some limit =>
    have hle : t ≤ limit := ht limit rfl
    have hiff : InTime (some limit) (t + ms) ↔ t + ms ≤ limit := by simp [InTime]
    rw [hiff]
    simp only [Scene.at, Option.map_some, wait]
    by_cases h : t + ms ≤ limit
    · left
      rw [if_neg (by omega), Nat.sub_sub]
      exact ⟨h, rfl⟩
    · right
      rw [if_pos (by omega)]
      exact ⟨h, rfl⟩

/-! ### Servers -/

namespace Http.Server

/-- The exchanges that requests can still take. -/
def script (s : Server) : List Exchange :=
  if s.inReach then s.exchanges else []

/-- The server after requests. -/
def after (s : Server) (requests : List Request) : Server :=
  requests.foldl (fun s r => (s.take r).2) s

theorem fst_take (s : Server) (r : Request) : (s.take r).1 = s.script.head? := by
  unfold take script
  split <;> rfl

theorem script_take (s : Server) (r : Request) : (s.take r).2.script = s.script.tail := by
  cases h : s.inReach <;> simp [take, script, h]

theorem after_append (s : Server) (requests more : List Request) :
    s.after (requests ++ more) = (s.after requests).after more :=
  List.foldl_append

theorem script_after (s : Server) (requests : List Request) :
    (s.after requests).script = s.script.drop requests.length := by
  induction requests generalizing s with
  | nil => rfl
  | cons r rest ih =>
    change ((s.take r).2.after rest).script = _
    rw [ih, script_take, List.length_cons, List.drop_tail]

theorem received_after {s : Server} (h : s.inReach = true) (requests : List Request) :
    (s.after requests).received = s.received ++ requests := by
  induction requests generalizing s with
  | nil => exact (List.append_nil _).symm
  | cons r rest ih =>
    have htake : (s.take r).2 = { s with exchanges := s.exchanges.tail, received := s.received ++ [r] } := by
      simp [take, h]
    change ((s.take r).2.after rest).received = _
    rw [ih (by rw [htake]; exact h), htake, List.append_assoc]
    rfl

end Http.Server

/-! ### Requests -/

namespace ApiClient

/-- A request of the client. -/
def request (client : ApiClient) (method : Method) (path : String) (body? : Option Value := none) : Request :=
  ⟨method, client.baseUrl ++ path, "Bearer " ++ client.token, body?⟩

/-- The response of an exchange, unless it takes longer than the client waits for a request. -/
def response? (client : ApiClient) (e : Exchange) : Option Response :=
  if client.requestTimeoutMs ≤ e.delay then none else e.response?

/-- What an exchange answers to a request for a record. -/
def answer? (client : ApiClient) (read? : Document → Option α) (e : Exchange) : Option α :=
  (client.response? e).bind fun r => if r.isSuccess then (Document.read? r.body).bind read? else none

end ApiClient

namespace StatementApi

/-- The ends of waiting for an exchange from a time on, where `get` is what it may give: it gives something in time, it
gives nothing, or the time is up before it does. -/
inductive Ends (limit? : Option Nat) (t : Nat) (get : Exchange → Option α) (exchange? : Option Exchange)
    (world : ApiWorld) : Outcome α × Scene ApiWorld → Prop where
  | answered {e : Exchange} {a : α} (taken : exchange? = some e) (answer : get e = some a)
      (inTime : InTime limit? (t + e.delay)) :
      Ends limit? t get exchange? world (.returned a, Scene.at world limit? (t + e.delay))
  | fails {f : Fault} {left? : Option Nat} (silent : exchange?.bind get = none) :
      Ends limit? t get exchange? world (.failed f, ⟨world, left?⟩)
  | cutOff {e : Exchange} {left? : Option Nat} (limited : limit? ≠ none) (taken : exchange? = some e)
      (late : get e = none ∨ ¬ InTime limit? (t + e.delay)) :
      Ends limit? t get exchange? world (.cutOff, ⟨world, left?⟩)

/-- Waiting for an exchange, if there is one. -/
def await (client : ApiClient) (exchange? : Option Exchange) : Task ApiWorld Response :=
  match exchange? with
  | none => Task.fail requestFailed
  | some e =>
    if client.requestTimeoutMs ≤ e.delay then do
      Task.wait client.requestTimeoutMs
      Task.fail requestFailed
    else do
      Task.wait e.delay
      match e.response? with
      | some r => return r
      | none => Task.fail requestFailed

theorem send_eq (method : Method) (path : String) (body? : Option Value) (world : ApiWorld) (limit? : Option Nat)
    (t : Nat) :
    send method path body? (Scene.at world limit? t) = await world.client world.server.script.head?
      (Scene.at { world with server := world.server.after [world.client.request method path body?] } limit? t) := by
  rw [← Server.fst_take world.server (world.client.request method path body?)]
  rfl

variable {limit? : Option Nat} {t : Nat}

theorem limited_of_late {ms : Nat} (h : ¬ InTime limit? (t + ms)) : limit? ≠ none := by
  rintro rfl
  exact h nofun

theorem await_ends (ht : InTime limit? t) (client : ApiClient) (exchange? : Option Exchange) (world : ApiWorld) :
    Ends limit? t client.response? exchange? world (await client exchange? (Scene.at world limit? t)) := by
  cases exchange? with
  | none => exact .fails rfl
  | some e =>
    rw [await]
    by_cases hlate : client.requestTimeoutMs ≤ e.delay
    · have hnone : client.response? e = none := if_pos hlate
      rw [if_pos hlate]
      rcases Task.wait_cases ht world client.requestTimeoutMs with ⟨-, hwait⟩ | ⟨hcut, hwait⟩
      · rw [Task.bind_returned hwait]
        exact .fails hnone
      · rw [Task.bind_cutOff hwait]
        exact .cutOff (limited_of_late hcut) rfl (Or.inl hnone)
    · have hresponse : client.response? e = e.response? := if_neg hlate
      rw [if_neg hlate]
      rcases Task.wait_cases ht world e.delay with ⟨hin, hwait⟩ | ⟨hcut, hwait⟩
      · rw [Task.bind_returned hwait]
        cases hr : e.response? with
        | none => exact .fails (hresponse.trans hr)
        | some r => exact .answered rfl (hresponse.trans hr) hin
      · rw [Task.bind_cutOff hwait]
        exact .cutOff (limited_of_late hcut) rfl (Or.inr hcut)

/-- A request for a record uses up an exchange, and ends with what the exchange answers. -/
theorem sendFor_ends (ht : InTime limit? t) (read? : Document → Option α) (method : Method) (path : String)
    (body? : Option Value) (world : ApiWorld) :
    Ends limit? t (world.client.answer? read?) world.server.script.head?
      { world with server := world.server.after [world.client.request method path body?] }
      (sendFor read? method path body? (Scene.at world limit? t)) := by
  have hends := await_ends ht world.client world.server.script.head?
    { world with server := world.server.after [world.client.request method path body?] }
  rw [← send_eq] at hends
  generalize hsend : send method path body? (Scene.at world limit? t) = x at hends
  rw [sendFor]
  cases hends with
  | @answered e r taken hr inTime =>
    rw [Task.bind_returned hsend]
    have hanswer : world.client.answer? read? e =
        if r.isSuccess then (Document.read? r.body).bind read? else none := by
      rw [ApiClient.answer?, hr]
      rfl
    -- the body is read only where the status is that of a success
    by_cases hsuccess : r.isSuccess
    · rw [if_pos hsuccess] at hanswer ⊢
      cases hread : (Document.read? r.body).bind read? with
      | some a => exact .answered taken (hanswer.trans hread) inTime
      | none => exact .fails (by rw [taken]; exact hanswer.trans hread)
    · rw [if_neg hsuccess] at hanswer ⊢
      exact .fails (by rw [taken]; exact hanswer)
  | fails silent =>
    rw [Task.bind_failed hsend]
    refine .fails ?_
    cases he : world.server.script.head? with
    | none => rfl
    | some e =>
      have hnone : world.client.response? e = none := by rwa [he] at silent
      simp [ApiClient.answer?, hnone]
  | cutOff limited taken late =>
    rw [Task.bind_cutOff hsend]
    refine .cutOff limited taken (late.imp_left fun hnone => ?_)
    simp [ApiClient.answer?, hnone]

end StatementApi

end JoinCanvas
