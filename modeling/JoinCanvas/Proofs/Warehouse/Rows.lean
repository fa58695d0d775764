import JoinCanvas.Proofs.Join.Coverage
import JoinCanvas.Proofs.Json.RoundTrip
import JoinCanvas.Proofs.Warehouse.Attempts
import JoinCanvas.Warehouse.StatementApi
import Mathlib.Data.List.Induction

/-!
# From the cells of the server to the rows of a result

A server gives each row as a list of cells and names the columns; the rows of a result hold the cells by these names.
Where two columns have one name the last of them counts, and the cells of the others are lost.

* `get?_rowOf`: what a row holds under a name.
* `Task.Ensures.andThen`: what is known of the world and of what a task returns.
* `ensures_waitFor`, `ensures_followLinks`, `ensures_fetch`: all rows of a result are made of rows of the server.
* `execute_rows`: the rows of the run of a canvas.
* `execute_loses`: a canvas that selects columns of one name in two tables loses one of them.
-/

namespace JoinCanvas

open JoinCanvas.Http JoinCanvas.Json JoinCanvas.Sql

namespace Json

theorem ofMembers_concat (l : Members) (m : String × Value) :
    ofMembers (l ++ [m]) = insertMember m.1 m.2 (ofMembers l) := by
  simp [ofMembers]

/-- The last of the members with a key counts. -/
theorem get?_ofMembers {l : Members} {j : Nat} {key : String} {v : Value} (h : l[j]? = some (key, v))
    (hlast : ∀ k m, j < k → l[k]? = some m → m.1 ≠ key) : Members.get? (ofMembers l) key = some v := by
  -- from the end of the list, as each member that is inserted hides those before it
  induction l using List.reverseRecOn with
  | nil => simp at h
  | append_singleton l m ih =>
    rw [ofMembers_concat, lookup_insertMember]
    by_cases hj : j = l.length
    · subst hj
      obtain rfl : m = (key, v) := by simpa using h
      simp
    · have hlt : j < l.length := by
        have := (List.getElem?_eq_some_iff.1 h).1
        simp only [List.length_append, List.length_singleton] at this
        omega
      have hne : m.1 ≠ key := hlast l.length m hlt (by simp)
      rw [if_neg (Ne.symm hne)]
      rw [List.getElem?_append_left hlt] at h
      refine ih h fun k n hk hn => hlast k n hk ?_
      rwa [List.getElem?_append_left (List.getElem?_eq_some_iff.1 hn).1]

/-- Members with different keys are all there. -/
theorem get?_ofMembers_of_mem {members : Members} (h : members.keys.Nodup) {key : String} {v : Value}
    (hmem : (key, v) ∈ members) : Members.get? (ofMembers members) key = some v := by
  obtain ⟨j, hj⟩ := List.getElem?_of_mem hmem
  refine get?_ofMembers hj fun k m hk hm hname => ?_
  have hkey : members.keys[j]? = some key := by rw [Members.keys, List.getElem?_map, hj, Option.map_some]
  have hsame : members.keys[k]? = some key := by rw [Members.keys, List.getElem?_map, hm, Option.map_some, hname]
  have hlt : j < members.keys.length := (List.getElem?_eq_some_iff.1 hkey).1
  exact absurd ((List.getElem?_inj hlt h).1 (hkey.trans hsame.symm)) (Nat.ne_of_lt hk)

end Json

/-- A row holds under a name the cell of the last column of that name. -/
theorem get?_rowOf {columns : List String} {cells : List Value} (hwidth : cells.length = columns.length) {j : Nat}
    {name : String} (h : columns[j]? = some name) (hlast : ∀ k, j < k → columns[k]? ≠ some name) :
    (rowOf columns cells).get? name = cells[j]? := by
  have hlt : j < cells.length := hwidth ▸ (List.getElem?_eq_some_iff.1 h).1
  rw [List.getElem?_eq_getElem hlt]
  refine get?_ofMembers (j := j) (List.getElem?_zip_eq_some.2 ⟨h, ?_⟩) fun k m hk hm hname => ?_
  · rw [List.getElem?_append_left hlt, List.getElem?_eq_getElem hlt]
  · exact hlast k hk (hname ▸ (List.getElem?_zip_eq_some.1 hm).1)

/-! ### What a server says -/

namespace Http.Server

variable {α : Type}

/-- One of the answers to come is read as this. -/
def Says (server : Server) (read? : Document → Option α) (a : α) : Prop :=
  ∃ e ∈ server.exchanges, ∃ r, e.response? = some r ∧ (Document.read? r.body).bind read? = some a

/-- One of the answers to come gives a row of these cells. -/
def Gives (server : Server) (cells : List Value) : Prop :=
  (∃ report chunk, server.Says StatementReport.ofDocument? report ∧ report.chunk? = some chunk ∧ cells ∈ chunk.rows) ∨
    ∃ chunk, server.Says Chunk.ofDocument? chunk ∧ cells ∈ chunk.rows

/-- The results of the server have these columns, and one cell for each in every row. -/
structure Labels (server : Server) (names : List String) : Prop where
  columns : ∀ report, server.Says StatementReport.ofDocument? report → report.state = .succeeded →
    report.columns = names
  width : ∀ cells, server.Gives cells → cells.length = names.length

/-- The report is one that the server says, but for its identifier. -/
def Knows (server : Server) (report : StatementReport) : Prop :=
  ∃ id, server.Says StatementReport.ofDocument? { report with id }

/-- All that is still to come from the server, and the reports that are kept, are of this server. -/
structure Holding (server : Server) (world : ApiWorld) : Prop where
  exchanges : ∀ e ∈ world.server.exchanges, e ∈ server.exchanges
  reports : ∀ report ∈ world.reports, server.Knows report

end Http.Server

/-! ### What tasks ensure -/

namespace Task

variable {σ α β : Type} {P : σ → Prop} {Q : α → Prop} {R : β → Prop}

/-- The task keeps a property of the world, and what it returns has another. -/
def Ensures (P : σ → Prop) (t : Task σ α) (Q : α → Prop) : Prop :=
  ∀ s a s', P s.world → t s = (.returned a, s') → P s'.world ∧ Q a

theorem ensures_give {a : α} (h : Q a) : Ensures P (give a) Q := by
  intro s b s' hs heq
  obtain ⟨hb, rfl⟩ := Prod.mk.inj heq
  exact ⟨hs, Outcome.returned.inj hb ▸ h⟩

theorem ensures_fail (f : Fault) : Ensures P (fail f) Q :=
  fun _ _ _ _ heq => absurd heq nofun

theorem ensures_world : Ensures P world P := by
  intro s b s' hs heq
  obtain ⟨hb, rfl⟩ := Prod.mk.inj heq
  exact ⟨hs, Outcome.returned.inj hb ▸ hs⟩

theorem ensures_change {f : σ → σ} (h : ∀ w, P w → P (f w)) : Ensures P (change f) fun _ => True := by
  intro s b s' hs heq
  obtain ⟨-, rfl⟩ := Prod.mk.inj heq
  exact ⟨h _ hs, trivial⟩

theorem ensures_wait (ms : Nat) : Ensures P (wait ms) fun _ => True := by
  intro s b s' hs heq
  unfold wait at heq
  split at heq
  · obtain ⟨-, rfl⟩ := Prod.mk.inj heq
    exact ⟨hs, trivial⟩
  · split at heq
    · exact absurd heq nofun
    · obtain ⟨-, rfl⟩ := Prod.mk.inj heq
      exact ⟨hs, trivial⟩

theorem ensures_check (fault? : Option Fault) : Ensures P (check fault?) fun _ => fault? = none := by
  cases fault? with
  | none => exact ensures_give rfl
  | some f => exact ensures_fail f

theorem Ensures.andThen {t : Task σ α} {next : α → Task σ β} (ht : Ensures P t Q)
    (hnext : ∀ a, Q a → Ensures P (next a) R) : Ensures P (t >>= next) R := by
  intro s b s' hs heq
  obtain ⟨a, s₁, ha, hb⟩ := bind_eq_returned_iff.1 heq
  obtain ⟨hs₁, hq⟩ := ht s a s₁ hs ha
  exact hnext a hq s₁ b s' hs₁ hb

end Task

namespace StatementApi

open Http.Server JoinCanvas.Task

variable {server : Server} {α : Type}

theorem ensures_send (method : Method) (path : String) (body? : Option Value) :
    Ensures server.Holding (send method path body?) fun r => ∃ e ∈ server.exchanges, e.response? = some r := by
  refine ensures_world.andThen fun world hworld => ?_
  generalize (⟨method, world.client.baseUrl ++ path, "Bearer " ++ world.client.token, body?⟩ : Request) = request
  have htaken : ∀ e, (world.server.take request).1 = some e → e ∈ server.exchanges := by
    intro e he
    unfold Server.take at he
    split at he
    · exact hworld.exchanges e (List.mem_of_head? he)
    · exact absurd he nofun
  have hleft : ∀ e ∈ (world.server.take request).2.exchanges, e ∈ server.exchanges := by
    intro e he
    unfold Server.take at he
    split at he
    · exact hworld.exchanges e (List.mem_of_mem_tail he)
    · exact hworld.exchanges e he
  refine (ensures_change fun w hw => ⟨hleft, hw.reports⟩).andThen fun _ _ => ?_
  split
  · exact ensures_fail _
  · next e he =>
    split
    · exact (ensures_wait _).andThen fun _ _ => ensures_fail _
    · refine (ensures_wait _).andThen fun _ _ => ?_
      split
      · next r hr => exact ensures_give ⟨e, htaken e he, hr⟩
      · exact ensures_fail _

theorem ensures_sendFor (read? : Document → Option α) (method : Method) (path : String) (body? : Option Value) :
    Ensures server.Holding (sendFor read? method path body?) (server.Says read?) := by
  refine (ensures_send method path body?).andThen fun r hr => ?_
  obtain ⟨e, he, hresponse⟩ := hr
  split
  · split
    · next a ha => exact ensures_give ⟨e, he, r, hresponse, ha⟩
    · exact ensures_fail _
  · exact ensures_fail _

theorem ensures_execute (sql : String) : Ensures server.Holding (execute sql) fun _ => True := by
  refine ensures_world.andThen fun world hworld => ?_
  refine (ensures_sendFor StatementReport.ofDocument? .post _ _).andThen fun report hreport => ?_
  refine (ensures_check _).andThen fun _ _ => (ensures_change fun w hw => ⟨hw.exchanges, ?_⟩).andThen fun _ _ =>
    ensures_give trivial
  intro other hother
  rcases List.mem_append.1 hother with hother | hother
  · exact hw.reports other hother
  · obtain rfl := List.mem_singleton.1 hother
    exact ⟨other.id, hreport⟩

/-- A statement that was never accepted counts as pending, so what is final is a report of the server. -/
theorem ensures_latest (n : Nat) :
    Ensures server.Holding (latest n) fun report => report.state.isFinal = true → server.Knows report := by
  refine ensures_world.andThen fun world hworld => ensures_give fun hfinal => ?_
  cases hn : world.reports[n]? with
  | none =>
    rw [hn] at hfinal
    exact absurd hfinal (by decide)
  | some report => exact hworld.reports report (List.mem_of_getElem? hn)

theorem ensures_poll (n : Nat) : Ensures server.Holding (poll n) fun _ => True := by
  refine (ensures_latest n).andThen fun known _ => ?_
  refine (ensures_sendFor StatementReport.ofDocument? .get _ none).andThen fun report hreport => ?_
  refine (ensures_change fun w hw => ⟨hw.exchanges, fun other hother => ?_⟩).andThen fun _ _ => ensures_give trivial
  rcases List.mem_or_eq_of_mem_set hother with hother | rfl
  · exact hw.reports other hother
  · exact ⟨report.id, hreport⟩

theorem succeeded_of_final {report : StatementReport} (hfinal : report.state.isFinal = true)
    (hfault : report.fault? = none) : report.state = .succeeded := by
  unfold StatementReport.fault? at hfault
  cases hstate : report.state with
  | succeeded => rfl
  | pending | running => simp [hstate, StatementState.isFinal] at hfinal
  | failed | canceled | closed => simp [hstate] at hfault

/-- Waiting ends with a report of the server on a statement that succeeded. -/
theorem ensures_waitFor (n remaining asked : Nat) :
    Ensures server.Holding (waitFor n remaining asked) fun report =>
      report.state = .succeeded ∧ server.Knows report := by
  induction remaining generalizing asked with
  | zero =>
    unfold waitFor
    refine (ensures_latest n).andThen fun report hreport => ?_
    split
    · next hfinal =>
      exact (ensures_check _).andThen fun _ hfault =>
        ensures_give ⟨succeeded_of_final hfinal hfault, hreport hfinal⟩
    · exact ensures_fail _
  | succ remaining ih =>
    unfold waitFor
    refine (ensures_latest n).andThen fun report hreport => ?_
    split
    · next hfinal =>
      exact (ensures_check _).andThen fun _ hfault =>
        ensures_give ⟨succeeded_of_final hfinal hfault, hreport hfinal⟩
    · exact ensures_world.andThen fun _ _ => (ensures_wait _).andThen fun _ _ => (ensures_poll n).andThen fun _ _ =>
        ih (asked + 1)

theorem ensures_finalReport (n : Nat) :
    Ensures server.Holding (finalReport n) fun report => report.state = .succeeded ∧ server.Knows report :=
  ensures_world.andThen fun _ _ => ensures_waitFor n _ 0

/-- The rows are made of rows of the server by these columns. -/
def AreOf (server : Server) (columns : List String) (rows : List Members) : Prop :=
  ∀ row ∈ rows, ∃ cells, server.Gives cells ∧ row = rowOf columns cells

theorem areOf_rowsFor {columns : List String} {chunk : Chunk} (h : ∀ cells ∈ chunk.rows, server.Gives cells) :
    AreOf server columns (chunk.rowsFor columns) := by
  intro row hrow
  obtain ⟨cells, hcells, rfl⟩ := List.mem_map.1 hrow
  exact ⟨cells, h cells hcells, rfl⟩

theorem AreOf.append {columns : List String} {rows more : List Members} (hrows : AreOf server columns rows)
    (hmore : AreOf server columns more) : AreOf server columns (rows ++ more) := by
  intro row hrow
  rcases List.mem_append.1 hrow with hrow | hrow
  · exact hrows row hrow
  · exact hmore row hrow

theorem ensures_followLinks (columns : List String) (n : Nat) (link? : Option String) :
    Ensures server.Holding (followLinks columns n link?) (AreOf server columns) := by
  induction n generalizing link? with
  | zero =>
    cases link? with
    | none => exact ensures_give nofun
    | some link => exact ensures_fail _
  | succ n ih =>
    cases link? with
    | none => exact ensures_give nofun
    | some link =>
      refine (ensures_sendFor Chunk.ofDocument? .get link none).andThen fun chunk hchunk => ?_
      refine (ih chunk.next?).andThen fun rest hrest => ensures_give (AreOf.append ?_ hrest)
      exact areOf_rowsFor fun cells hcells => Or.inr ⟨chunk, hchunk, hcells⟩

/-- All rows of a statement are made of rows of the server, by the columns of a statement that succeeded. -/
theorem ensures_fetch (n : Nat) {names : List String} (h : server.Labels names) :
    Ensures server.Holding (fetch n) (AreOf server names) := by
  refine (ensures_finalReport n).andThen fun report hreport => ?_
  obtain ⟨hstate, id, hsays⟩ := hreport
  have hcolumns : report.columns = names := h.columns { report with id } hsays hstate
  split
  · exact ensures_give nofun
  · next chunk hchunk =>
    refine ensures_world.andThen fun _ _ => (ensures_followLinks _ _ _).andThen fun rest hrest => ensures_give ?_
    rw [hcolumns] at hrest ⊢
    exact (areOf_rowsFor fun cells hcells => Or.inl ⟨_, chunk, hsays, hchunk, hcells⟩).append hrest

/-- A request that is answered at once and read. -/
theorem sendFor_of_read {α : Type} {read? : Document → Option α} {a : α} {method : Method} {path : String}
    {body? : Option Value} {world : ApiWorld} {left? : Option Nat} {r : Response} {rest : List Exchange}
    (hreach : world.server.inReach = true) (hnext : world.server.exchanges = { response? := some r } :: rest)
    (htimeout : 0 < world.client.requestTimeoutMs) (hsuccess : r.isSuccess = true)
    (hread : (Document.read? r.body).bind read? = some a) :
    ∃ server, sendFor read? method path body? ⟨world, left?⟩ = (.returned a, ⟨{ world with server }, left?⟩) := by
  have hwait : (Task.wait 0 : Task ApiWorld Unit) = fun s => (.returned (), s) := by
    funext s
    obtain ⟨w, left?⟩ := s
    cases left? <;> simp [Task.wait]
  have hsend : ∃ server, send method path body? ⟨world, left?⟩ = (.returned r, ⟨{ world with server }, left?⟩) := by
    let request : Request := ⟨method, world.client.baseUrl ++ path, "Bearer " ++ world.client.token, body?⟩
    refine ⟨(world.server.take request).2, ?_⟩
    refine Task.bind_eq_returned_iff.2 ⟨world, _, rfl, ?_⟩
    simp only [Server.take, hreach, if_true, hnext, List.head?_cons]
    refine Task.bind_eq_returned_iff.2 ⟨(), _, rfl, ?_⟩
    rw [if_neg (Nat.not_le.2 htimeout), hwait]
    rfl
  obtain ⟨server, hsend⟩ := hsend
  refine ⟨server, Task.bind_eq_returned_iff.2 ⟨r, _, hsend, ?_⟩⟩
  rw [if_pos hsuccess, hread]
  rfl

end StatementApi

/-! ### The rows of a run -/

/-- The name of a selected expression in the result: its alias, or that of its column. -/
def Sql.Item.resultName (i : Item) : String :=
  match i.alias?, i.expr with
  | some name, _ => name
  | none, .column _ name => name
  | none, e => e.text

theorem areOf_of_succeeds {api : Config} {record : Connection} {sql : String} {s : Scene ApiWorld} {r : QueryResult}
    {server : Server} {names : List String} (hlabels : server.Labels names) (hworld : server.Holding s.world)
    (h : Session.Succeeds (statementApi api) record sql s r) : StatementApi.AreOf server names r.rows := by
  obtain ⟨s₁, s₂, s₃, hopening, ⟨operation, t₁, t₂, hexecute, hreads, -⟩, -⟩ := h
  have hopens : Task.Ensures server.Holding (Session.opening (statementApi api) record) fun _ => True := by
    refine Task.Ensures.andThen (Q := fun _ => True) ?_ fun _ _ => Task.ensures_give trivial
    cases hclient : StatementApi.clientFor api record with
    | error f =>
      simp only [statementApi, hclient]
      exact Task.ensures_fail f
    | ok client =>
      simp only [statementApi, hclient]
      exact Task.ensures_change fun w hw => ⟨hw.exchanges, hw.reports⟩
  obtain ⟨hs₁, -⟩ := hopens s () s₁ hworld hopening
  obtain ⟨ht₁, -⟩ := StatementApi.ensures_execute sql s₁ operation t₁ hs₁ hexecute
  cases hreads with
  | read hrows hcolumns => exact (StatementApi.ensures_fetch operation hlabels t₁ _ _ ht₁ hrows).2

theorem sql_limited {m : Model} {q : Query} (hmanual : m.filters.manual? = none) (hq : m.query? = some q)
    {limit? : Option Nat} {limited : Compiled} (h : m.compileWithLimit? limit? = some limited) :
    limited.sql = q.text ∨ ∃ limit, limited.sql = withRowLimit q.text limit := by
  rw [Model.compileWithLimit?, compile_eq_of_query hmanual hq, Option.map_some, Option.some.injEq] at h
  cases limit? with
  | none => exact Or.inl (h ▸ rfl)
  | some limit =>
    refine Or.inr ⟨limit, ?_⟩
    rw [← h]

theorem exists_last {α β : Type} (f : α → β) {l : List α} {k : Nat} {a : α} (h : l[k]? = some a) :
    ∃ j b, k ≤ j ∧ l[j]? = some b ∧ f b = f a ∧ ∀ i c, j < i → l[i]? = some c → f c ≠ f a := by
  -- from the end of the list, where the last of them is met first
  induction l using List.reverseRecOn with
  | nil => simp at h
  | append_singleton l x ih =>
    have hlength : ∀ i c, (l ++ [x])[i]? = some c → i < l.length + 1 := fun i c hi => by
      simpa using (List.getElem?_eq_some_iff.1 hi).1
    by_cases hx : f x = f a
    · refine ⟨l.length, x, ?_, by simp, hx, fun i c hi hc => ?_⟩
      · have := hlength k a h
        omega
      · have := hlength i c hc
        omega
    · have hk : k < l.length := by
        by_contra hk
        have hk' : k = l.length := by
          have := hlength k a h
          omega
        subst hk'
        obtain rfl : x = a := by simpa using h
        exact hx rfl
      rw [List.getElem?_append_left hk] at h
      obtain ⟨j, b, hkj, hj, hb, hlast⟩ := ih h
      have hjl := (List.getElem?_eq_some_iff.1 hj).1
      refine ⟨j, b, hkj, by rwa [List.getElem?_append_left hjl], hb, fun i c hi hc => ?_⟩
      by_cases hil : i < l.length
      · rw [List.getElem?_append_left hil] at hc
        exact hlast i c hi hc
      · obtain rfl : i = l.length := by
          have := hlength i c hc
          omega
        obtain rfl : x = c := by simpa using hc
        exact hx

/-- In the run of a canvas every row of the result holds, under the name of each selected expression, the cell of the
last one of that name; so no cell is lost when the names are pairwise different.  The server is taken to name its
columns as the query does, and to give one cell for each of them. -/
theorem execute_rows {config api : Config} {store : Store} {m : Model} {requested : Option Nat} {server : Server}
    {q : Query} {r : ExecutionResult} (hmanual : m.filters.manual? = none) (hq : m.query? = some q)
    (hlabels : server.Labels (q.items.map Item.resultName))
    (hr : (Service.execute (statementApi api) config store m requested
      { scene := { world := { server } } }).1 = .ok r) :
    (r.sql = q.text ∨ ∃ limit, r.sql = withRowLimit q.text limit) ∧
    ∀ row ∈ r.rows, ∃ cells, server.Gives cells ∧ cells.length = q.items.length ∧
      (∀ (k : Nat) (i : Item), q.items[k]? = some i → ∃ (j : Nat) (last : Item), k ≤ j ∧ q.items[j]? = some last ∧
        last.resultName = i.resultName ∧
        (∀ (n : Nat) (other : Item), j < n → q.items[n]? = some other → other.resultName ≠ i.resultName) ∧
        row.get? i.resultName = cells[j]?) ∧
      ((q.items.map Item.resultName).Nodup → ∀ (k : Nat) (i : Item), q.items[k]? = some i →
        row.get? i.resultName = cells[k]?) := by
  obtain ⟨connection, record, limited, -, -, hlimited, hsql, hsucceeds⟩ := execute_returns hr
  refine ⟨hsql ▸ sql_limited hmanual hq hlimited, fun row hrow => ?_⟩
  have hholding : server.Holding { server } := ⟨fun _ h => h, nofun⟩
  obtain ⟨cells, hgives, rfl⟩ := areOf_of_succeeds hlabels hholding hsucceeds row hrow
  have hwidth := hlabels.width cells hgives
  have hget {j : Nat} {last : Item} (hj : q.items[j]? = some last)
      (hlast : ∀ (n : Nat) (other : Item), j < n → q.items[n]? = some other → other.resultName ≠ last.resultName) :
      (rowOf (q.items.map Item.resultName) cells).get? last.resultName = cells[j]? := by
    refine get?_rowOf hwidth (by simp [hj]) fun n hn hname => ?_
    rw [List.getElem?_map, Option.map_eq_some_iff] at hname
    obtain ⟨other, hother, hsame⟩ := hname
    exact hlast n other hn hother hsame
  refine ⟨cells, hgives, by simpa using hwidth, fun k i hi => ?_, fun hnodup k i hi => ?_⟩
  · obtain ⟨j, last, hkj, hj, hname, hlast⟩ := exists_last Item.resultName hi
    refine ⟨j, last, hkj, hj, hname, hlast, ?_⟩
    rw [← hname] at hlast ⊢
    exact hget hj hlast
  · refine hget hi fun n other hn hother hsame => ?_
    have hlt : k < (q.items.map Item.resultName).length := by
      simpa using (List.getElem?_eq_some_iff.1 hi).1
    have heq : (q.items.map Item.resultName)[k]? = (q.items.map Item.resultName)[n]? := by
      simp [hi, hother, hsame]
    have := (List.getElem?_inj hlt hnodup).1 heq
    omega

/-- The answer to a statement that succeeded with two columns of one name and one row. -/
def twoIdsAnswer : Value :=
  .record [("statement_id", .string "s"), ("status", .record [("state", .string "SUCCEEDED")]),
    ("manifest", .record [("schema", .record [("columns",
      .array [.record [("name", .string "id")], .record [("name", .string "id")]])])]),
    ("result", .record [("data_array", .array [.array [.string "1", .string "2"]])])]

def twoIdsServer : Server where
  exchanges := [{ response? := some { body := twoIdsAnswer.text } }]

def twoIdsReport : StatementReport :=
  ⟨"s", .succeeded, none, ["id", "id"], some { rows := [[.string "1", .string "2"]] }⟩

theorem read_twoIdsAnswer : Document.read? twoIdsAnswer.text = some twoIdsAnswer.toDocument :=
  read_text (by rfl)

theorem report_twoIdsAnswer : StatementReport.ofDocument? twoIdsAnswer.toDocument = some twoIdsReport := by
  rfl

theorem chunk_twoIdsAnswer : Chunk.ofDocument? twoIdsAnswer.toDocument = some {} := by
  rfl

def onWarehouse : Store :=
  { connections := [⟨"c", "h", "/w", ""⟩] }

theorem says_twoIds {α : Type} {read? : Document → Option α} {a : α} (h : twoIdsServer.Says read? a) :
    read? twoIdsAnswer.toDocument = some a := by
  obtain ⟨e, he, r, hr, hread⟩ := h
  obtain rfl := List.mem_singleton.1 he
  obtain rfl := Option.some.inj hr
  rwa [read_twoIdsAnswer] at hread

theorem gives_twoIds {cells : List Value} (h : twoIdsServer.Gives cells) : cells = [.string "1", .string "2"] := by
  rcases h with ⟨report, chunk, h, hchunk, hcells⟩ | ⟨chunk, h, hcells⟩
  · obtain rfl := Option.some.inj (report_twoIdsAnswer.symm.trans (says_twoIds h))
    obtain rfl := Option.some.inj hchunk
    exact List.mem_singleton.1 hcells
  · obtain rfl := Option.some.inj (chunk_twoIdsAnswer.symm.trans (says_twoIds h))
    exact absurd hcells List.not_mem_nil

theorem labels_twoIds : twoIdsServer.Labels ["id", "id"] := by
  refine ⟨fun report h _ => ?_, fun cells h => ?_⟩
  · obtain rfl := Option.some.inj (report_twoIdsAnswer.symm.trans (says_twoIds h))
    rfl
  · rw [gives_twoIds h]
    rfl

theorem succeeds_twoIds (sql : String) :
    Session.Succeeds (statementApi {}) ⟨"c", "h", "/w", ""⟩ sql ⟨{ server := twoIdsServer }, some 30000⟩
      ⟨["id", "id"], [[("id", .string "2")]]⟩ := by
  let client : ApiClient := ⟨"https://h", "", "w", {}, 30000⟩
  have hopening : Session.opening (statementApi {}) ⟨"c", "h", "/w", ""⟩ ⟨{ server := twoIdsServer }, some 30000⟩ =
      (.returned (), ⟨{ server := twoIdsServer, client }, some 30000⟩) := by
    rfl
  have hread : (Document.read? twoIdsAnswer.text).bind StatementReport.ofDocument? = some twoIdsReport := by
    rw [read_twoIdsAnswer]
    rfl
  have hsent : ∃ server, StatementApi.sendFor StatementReport.ofDocument? .post StatementApi.statementsPath
      (some (StatementApi.submission client sql)) ⟨{ server := twoIdsServer, client }, some 30000⟩ =
        (.returned twoIdsReport, ⟨{ server, client }, some 30000⟩) :=
    StatementApi.sendFor_of_read rfl rfl (by decide) rfl hread
  obtain ⟨server, hsend⟩ := hsent
  let s : Scene ApiWorld := ⟨{ server, client, reports := [twoIdsReport] }, some 30000⟩
  have hexecute : (statementApi {}).execute sql ⟨{ server := twoIdsServer, client }, some 30000⟩ = (.returned 0, s) :=
    Task.bind_eq_returned_iff.2 ⟨_, _, rfl, Task.bind_eq_returned_iff.2 ⟨_, _, hsend, rfl⟩⟩
  exact ⟨_, s, s, hopening, ⟨0, s, s, hexecute, .read rfl rfl, nofun, rfl⟩, rfl⟩

/-- A canvas that selects a column of one name in two tables. -/
def twoIdsModel : Model where
  id := "m"
  tables := [{ id := "a", name := "orders", selections := [{ column := "id" }] },
    { id := "b", name := "customers", selections := [{ column := "id" }] }]
  edges := [{ id := "e", fromTable := "a", toTable := "b", key := .simple "customer_id" "id" }]
  connection? := some "c"

theorem run_twoIds : ∃ q r, twoIdsModel.query? = some q ∧ q.items.map Item.resultName = ["id", "id"] ∧
    (Service.execute (statementApi {}) {} onWarehouse twoIdsModel none
      { scene := { world := { server := twoIdsServer } } }).1 = .ok r ∧ r.rows = [[("id", .string "2")]] := by
  obtain ⟨q, hq, hitems, -⟩ := exists_query (m := twoIdsModel) rfl
  have hnames : q.items.map Item.resultName = ["id", "id"] := by
    rw [hitems]
    rfl
  have hconnection : twoIdsModel.connection? = some "c" := rfl
  have hrecord : onWarehouse.connection "c" = .ok ⟨"c", "h", "/w", ""⟩ := rfl
  obtain ⟨compiled, hcompiled⟩ : ∃ compiled, twoIdsModel.compile? = some compiled := ⟨_, compile_eq_of_query rfl hq⟩
  have hlimited : twoIdsModel.compileWithLimit? ((({} : Config).settingsFor "c").query.effectiveLimit none) =
      some compiled := by
    rw [Model.compileWithLimit?, hcompiled]
    rfl
  exact ⟨q, _, hq, hnames, execute_of_succeeds hconnection hlimited hrecord (succeeds_twoIds compiled.sql), rfl⟩

/-- The theorem at that canvas, where the cell of the second table is kept. -/
theorem execute_rows_twoIds : twoIdsModel.filters.manual? = none ∧ ∃ q r, twoIdsModel.query? = some q ∧
    twoIdsServer.Labels (q.items.map Item.resultName) ∧
    (Service.execute (statementApi {}) {} onWarehouse twoIdsModel none
      { scene := { world := { server := twoIdsServer } } }).1 = .ok r ∧
    (r.sql = q.text ∨ ∃ limit, r.sql = withRowLimit q.text limit) ∧
    ∀ row ∈ r.rows, ∃ cells, twoIdsServer.Gives cells ∧ cells.length = q.items.length ∧
      (∀ (k : Nat) (i : Item), q.items[k]? = some i → ∃ (j : Nat) (last : Item), k ≤ j ∧ q.items[j]? = some last ∧
        last.resultName = i.resultName ∧
        (∀ (n : Nat) (other : Item), j < n → q.items[n]? = some other → other.resultName ≠ i.resultName) ∧
        row.get? i.resultName = cells[j]?) ∧
      ((q.items.map Item.resultName).Nodup → ∀ (k : Nat) (i : Item), q.items[k]? = some i →
        row.get? i.resultName = cells[k]?) := by
  obtain ⟨q, r, hq, hnames, hr, -⟩ := run_twoIds
  have hlabels : twoIdsServer.Labels (q.items.map Item.resultName) := hnames ▸ labels_twoIds
  exact ⟨rfl, q, r, hq, hlabels, hr, execute_rows rfl hq hlabels hr⟩

/-- The server gives a cell for both selected columns, and the row holds only that of the second one. -/
theorem execute_loses : ∃ q r, twoIdsModel.filters.manual? = none ∧ twoIdsModel.query? = some q ∧
    twoIdsServer.Labels (q.items.map Item.resultName) ∧ q.items.length = 2 ∧
    (∀ cells, twoIdsServer.Gives cells → cells = [.string "1", .string "2"]) ∧
    (Service.execute (statementApi {}) {} onWarehouse twoIdsModel none
      { scene := { world := { server := twoIdsServer } } }).1 = .ok r ∧ r.rows = [[("id", .string "2")]] := by
  obtain ⟨q, r, hq, hnames, hr, hrows⟩ := run_twoIds
  have hlength : q.items.length = 2 := by simpa using congrArg List.length hnames
  exact ⟨q, r, rfl, hq, hnames ▸ labels_twoIds, hlength, fun cells h => gives_twoIds h, hr, hrows⟩

end JoinCanvas
