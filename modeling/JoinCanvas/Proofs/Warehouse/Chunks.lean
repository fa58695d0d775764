import JoinCanvas.Proofs.Warehouse.Polling

/-!
# The rows of a statement that comes in chunks

The report on a statement that succeeded holds the first chunk of its result, and each chunk may name the next one.  The
chunks are followed until one names none.  Each answer uses up an exchange of the server, so every chain of chunks comes
to an end: it is complete, or it breaks off where a request for a chunk is not answered by one.

* `exists_chain`: every script of a server holds one chain of chunks behind a link.
* `keyed_rowOf`: a row holds the cells by the names of the columns.
* `followLinks_chain`: following a complete chain returns the rows of its chunks; a broken one fails.
* `fetch_rows`: fetching returns the rows of all chunks in order, or fails and returns none.
-/

namespace JoinCanvas

open JoinCanvas.Http JoinCanvas.Json

/-! ### Rows -/

theorem keys_insertMember {key : String} {members : Members} (h : key ∉ members.keys) (value : Value) :
    (insertMember key value members).keys.Perm (key :: members.keys) := by
  induction members with
  | nil => exact .refl _
  | cons m rest ih =>
    obtain ⟨k, v⟩ := m
    have hne : key ≠ k := fun heq => h (heq ▸ List.mem_cons_self)
    rw [insertMember, if_neg hne]
    split
    · exact .refl _
    · exact ((ih fun hmem => h (List.mem_cons_of_mem _ hmem)).cons k).trans (.swap key k _)

theorem keys_ofMembers {members : Members} (h : members.keys.Nodup) : (ofMembers members).keys.Perm members.keys := by
  induction members using List.reverseRecOn with
  | nil => exact .refl _
  | append_singleton l m ih =>
    have hsplit : Members.keys (l ++ [m]) = Members.keys l ++ [m.1] := List.map_append
    rw [hsplit, List.nodup_append] at h
    have hl := ih h.1
    have hnew : m.1 ∉ (ofMembers l).keys := fun hmem =>
      h.2.2 m.1 (hl.mem_iff.1 hmem) m.1 (List.mem_singleton_self _) rfl
    rw [ofMembers_concat, hsplit]
    exact (keys_insertMember hnew m.2).trans ((hl.cons m.1).trans (List.perm_append_singleton _ _).symm)

/-- The row holds the cells by the names of the columns: under each name the cell of its column, or null where the cells
have come to an end, and nothing else. -/
structure Keyed (columns : List String) (cells : List Value) (row : Members) : Prop where
  keys : row.keys.Perm columns
  cell : ∀ (j : Nat) (name : String), columns[j]? = some name → row.get? name = some (cells[j]?.getD .null)

theorem keyed_rowOf {columns : List String} (h : columns.Nodup) (cells : List Value) :
    Keyed columns cells (rowOf columns cells) := by
  have hkeys : Members.keys (columns.zip (cells ++ List.replicate columns.length .null)) = columns :=
    List.map_fst_zip (by simp)
  refine ⟨(keys_ofMembers (by rwa [hkeys])).trans (.of_eq hkeys), fun j name hj => ?_⟩
  have hlt : j < columns.length := (List.getElem?_eq_some_iff.1 hj).1
  have hcell : (cells ++ List.replicate columns.length .null)[j]? = some (cells[j]?.getD .null) := by
    by_cases hcells : j < cells.length
    · rw [List.getElem?_append_left hcells, List.getElem?_eq_getElem hcells]
      rfl
    · have hnull : j - cells.length < columns.length := by omega
      rw [List.getElem?_append_right (by omega), List.getElem?_replicate, if_pos hnull,
        List.getElem?_eq_none (by omega)]
      rfl
  exact get?_ofMembers_of_mem (by rwa [hkeys]) (List.mem_of_getElem? (List.getElem?_zip_eq_some.2 ⟨hj, hcell⟩))

/-! ### Chains of chunks -/

/-- The chunks behind a link that the answers of a server give one after another, and whether the last of them names no
other. -/
inductive Chain (client : ApiClient) : List Exchange → Option String → List Chunk → Bool → Prop where
  | ends (script : List Exchange) : Chain client script none [] true
  | breaks {script : List Exchange} {link : String}
      (silent : script.head?.bind (client.answer? Chunk.ofDocument?) = none) : Chain client script (some link) [] false
  | leads {e : Exchange} {script : List Exchange} {link : String} {chunk : Chunk} {chunks : List Chunk} {complete : Bool}
      (answer : client.answer? Chunk.ofDocument? e = some chunk) (next : Chain client script chunk.next? chunks complete) :
      Chain client (e :: script) (some link) (chunk :: chunks) complete

theorem exists_chain (client : ApiClient) (script : List Exchange) (link? : Option String) :
    ∃ chunks complete, Chain client script link? chunks complete := by
  induction script generalizing link? with
  | nil =>
    cases link? with
    | none => exact ⟨[], true, .ends []⟩
    | some link => exact ⟨[], false, .breaks rfl⟩
  | cons e rest ih =>
    cases link? with
    | none => exact ⟨[], true, .ends _⟩
    | some link =>
      cases hanswer : client.answer? Chunk.ofDocument? e with
      | none => exact ⟨[], false, .breaks hanswer⟩
      | some chunk =>
        obtain ⟨chunks, complete, hchain⟩ := ih chunk.next?
        exact ⟨chunk :: chunks, complete, .leads hanswer hchain⟩

theorem Chain.of_none {client : ApiClient} {script : List Exchange} {chunks : List Chunk} {complete : Bool}
    (h : Chain client script none chunks complete) : chunks = [] ∧ complete = true := by
  cases h
  exact ⟨rfl, rfl⟩

/-- How following a chain ends: with rows when it is complete and with a fault when it is broken, unless the time is up
before. -/
inductive Follows (limit? : Option Nat) : Bool → List Members → Outcome (List Members) → Prop where
  | returned (rows : List Members) : Follows limit? true rows (.returned rows)
  | failed (rows : List Members) (f : Fault) : Follows limit? false rows (.failed f)
  | cutOff (complete : Bool) (rows : List Members) (limited : limit? ≠ none) : Follows limit? complete rows .cutOff

theorem Follows.prepend {σ : Type} {limit? : Option Nat} {complete : Bool} {rows : List Members}
    {k : Task σ (List Members)} {s : Scene σ} (h : Follows limit? complete rows (k s).1) (more : List Members) :
    let x := (do return more ++ (← k) : Task σ (List Members)) s
    Follows limit? complete (more ++ rows) x.1 ∧ x.2 = (k s).2 := by
  intro x
  rcases hk : k s with ⟨outcome, s'⟩
  rw [hk] at h
  cases h with
  | returned =>
    have hx : x = (.returned (more ++ rows), s') := Task.bind_returned hk
    rw [hx]
    exact ⟨.returned _, rfl⟩
  | failed _ f =>
    have hx : x = (.failed f, s') := Task.bind_failed hk
    rw [hx]
    exact ⟨.failed _ f, rfl⟩
  | cutOff _ _ limited =>
    have hx : x = (.cutOff, s') := Task.bind_cutOff hk
    rw [hx]
    exact ⟨.cutOff _ _ limited, rfl⟩

namespace ApiClient

/-- The request for a chunk. -/
def follow (client : ApiClient) (link : String) : Request :=
  client.request .get link

end ApiClient

namespace StatementApi

theorem followLinks_none (columns : List String) (fuel : Nat) (s : Scene ApiWorld) :
    followLinks columns fuel none s = (.returned [], s) := by
  cases fuel <;> rfl

/-- Each chunk of a chain takes one request; where it breaks off one more is sent. -/
theorem followLinks_chain {limit? : Option Nat} {t : Nat} (ht : InTime limit? t) (columns : List String)
    {world : ApiWorld} {script : List Exchange} (hscript : world.server.script = script) {fuel : Nat}
    (hfuel : script.length < fuel) {link? : Option String} {chunks : List Chunk} {complete : Bool}
    (hchain : Chain world.client script link? chunks complete) :
    let x := followLinks columns fuel link? (Scene.at world limit? t)
    Follows limit? complete (chunks.flatMap (·.rowsFor columns)) x.1 ∧
      ∃ links : List String,
        x.2.world = { world with server := world.server.after (links.map world.client.follow) } := by
  -- the fuel goes down with the script, so it is never used up
  induction fuel generalizing world t script link? chunks complete with
  | zero => exact absurd hfuel (Nat.not_lt_zero _)
  | succ fuel ih =>
    cases link? with
    | none =>
      obtain ⟨rfl, rfl⟩ := hchain.of_none
      rw [followLinks_none]
      exact ⟨.returned [], [], rfl⟩
    | some link =>
      have hends := sendFor_ends ht Chunk.ofDocument? .get link none world
      generalize hsend : sendFor Chunk.ofDocument? .get link none (Scene.at world limit? t) = y at hends
      rw [hscript] at hends
      rw [followLinks]
      cases hends with
      | @answered e chunk taken answer inTime =>
        rw [Task.bind_returned hsend]
        cases hchain with
        | breaks silent =>
          rw [taken] at silent
          exact absurd (silent.symm.trans answer) nofun
        | @leads _ rest _ _ chunks _ answer' next =>
          obtain rfl := Option.some.inj taken
          obtain rfl := Option.some.inj (answer.symm.trans answer')
          let world' : ApiWorld := { world with server := world.server.after [world.client.follow link] }
          have hrest : world'.server.script = rest := by
            rw [Server.script_after, hscript]
            rfl
          obtain ⟨hfollows, links, hworld⟩ := ih inTime hrest (Nat.lt_of_succ_lt_succ hfuel) next
          obtain ⟨hmore, hsame⟩ := hfollows.prepend (chunk.rowsFor columns)
          exact ⟨hmore, link :: links, (congrArg Scene.world hsame).trans hworld⟩
      | fails silent =>
        rw [Task.bind_failed hsend]
        cases hchain with
        | breaks => exact ⟨.failed _ _, [link], rfl⟩
        | leads answer => exact absurd (silent.symm.trans answer) nofun
      | cutOff limited =>
        rw [Task.bind_cutOff hsend]
        exact ⟨.cutOff _ _ limited, [link], rfl⟩

/-- The chunks of a statement that succeeded, as rows. -/
def chunkRows (report : StatementReport) : Task ApiWorld (List Members) :=
  match report.chunk? with
  | none => return []
  | some chunk => do
    let links := (← Task.world).server.exchanges.length + 1
    return chunk.rowsFor report.columns ++ (← followLinks report.columns links chunk.next?)

theorem fetch_eq (n : Nat) : fetch n = (finalReport n >>= chunkRows) := rfl

variable {n : Nat} {known : StatementReport} {limit? : Option Nat} {t : Nat} {world : ApiWorld}

theorem chunkRows_chain (ht : InTime limit? t) {report : StatementReport} {chunks : List Chunk} {complete : Bool}
    (hchain : Chain world.client world.server.script (report.chunk?.bind (·.next?)) chunks complete) :
    let x := chunkRows report (Scene.at world limit? t)
    Follows limit? complete ((report.chunk?.toList ++ chunks).flatMap (·.rowsFor report.columns)) x.1 ∧
      ∃ links : List String,
        x.2.world = { world with server := world.server.after (links.map world.client.follow) } := by
  rw [chunkRows]
  cases hchunk : report.chunk? with
  | none =>
    rw [hchunk] at hchain
    obtain ⟨rfl, rfl⟩ := hchain.of_none
    exact ⟨.returned [], [], rfl⟩
  | some chunk =>
    rw [hchunk] at hchain
    have hfuel : world.server.script.length < world.server.exchanges.length + 1 := by
      rw [Server.script]
      split
      · exact Nat.lt_succ_self _
      · exact Nat.succ_pos _
    obtain ⟨hfollows, links, hworld⟩ := followLinks_chain ht report.columns rfl hfuel hchain
    obtain ⟨hmore, hsame⟩ := hfollows.prepend (chunk.rowsFor report.columns)
    exact ⟨hmore, links, (congrArg Scene.world hsame).trans hworld⟩

/-- Fetching a statement polls it and follows the chunks of its result, if it succeeded. -/
theorem fetch_polls (ht : InTime limit? t) (hknown : world.reports[n]? = some known) :
    ∃ polls last, Polls world.client limit? world.client.settings.maxPollAttempts t known world.server.script polls last ∧
      ∀ chunks complete,
        Chain world.client (world.server.script.drop polls) (last.chunk?.bind (·.next?)) chunks complete →
        let x := fetch n (Scene.at world limit? t)
        (∃ links : List String, (links ≠ [] → last.state = .succeeded) ∧ x.2.world = { world with
          server := world.server.after
            (List.replicate polls (world.client.status known.id) ++ links.map world.client.follow)
          reports := world.reports.set n last }) ∧
        (last.state = .succeeded →
          Follows limit? complete ((last.chunk?.toList ++ chunks).flatMap (·.rowsFor last.columns)) x.1) ∧
        (last.state ≠ .succeeded → ∀ rows, x.1 ≠ .returned rows) := by
  obtain ⟨polls, last, hpolls, hworld, houtcome⟩ :=
    waitFor_polls ht hknown world.client.settings.maxPollAttempts 0
  refine ⟨polls, last, hpolls, fun chunks complete hchain => ?_⟩
  rw [fetch_eq]
  rcases houtcome with ⟨hstate, t', ht', hwait⟩ | ⟨hstate, hnot⟩
  · have hfinal : finalReport n (Scene.at world limit? t) = _ := hwait
    rw [hworld] at hfinal
    rw [Task.bind_returned hfinal]
    let world' : ApiWorld := { world with
      server := world.server.after (List.replicate polls (world.client.status known.id))
      reports := world.reports.set n last }
    have hchain' : Chain world'.client world'.server.script (last.chunk?.bind (·.next?)) chunks complete := by
      rw [Server.script_after, List.length_replicate]
      exact hchain
    obtain ⟨hfollows, links, hlinks⟩ := chunkRows_chain ht' hchain'
    refine ⟨⟨links, fun _ => hstate, ?_⟩, fun _ => hfollows, fun h => absurd hstate h⟩
    rw [hlinks, Server.after_append]
  · -- without a final report no chunk is asked for
    have hfinal : ∀ r, (finalReport n (Scene.at world limit? t)).1 ≠ .returned r := hnot
    obtain ⟨hsnd, hnone⟩ := Task.bind_of_not_returned hfinal chunkRows
    refine ⟨⟨[], fun h => absurd rfl h, ?_⟩, fun h => absurd h hstate, fun _ => hnone⟩
    rw [hsnd, List.map_nil, List.append_nil]
    exact hworld

end StatementApi

open StatementApi

/-- Fetching a statement that succeeds returns one row for each row of each chunk of its result, in their order, that
holds the cells by the names of the columns.  Where the chain of chunks is broken it fails, and it returns nothing if the
time is up before. -/
theorem fetch_rows {n : Nat} {s : Scene ApiWorld} {known report : StatementReport} {polls : Nat} {chunks : List Chunk}
    {complete : Bool} (hknown : s.world.reports[n]? = some known)
    (hpolls : Polls s.world.client s.left? s.world.client.settings.maxPollAttempts 0 known s.world.server.script polls
      report)
    (hsucceeded : report.state = .succeeded) (hcolumns : report.columns.Nodup)
    (hchain : Chain s.world.client (s.world.server.script.drop polls) (report.chunk?.bind (·.next?)) chunks complete) :
    let x := (fetch n s).1
    (complete = true ∧ ∃ rows, x = .returned rows ∧
        List.Forall₂ (Keyed report.columns) ((report.chunk?.toList ++ chunks).flatMap (·.rows)) rows) ∨
      (complete = false ∧ ∃ f, x = .failed f) ∨ (s.left? ≠ none ∧ x = .cutOff) := by
  obtain ⟨polls', last, hpolls', hfetch⟩ := fetch_polls (inTime_zero s.left?) hknown
  obtain ⟨rfl, rfl⟩ := hpolls.unique hpolls'
  obtain ⟨-, hfollows, -⟩ := hfetch chunks complete hchain
  have hrows : List.Forall₂ (Keyed report.columns) ((report.chunk?.toList ++ chunks).flatMap (·.rows))
      ((report.chunk?.toList ++ chunks).flatMap (·.rowsFor report.columns)) := by
    have hmap : (report.chunk?.toList ++ chunks).flatMap (·.rowsFor report.columns) =
        ((report.chunk?.toList ++ chunks).flatMap (·.rows)).map (rowOf report.columns) := by
      rw [List.map_flatMap]
      rfl
    rw [hmap, List.forall₂_map_right_iff, List.forall₂_same]
    exact fun cells _ => keyed_rowOf hcolumns cells
  have hends := hfollows hsucceeded
  rw [Scene.at_zero] at hends
  intro x
  generalize hx : (fetch n s).1 = outcome at hends
  generalize (report.chunk?.toList ++ chunks).flatMap (·.rowsFor report.columns) = rows at hends hrows
  simp only [x, hx]
  cases hends with
  | returned => exact Or.inl ⟨rfl, rows, rfl, hrows⟩
  | failed _ f => exact Or.inr (Or.inl ⟨rfl, f, rfl⟩)
  | cutOff _ _ limited => exact Or.inr (Or.inr ⟨limited, rfl⟩)

/-- The report on a statement that succeeded with two columns, the first row, and a link to the next one. -/
def firstChunkAnswer : Value :=
  .record [("statement_id", .string "s"), ("status", .record [("state", .string "SUCCEEDED")]),
    ("manifest", .record [("schema", .record [("columns",
      .array [.record [("name", .string "id")], .record [("name", .string "note")]])])]),
    ("result", .record [("data_array", .array [.array [.string "1", .string "a"]]),
      ("next_chunk_internal_link", .string "/next")])]

/-- A chunk with a row that is too short. -/
def lastChunkAnswer : Value :=
  .record [("data_array", .array [.array [.string "2"]])]

/-- A statement that is running, and succeeds when it is asked for. -/
def twoChunks : ApiWorld where
  server := { exchanges := [{ response? := some { body := firstChunkAnswer.text } },
    { response? := some { body := lastChunkAnswer.text } }] }
  client := ⟨"https://h", "", "w", {}, 30000⟩
  reports := [⟨"s", .running, none, [], none⟩]

/-- The theorem at that statement, whose short row is filled up with null. -/
theorem fetch_rows_twoChunks :
    let report : StatementReport :=
      ⟨"s", .succeeded, none, ["id", "note"], some { rows := [[.string "1", .string "a"]], next? := some "/next" }⟩
    let chunks : List Chunk := [{ rows := [[.string "2"]] }]
    twoChunks.reports[0]? = some ⟨"s", .running, none, [], none⟩ ∧
    Polls twoChunks.client none 600 0 ⟨"s", .running, none, [], none⟩ twoChunks.server.script 1 report ∧
    report.state = .succeeded ∧ report.columns.Nodup ∧
    Chain twoChunks.client (twoChunks.server.script.drop 1) (some "/next") chunks true ∧
    ∃ rows, (fetch 0 ⟨twoChunks, none⟩).1 = .returned rows ∧
      List.Forall₂ (Keyed ["id", "note"]) [[.string "1", .string "a"], [.string "2"]] rows := by
  intro report chunks
  have hfirst : twoChunks.client.answer? StatementReport.ofDocument?
      { response? := some { body := firstChunkAnswer.text } } = some report :=
    answer_text (by decide) (by rfl) StatementReport.ofDocument?
  have hlast : twoChunks.client.answer? Chunk.ofDocument? { response? := some { body := lastChunkAnswer.text } } =
      some { rows := [[.string "2"]] } :=
    answer_text (by decide) (by rfl) Chunk.ofDocument?
  have hpolls : Polls twoChunks.client none 600 0 ⟨"s", .running, none, [], none⟩ twoChunks.server.script 1 report :=
    .heard rfl hfirst (inTime_none _) (.final rfl)
  have hchain : Chain twoChunks.client (twoChunks.server.script.drop 1) (some "/next") chunks true :=
    .leads hlast (.ends [])
  have hcolumns : report.columns.Nodup := by decide
  refine ⟨rfl, hpolls, rfl, hcolumns, hchain, ?_⟩
  rcases fetch_rows (n := 0) (s := ⟨twoChunks, none⟩) rfl hpolls rfl hcolumns hchain with ⟨-, h⟩ | ⟨hbroken, -⟩ | ⟨hlimited, -⟩
  · exact h
  · exact absurd hbroken (Bool.false_ne_true ∘ Eq.symm)
  · exact absurd rfl hlimited

end JoinCanvas
