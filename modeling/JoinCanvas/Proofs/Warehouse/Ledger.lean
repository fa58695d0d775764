import JoinCanvas.Warehouse.Task

/-!
# What is handed out and closed

A warehouse hands out clients, sessions and running statements, and each has a call that closes it.  The log of the
calls tells what was handed out and what was closed.  It is balanced while everything that was handed out is either
held or was closed, once and in order.

* `Course.Balanced.accepts`, `Course.Balanced.givesUp`: something is handed out, something is given up and closed.
* `over_of_balanced`: where nothing is held any more, all that was handed out is closed.
-/

namespace JoinCanvas

variable {σ ω : Type}

/-- What a warehouse hands out.  Running statements are numbered in the order in which they were accepted. -/
inductive Resource where
  | operation (number : Nat)
  | session
  | client
deriving DecidableEq, Repr

/-- The call that closes it. -/
def Resource.closing : Resource → Event
  | .operation number => .closeOperation number
  | .session => .closeSession
  | .client => .closeClient

theorem Resource.closing_inj {r s : Resource} : r.closing = s.closing ↔ r = s := by
  cases r <;> cases s <;> simp [closing]

/-- The call asks for a client. -/
def Event.isConnect : Event → Bool
  | .connect _ => true
  | _ => false

/-- The number of statements that were accepted. -/
def acceptedIn (log : List Entry) : Nat :=
  log.countP fun e => e.returned && e.event.sql?.isSome

/-- Whether something was handed out: the call that asks for it returned. -/
def handedOut (log : List Entry) : Resource → Bool
  | .operation number => number < acceptedIn log
  | .session => log.any fun e => e.returned && e.event = .openSession
  | .client => log.any fun e => e.returned && e.event.isConnect

/-- How often something was closed. -/
def closes (log : List Entry) (r : Resource) : Nat :=
  log.countP fun e => e.event = r.closing

/-- Nothing is called after the client was closed, and nothing else after the session was closed. -/
def InOrder (log : List Entry) : Prop :=
  log.Pairwise fun a b => a.event ≠ .closeClient ∧ (a.event = .closeSession → b.event = .closeClient)

/-- Whether something is held. -/
def Held.holds (h : Held ω) : Resource → Bool
  | .operation number => h.operation?.any (·.number = number)
  | .session => h.session
  | .client => h.client

/-- Everything that was handed out is held or was closed, and the closes are in order: what is held is held on
something that is held too. -/
structure Course.Balanced (c : Course σ ω) : Prop where
  accepted : c.accepted = acceptedIn c.log
  closed : ∀ r, closes c.log r + (c.held.holds r).toNat = (handedOut c.log r).toNat
  inOrder : InOrder c.log
  operation_session : c.held.operation?.isSome → c.held.session = true
  session_client : c.held.session = true → c.held.client = true

/-! ### One more call in the log -/

@[simp] theorem closes_append (log : List Entry) (e : Entry) (r : Resource) :
    closes (log ++ [e]) r = closes log r + if e.event = r.closing then 1 else 0 := by
  simp [closes, List.countP_append, List.countP_cons]

@[simp] theorem acceptedIn_append (log : List Entry) (e : Entry) :
    acceptedIn (log ++ [e]) = acceptedIn log + if e.returned && e.event.sql?.isSome then 1 else 0 := by
  simp [acceptedIn, List.countP_append, List.countP_cons]

/-- A call that hands out nothing. -/
def Entry.HandsOutNothing (e : Entry) : Prop :=
  e.returned = false ∨ e.event.sql? = none ∧ e.event ≠ .openSession ∧ e.event.isConnect = false

theorem Entry.HandsOutNothing.acceptedIn_append {e : Entry} (he : e.HandsOutNothing) (log : List Entry) :
    acceptedIn (log ++ [e]) = acceptedIn log := by
  have hsql : (e.returned && e.event.sql?.isSome) = false := by
    rcases he with he | ⟨he, -, -⟩ <;> simp [he]
  simp [hsql]

theorem Entry.HandsOutNothing.handedOut_append {e : Entry} (he : e.HandsOutNothing) (log : List Entry) (r : Resource) :
    handedOut (log ++ [e]) r = handedOut log r := by
  have hsession : (e.returned && decide (e.event = .openSession)) = false := by
    rcases he with he | ⟨-, he, -⟩ <;> simp [he]
  have hclient : (e.returned && e.event.isConnect) = false := by
    rcases he with he | ⟨-, -, he⟩ <;> simp [he]
  cases r with
  | operation n => simp only [handedOut, he.acceptedIn_append]
  | session => simp [handedOut, List.any_append, hsession]
  | client => simp [handedOut, List.any_append, hclient]

theorem closing_handsOutNothing (r : Resource) (returned : Bool) : Entry.HandsOutNothing ⟨r.closing, returned⟩ := by
  cases r <;> exact Or.inr ⟨rfl, nofun, rfl⟩

theorem ne_of_closes_eq_zero {log : List Entry} {r : Resource} (h : closes log r = 0) :
    ∀ e ∈ log, e.event ≠ r.closing := by
  intro e he
  simpa using List.countP_eq_zero.1 h e he

/-- The log stays in order with one more call while the client is not closed, and neither is the session unless it is
the client's turn. -/
theorem InOrder.append {log : List Entry} (h : InOrder log) {e : Entry} (hclient : closes log .client = 0)
    (hsession : closes log .session = 0 ∨ e.event = .closeClient) : InOrder (log ++ [e]) := by
  refine List.pairwise_append.2 ⟨h, List.pairwise_singleton _ _, fun a ha b hb => ?_⟩
  obtain rfl : b = e := List.mem_singleton.1 hb
  refine ⟨ne_of_closes_eq_zero hclient a ha, fun heq => hsession.resolve_left fun hnone => ?_⟩
  exact ne_of_closes_eq_zero hnone a ha heq

namespace Course.Balanced

variable {c : Course σ ω}

theorem closes_eq_zero (h : c.Balanced) {r : Resource} (hr : c.held.holds r = true) : closes c.log r = 0 := by
  have hclosed := h.closed r
  have hle := Bool.toNat_le (handedOut c.log r)
  rw [hr, Bool.toNat_true] at hclosed
  omega

theorem client_of_holds (h : c.Balanced) {r : Resource} (hr : c.held.holds r = true) :
    c.held.client = true ∧ (c.held.session = true ∨ r = .client) := by
  cases r with
  | operation n =>
    have hsession := h.operation_session (Option.isSome_of_any hr)
    exact ⟨h.session_client hsession, Or.inl hsession⟩
  | session => exact ⟨h.session_client hr, Or.inl hr⟩
  | client => exact ⟨hr, Or.inr rfl⟩

/-- A call that hands out nothing and closes nothing, in an open session. -/
theorem noted (h : c.Balanced) (hsession : c.held.session = true) (scene : Scene σ) {e : Entry}
    (he : e.HandsOutNothing) (hcloses : ∀ r : Resource, e.event ≠ r.closing) :
    ({ c with scene, log := c.log ++ [e] } : Course σ ω).Balanced where
  accepted := h.accepted.trans (he.acceptedIn_append c.log).symm
  closed r := by
    have := h.closed r
    simpa [he.handedOut_append c.log r, hcloses r] using this
  inOrder := h.inOrder.append (h.closes_eq_zero (r := .client) (h.session_client hsession))
    (Or.inl (h.closes_eq_zero (r := .session) hsession))
  operation_session := h.operation_session
  session_client := h.session_client

/-- A statement is accepted and held. -/
theorem accepts (h : c.Balanced) (hsession : c.held.session = true) (hfree : c.held.operation? = none) (scene : Scene σ)
    (sql : String) (operation : ω) :
    ({ c with
      scene
      log := c.log ++ [⟨.execute sql, true⟩]
      accepted := c.accepted + 1
      held := { c.held with operation? := some ⟨c.accepted, operation⟩ } } : Course σ ω).Balanced where
  accepted := by simp [h.accepted, Event.sql?]
  closed r := by
    have hclosed := h.closed r
    cases r with
    | operation n =>
      have hhanded : acceptedIn (c.log ++ [⟨.execute sql, true⟩]) = c.accepted + 1 := by
        simp [h.accepted, Event.sql?]
      simp only [Held.holds, hfree, handedOut, ← h.accepted, hhanded] at hclosed ⊢
      -- the new statement has the first number that was not given yet
      by_cases hn : n = c.accepted
      · subst hn
        simpa [Resource.closing] using hclosed
      · have hlt : n < c.accepted + 1 ↔ n < c.accepted := by omega
        simpa [Resource.closing, Ne.symm hn, hlt] using hclosed
    | session => simpa [handedOut, Held.holds, Resource.closing, List.any_append] using hclosed
    | client => simpa [handedOut, Held.holds, Resource.closing, List.any_append, Event.isConnect] using hclosed
  inOrder := h.inOrder.append (h.closes_eq_zero (r := .client) (h.session_client hsession))
    (Or.inl (h.closes_eq_zero (r := .session) hsession))
  operation_session := fun _ => hsession
  session_client := h.session_client

/-- Something that is held is given up and closed, when nothing is held on it. -/
theorem givesUp (h : c.Balanced) {r : Resource} (hr : c.held.holds r = true) (scene : Scene σ) (returned : Bool)
    {held : Held ω} (hheld : ∀ s, held.holds s = (c.held.holds s && s ≠ r))
    (hoperation : held.operation?.isSome → held.session = true) (hclient : held.session = true → held.client = true) :
    ({ c with scene, log := c.log ++ [⟨r.closing, returned⟩], held } : Course σ ω).Balanced where
  accepted := h.accepted.trans ((closing_handsOutNothing r returned).acceptedIn_append c.log).symm
  closed s := by
    have hclosed := h.closed s
    rw [(closing_handsOutNothing r returned).handedOut_append c.log s]
    by_cases hs : s = r
    · subst hs
      simp [hheld, hr] at hclosed ⊢
      omega
    · simpa [hheld, hs, Resource.closing_inj, Ne.symm hs] using hclosed
  inOrder := by
    obtain ⟨hclient, hsession⟩ := h.client_of_holds hr
    refine h.inOrder.append (h.closes_eq_zero (r := .client) hclient) ?_
    rcases hsession with hsession | rfl
    · exact Or.inl (h.closes_eq_zero (r := .session) hsession)
    · exact Or.inr rfl
  operation_session := hoperation
  session_client := hclient

theorem dropsOperation (h : c.Balanced) {r : Running ω} (hr : c.held.operation? = some r) (scene : Scene σ)
    (returned : Bool) :
    ({ c with
      scene
      log := c.log ++ [⟨.closeOperation r.number, returned⟩]
      held := { c.held with operation? := none } } : Course σ ω).Balanced := by
  refine h.givesUp (r := .operation r.number) (by simp [Held.holds, hr]) scene returned (fun s => ?_) nofun
    h.session_client
  cases s with
  | operation n => by_cases hn : r.number = n <;> simp [Held.holds, hr, hn, eq_comm]
  | _ => simp [Held.holds]

theorem dropsSession (h : c.Balanced) (hs : c.held.session = true) (hfree : c.held.operation? = none) (scene : Scene σ)
    (returned : Bool) :
    ({ c with
      scene
      log := c.log ++ [⟨.closeSession, returned⟩]
      held := { c.held with session := false } } : Course σ ω).Balanced := by
  refine h.givesUp (r := .session) hs scene returned (fun s => ?_) (by simp [hfree]) nofun
  cases s <;> simp [Held.holds]

theorem dropsClient (h : c.Balanced) (hclient : c.held.client = true) (hs : c.held.session = false) (scene : Scene σ)
    (returned : Bool) :
    ({ c with
      scene
      log := c.log ++ [⟨.closeClient, returned⟩]
      held := { c.held with client := false } } : Course σ ω).Balanced := by
  refine h.givesUp (r := .client) hclient scene returned (fun s => ?_) h.operation_session (by simp [hs])
  cases s <;> simp [Held.holds]

theorem inScene (h : c.Balanced) (scene : Scene σ) : ({ c with scene } : Course σ ω).Balanced :=
  ⟨h.accepted, h.closed, h.inOrder, h.operation_session, h.session_client⟩

end Course.Balanced

/-- All that was handed out was closed, once and in order. -/
def Over (log : List Entry) : Prop :=
  (∀ r, closes log r = if handedOut log r then 1 else 0) ∧ InOrder log

theorem over_nil : Over [] :=
  ⟨fun r => by cases r <;> rfl, .nil⟩

theorem over_of_balanced {c : Course σ ω} (hc : c.Balanced) (hheld : ∀ r, c.held.holds r = false) : Over c.log := by
  refine ⟨fun r => ?_, hc.inOrder⟩
  have hclosed := hc.closed r
  rw [hheld] at hclosed
  cases h : handedOut c.log r <;> simpa [h] using hclosed

end JoinCanvas
