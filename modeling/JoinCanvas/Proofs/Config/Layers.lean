import JoinCanvas.Config.Load
import JoinCanvas.Proofs.Config.Records

/-!
# Layers of settings

The settings of a connection come from three layers: what a text gives for the connection, what it gives for all
connections, and what is built in.  The layers are put together section by section.  So a section of a connection
hides the general one, also where it leaves a setting out.

* `holds_settingsFor`: the sections that hold for a connection.
* `settingsFor_value`: the value of each setting, and when it is the first one that the layers give.
* `settingsFor_drops_cap`: a connection that loses the general cap.
-/

namespace JoinCanvas

open JoinCanvas.Json JoinCanvas.Json.Document

/-! ### Sections and their members -/

/-- The sections of settings that a connection may have of its own. -/
inductive Section where
  | query
  | warehouse
deriving DecidableEq, Repr

/-- The settings in these sections. -/
inductive Setting where
  | timeoutMs
  | defaultRowLimit
  | maxRowLimit
  | waitTimeoutSecs
  | pollIntervalMs
  | maxPollAttempts
deriving DecidableEq, Repr

namespace Section

def name : Section → String
  | query => "query"
  | warehouse => "warehouse"

/-- The names in a section, in the order of its items. -/
def names : Section → List String
  | query => ["timeout_ms", "default_row_limit", "max_row_limit"]
  | warehouse => ["wait_timeout_secs", "poll_interval_ms", "max_poll_attempts"]

/-- The section of the settings is what a document gives for it, if there is one, and else built in. -/
def Holds (p : Section) (written? : Option Document) (s : Settings) : Prop :=
  match p with
  | query => defaulting QuerySettings.ofDocument? {} written? = some s.query
  | warehouse => defaulting WarehouseSettings.ofDocument? {} written? = some s.warehouse

end Section

namespace Setting

/-- The section that the setting stands in. -/
def place : Setting → Section
  | timeoutMs | defaultRowLimit | maxRowLimit => .query
  | waitTimeoutSecs | pollIntervalMs | maxPollAttempts => .warehouse

def name : Setting → String
  | timeoutMs => "timeout_ms"
  | defaultRowLimit => "default_row_limit"
  | maxRowLimit => "max_row_limit"
  | waitTimeoutSecs => "wait_timeout_secs"
  | pollIntervalMs => "poll_interval_ms"
  | maxPollAttempts => "max_poll_attempts"

/-- The value where none is given. -/
def builtIn : Setting → Nat
  | timeoutMs => 30000
  | defaultRowLimit => 0
  | maxRowLimit => 0
  | waitTimeoutSecs => 30
  | pollIntervalMs => 500
  | maxPollAttempts => 600

def value (s : Settings) : Setting → Nat
  | timeoutMs => s.query.timeoutMs
  | defaultRowLimit => s.query.defaultRowLimit
  | maxRowLimit => s.query.maxRowLimit
  | waitTimeoutSecs => s.warehouse.waitTimeoutSecs
  | pollIntervalMs => s.warehouse.pollIntervalMs
  | maxPollAttempts => s.warehouse.maxPollAttempts

/-- What a section gives for the setting. -/
def ofSection? (m : Setting) (written? : Option Document) : Option Document :=
  written?.bind (given? m.place.names m.name)

/-- The value that is given for the setting, or the one that is built in; nothing when it cannot be read. -/
def countOr (m : Setting) (given? : Option Document) : Option Nat :=
  defaulting asCount? m.builtIn given?

end Setting

/-- A number of attempts is a count. -/
theorem defaulting_asCount {default n : Nat} {d? : Option Document}
    (h : defaulting attemptCount? default d? = some n) : defaulting asCount? default d? = some n := by
  cases d? with
  | none => exact h
  | some d =>
    obtain ⟨k, hk, h⟩ := Option.bind_eq_some_iff.1 h
    split_ifs at h
    rwa [← Option.some.inj h]

theorem QuerySettings.of_ofDocument {d : Document} {q : QuerySettings} (h : ofDocument? d = some q) :
    defaulting asCount? 30000 (d.given? Section.query.names "timeout_ms") = some q.timeoutMs ∧
      defaulting asCount? 0 (d.given? Section.query.names "default_row_limit") = some q.defaultRowLimit ∧
      defaulting asCount? 0 (d.given? Section.query.names "max_row_limit") = some q.maxRowLimit := by
  obtain ⟨timeout, defaultLimit, maxLimit, htimeout, hdefault, hmax, rfl⟩ := settingFields_three (by decide) h
  exact ⟨htimeout, hdefault, hmax⟩

theorem WarehouseSettings.of_ofDocument {d : Document} {w : WarehouseSettings} (h : ofDocument? d = some w) :
    defaulting asCount? 30 (d.given? Section.warehouse.names "wait_timeout_secs") = some w.waitTimeoutSecs ∧
      defaulting asCount? 500 (d.given? Section.warehouse.names "poll_interval_ms") = some w.pollIntervalMs ∧
      defaulting asCount? 600 (d.given? Section.warehouse.names "max_poll_attempts") = some w.maxPollAttempts := by
  obtain ⟨wait, interval, attempts, hwait, hinterval, hattempts, rfl⟩ := settingFields_three (by decide) h
  exact ⟨hwait, hinterval, defaulting_asCount hattempts⟩

theorem Setting.countOr_ofSection (m : Setting) {written? : Option Document} {s : Settings}
    (h : m.place.Holds written? s) : m.countOr (m.ofSection? written?) = some (m.value s) := by
  cases written? with
  | none =>
    cases m
    all_goals
      have hs := Option.some.inj h
      rw [value, ← hs]
      rfl
  | some d =>
    cases m with
    | timeoutMs => exact (QuerySettings.of_ofDocument h).1
    | defaultRowLimit => exact (QuerySettings.of_ofDocument h).2.1
    | maxRowLimit => exact (QuerySettings.of_ofDocument h).2.2
    | waitTimeoutSecs => exact (WarehouseSettings.of_ofDocument h).1
    | pollIntervalMs => exact (WarehouseSettings.of_ofDocument h).2.1
    | maxPollAttempts => exact (WarehouseSettings.of_ofDocument h).2.2

/-! ### Configurations -/

/-- What a configuration gives for a section for all connections. -/
def generalSection? (d : Document) (p : Section) : Option Document :=
  (d.given? ["defaults", "connections"] "defaults").bind (given? ["query", "validation", "warehouse"] p.name)

/-- What a configuration gives for a section of one connection. -/
def ownSection? (d : Document) (connection : String) (p : Section) : Option Document :=
  ((d.given? ["defaults", "connections"] "connections").bind (member? connection)).bind fun own =>
    (own.given? ["query", "warehouse"] p.name).bind present?

theorem Settings.of_ofDocument {d : Document} {s : Settings} (h : ofDocument? d = some s) (p : Section) :
    p.Holds (d.given? ["query", "validation", "warehouse"] p.name) s := by
  obtain ⟨query, validation, warehouse, hquery, -, hwarehouse, rfl⟩ := settingFields_three (by decide) h
  cases p with
  | query => exact hquery
  | warehouse => exact hwarehouse

theorem Overrides.of_ofDocument {d : Document} {o : Overrides} (h : ofDocument? d = some o) :
    ReadAs QuerySettings.ofDocument? ((d.given? ["query", "warehouse"] "query").bind present?) o.query? ∧
      ReadAs WarehouseSettings.ofDocument? ((d.given? ["query", "warehouse"] "warehouse").bind present?)
        o.warehouse? := by
  obtain ⟨query, warehouse, hquery, hwarehouse, rfl⟩ := settingFields_two (by decide) h
  exact ⟨readAs_optional hquery, readAs_optional hwarehouse⟩

theorem readAs_connection {d : Document} {connections : List (String × Overrides)}
    (h : connectionOverrides? d = some connections) (connection : String) :
    ReadAs Overrides.ofDocument? (d.member? connection) ((connections.find? (·.1 = connection)).map (·.2)) := by
  cases d with
  | object members =>
    induction members generalizing connections with
    | nil =>
      obtain rfl := Option.some.inj h
      exact readAs_none
    | cons m members ih =>
      obtain ⟨key, d⟩ := m
      simp only [connectionOverrides?, List.mapM_cons] at h
      obtain ⟨own, hown, h⟩ := Option.bind_eq_some_iff.1 h
      obtain ⟨rest, hrest, h⟩ := Option.bind_eq_some_iff.1 h
      obtain rfl := Option.some.inj h
      obtain ⟨k, rfl, hpair⟩ := Option.bind_eq_some_iff.1 hown
      obtain ⟨o, ho, hpair⟩ := Option.bind_eq_some_iff.1 hpair
      obtain rfl := Option.some.inj hpair
      by_cases hk : k = connection
      · simp [member?, ReadAs, hk, ho]
      · simpa [member?, hk] using ih hrest
  | _ => cases h

/-- The overrides of a connection are read of what the configuration gives under its name. -/
theorem readAs_overrides {given? : Option Document} {c : Config}
    (h : defaulting connectionOverrides? [] given? = some c.connections) (connection : String) :
    ReadAs Overrides.ofDocument? (given?.bind (member? connection)) (c.overrides? connection) := by
  cases given? with
  | none =>
    have hnil := Option.some.inj h
    rw [Config.overrides?, ← hnil]
    exact readAs_none
  | some d => exact readAs_connection h connection

theorem Config.of_ofDocument {d : Document} {c : Config} (h : ofDocument? d = some c) :
    defaulting Settings.ofDocument? {} (d.given? ["defaults", "connections"] "defaults") = some c.defaults ∧
      defaulting connectionOverrides? [] (d.given? ["defaults", "connections"] "connections") =
        some c.connections := by
  obtain ⟨defaults, connections, hdefaults, hconnections, rfl⟩ := settingFields_two (by decide) h
  exact ⟨hdefaults, hconnections⟩

theorem holds_generalSection {d : Document} {c : Config} (h : Config.ofDocument? d = some c) (p : Section) :
    p.Holds (generalSection? d p) c.defaults := by
  obtain ⟨hdefaults, -⟩ := Config.of_ofDocument h
  unfold generalSection?
  cases hgiven : d.given? ["defaults", "connections"] "defaults" with
  | none =>
    rw [hgiven] at hdefaults
    have hs := Option.some.inj hdefaults
    rw [← hs]
    cases p <;> rfl
  | some general =>
    rw [hgiven] at hdefaults
    exact Settings.of_ofDocument hdefaults p

/-- The settings of a connection hold what it has of its own for each section, or what all connections have. -/
theorem holds_settingsFor {d : Document} {c : Config} (h : Config.ofDocument? d = some c) (connection : String)
    (p : Section) : p.Holds ((ownSection? d connection p).or (generalSection? d p)) (c.settingsFor connection) := by
  obtain ⟨-, hconnections⟩ := Config.of_ofDocument h
  have hgeneral := holds_generalSection h p
  have hown := readAs_overrides hconnections connection
  cases p with
  | query => exact (hown.bind fun _ _ ho => (Overrides.of_ofDocument ho).1).or hgeneral
  | warehouse => exact (hown.bind fun _ _ ho => (Overrides.of_ofDocument ho).2).or hgeneral

/-- The value of a setting that is merged from the layers: what the connection gives for it, else what is given for
all connections, else what is built in. -/
def Setting.merged? (m : Setting) (d : Document) (connection : String) : Option Nat :=
  m.countOr ((m.ofSection? (ownSection? d connection m.place)).or (m.ofSection? (generalSection? d m.place)))

theorem Setting.countOr_or_iff (m : Setting) {own? general? : Option Document} {n : Nat}
    (h : m.countOr (m.ofSection? (own?.or general?)) = some n) :
    m.countOr ((m.ofSection? own?).or (m.ofSection? general?)) = some n ↔
      (own? ≠ none → m.ofSection? own? = none → m.countOr (m.ofSection? general?) = some m.builtIn) := by
  cases own? with
  | none =>
    have hnone : m.ofSection? none = none := rfl
    rw [Option.none_or] at h
    simp [hnone, h]
  | some own =>
    rw [Option.some_or] at h
    cases hgiven : m.ofSection? (some own) with
    | none =>
      -- the section leaves the setting out, so that its value is built in
      have hbuilt : m.builtIn = n := by
        rw [hgiven] at h
        exact Option.some.inj h
      simp [hbuilt]
    | some given =>
      rw [hgiven] at h
      simp [h]

/-- A section that a connection has of its own comes in the place of the general one, and the settings that it leaves
out are built in.  So a setting is merged from the layers unless the section of the connection leaves it out and the
general one gives something else than what is built in. -/
theorem settingsFor_value {text : String} {c : Config} (h : Config.ofText text = .ok c) :
    ∃ d, Toml.read? text = some d ∧ ∀ connection (m : Setting),
      let own? := ownSection? d connection m.place
      let general? := generalSection? d m.place
      m.countOr (m.ofSection? (own?.or general?)) = some (m.value (c.settingsFor connection)) ∧
        (m.merged? d connection = some (m.value (c.settingsFor connection)) ↔
          (own? ≠ none → m.ofSection? own? = none → m.countOr (m.ofSection? general?) = some m.builtIn)) := by
  obtain ⟨d, hd, hc⟩ : ∃ d, Toml.read? text = some d ∧ Config.ofDocument? d = some c := by
    unfold Config.ofText at h
    split at h
    · next c' hc' =>
      obtain rfl := Except.ok.inj h
      exact Option.bind_eq_some_iff.1 hc'
    · cases h
  refine ⟨d, hd, fun connection m => ?_⟩
  have hvalue := m.countOr_ofSection (holds_settingsFor hc connection m.place)
  exact ⟨hvalue, m.countOr_or_iff hvalue⟩

/-- A connection with a time limit of its own, where all connections have a cap. -/
def cappedText : String :=
  "[defaults.query]\nmax_row_limit = 5000\n\n[connections.prod.query]\ntimeout_ms = 1000\n"

/-- The configuration that it writes. -/
def cappedConfig : Config where
  defaults := { query := { maxRowLimit := 5000 } }
  connections := [("prod", { query? := some { timeoutMs := 1000 } })]

theorem ofText_cappedText : Config.ofText cappedText = .ok cappedConfig := by
  decide +kernel

theorem settingsFor_value_capped :
    Config.ofText cappedText = .ok cappedConfig ∧ ∃ d, Toml.read? cappedText = some d ∧ ∀ connection (m : Setting),
      let own? := ownSection? d connection m.place
      let general? := generalSection? d m.place
      m.countOr (m.ofSection? (own?.or general?)) = some (m.value (cappedConfig.settingsFor connection)) ∧
        (m.merged? d connection = some (m.value (cappedConfig.settingsFor connection)) ↔
          (own? ≠ none → m.ofSection? own? = none → m.countOr (m.ofSection? general?) = some m.builtIn)) :=
  ⟨ofText_cappedText, settingsFor_value ofText_cappedText⟩

/-- The time limit of the connection takes its cap away. -/
theorem settingsFor_drops_cap :
    Config.ofText cappedText = .ok cappedConfig ∧
      (∃ d, Toml.read? cappedText = some d ∧ Setting.maxRowLimit.merged? d "prod" = some 5000) ∧
      (cappedConfig.settingsFor "prod").query.maxRowLimit = 0 ∧
      (cappedConfig.settingsFor "prod").query.effectiveLimit (some 10000) = some 10000 := by
  have hmerged : (Toml.read? cappedText).bind (Setting.maxRowLimit.merged? · "prod") = some 5000 := by
    decide +kernel
  exact ⟨ofText_cappedText, Option.bind_eq_some_iff.1 hmerged, by decide, by decide⟩

end JoinCanvas
