import SqlRecords.Config.Environment
import SqlRecords.Proofs.Dialect.References
import SqlRecords.Proofs.Text.Numerals
import SqlRecords.Query.Incomplete

/-! Which environments a configuration is read from, and which variables spell one out. An optional
variable that is empty says as little as one that is not set; the engine and the database have to
be set. -/
namespace SqlRecords

namespace Engine

/-- The names of an engine, in lower case. -/
def names : Engine → List String
  | .mysql => ["mysql", "mariadb"]
  | .mssql => ["mssql", "sqlserver"]
  | .postgres => ["postgres", "postgresql", "pg"]

/-- Whether a text is a name of an engine in any letter case. -/
def IsNamed (e : Engine) (s : String) : Prop := ∃ word ∈ e.names, Respells word s

theorem ofName?_eq_some_iff {s : String} {e : Engine} : ofName? s = some e ↔ s ∈ e.names := by
  constructor
  · intro h
    unfold ofName? at h
    split at h <;> cases h <;> simp [names]
  · intro h
    cases e with
    | mysql | mssql =>
      obtain rfl | rfl := List.mem_pair.mp h <;> rfl
    | postgres =>
      obtain rfl | rfl | rfl : s = "postgres" ∨ s = "postgresql" ∨ s = "pg" := by
        simpa [names] using h
      all_goals rfl

theorem parse?_eq_some_iff {s : String} {e : Engine} : parse? s = some e ↔ e.IsNamed s := by
  have hlower : (e.names.all fun word => word.toList.all (!·.isUpper)) = true := by
    cases e <;> decide
  rw [parse?, ofName?_eq_some_iff]
  exact lowerAscii_mem_iff hlower s

theorem isNamed_name (e : Engine) : e.IsNamed e.name := by
  rw [← parse?_eq_some_iff]
  cases e <;> decide +kernel

end Engine

namespace Config
open Text

/-- Numbers that fit into their fields: a port of 16 bits, connections of 32 and seconds of 64. -/
structure InRange (c : Config) : Prop where
  port : ∀ n ∈ c.port, n ≤ topPort
  maxConnections : c.maxConnections ≤ topConnections
  acquireTimeout : c.acquireTimeoutSeconds ≤ topSeconds

theorem validate_eq_ok_iff {c : Config} : c.validate = .ok () ↔ isAllBlank c.name = false ∧
    isAllBlank c.host = false ∧ isAllBlank c.database = false ∧ 0 < c.maxConnections := by
  have hflaw : c.validate = .ok () ↔ c.flaw? = none := by
    unfold validate
    cases c.flaw? <;> simp
  rw [hflaw, flaw?]
  split_ifs with hname hhost hdatabase hconnections <;>
    simp_all [Nat.pos_iff_ne_zero]

theorem forall_mem_iff_getD {α : Type} {p : α → Prop} {fallback : α} (h : p fallback)
    {said : Option α} : (∀ a ∈ said, p a) ↔ p (said.getD fallback) := by
  cases said <;> simp [h]

def variableName (word suffix : String) : String := word ++ "_" ++ suffix

namespace Environment
variable {α : Type} {env : Environment} {name : String} {Reads : String → α → Prop}

/-- Texts that an optional variable may have. -/
def Permits (env : Environment) (name : String) (p : String → Prop) : Prop :=
  ∀ text ∈ env.get? name, text = "" ∨ p text

/-- What an optional variable says: nothing if it is not set or empty, else what its text reads
as. -/
inductive Says (env : Environment) (name : String) (Reads : String → α → Prop) : Option α → Prop
  | nothing (h : ∀ text ∈ env.get? name, text = "") : Says env name Reads none
  | something {text : String} {a : α} (h : env.get? name = some text) (hne : text ≠ "")
      (ha : Reads text a) : Says env name Reads (some a)

theorem permits_iff_exists_says {p : α → Prop} :
    (env.Permits name fun text => ∃ a, Reads text a ∧ p a) ↔
      ∃ said, env.Says name Reads said ∧ ∀ a ∈ said, p a := by
  constructor
  · intro h
    cases hget : env.get? name with
    | none => exact ⟨none, .nothing (by simp [hget]), nofun⟩
    | some text =>
      by_cases hempty : text = ""
      · exact ⟨none, .nothing (by simp [hget, hempty]), nofun⟩
      · obtain ⟨a, hread, ha⟩ := (h text hget).resolve_left hempty
        exact ⟨some a, .something hget hempty hread, by simpa using ha⟩
  · rintro ⟨said, h | ⟨htext, -, hread⟩, hp⟩ text hmem
    · exact .inl (h text hmem)
    · cases htext.symm.trans hmem
      exact .inr ⟨_, hread, hp _ rfl⟩

theorem permits_reads_iff :
    (env.Permits name fun text => ∃ a, Reads text a) ↔ ∃ said, env.Says name Reads said := by
  have h : (env.Permits name fun text => ∃ a, Reads text a ∧ True) ↔
      ∃ said, env.Says name Reads said ∧ ∀ a ∈ said, True := permits_iff_exists_says
  simpa using h

theorem permits_text_iff {p : String → Prop} :
    env.Permits name p ↔ ∃ said, env.Says name Eq said ∧ ∀ text ∈ said, p text := by
  have h : (env.Permits name fun text => ∃ a, text = a ∧ p a) ↔
      ∃ said, env.Says name Eq said ∧ ∀ a ∈ said, p a := permits_iff_exists_says
  simpa using h

theorem given?_eq_none_iff : env.given? name = none ↔ ∀ text ∈ env.get? name, text = "" := by
  simp [given?, Option.filter_eq_none_iff]

theorem given?_eq_some_iff {text : String} :
    env.given? name = some text ↔ env.get? name = some text ∧ text ≠ "" := by
  simp [given?, Option.filter_eq_some_iff]

theorem says_text_iff {said : Option String} :
    env.Says name Eq said ↔ env.given? name = said := by
  constructor
  · rintro (h | ⟨htext, hne, rfl⟩)
    · exact given?_eq_none_iff.mpr h
    · exact given?_eq_some_iff.mpr ⟨htext, hne⟩
  · rintro rfl
    cases h : env.given? name with
    | none => exact .nothing (given?_eq_none_iff.mp h)
    | some text =>
      obtain ⟨htext, hne⟩ := given?_eq_some_iff.mp h
      exact .something htext hne rfl

/-- Whether a text spells a number of at most `top`. -/
def ReadsNumber (top : Nat) (text : String) (n : Nat) : Prop := IsNumeral n text ∧ n ≤ top

theorem number_eq_ok_iff {top : Nat} {expected : String} {said : Option Nat} :
    env.number name top expected = .ok said ↔ env.Says name (ReadsNumber top) said := by
  unfold number
  cases hgiven : env.given? name with
  | none =>
    have hempty := given?_eq_none_iff.mp hgiven
    constructor
    · intro h
      cases h
      exact .nothing hempty
    · rintro (- | ⟨htext, hne, -⟩)
      · rfl
      · exact absurd (hempty _ htext) hne
  | some text =>
    obtain ⟨htext, hne⟩ := given?_eq_some_iff.mp hgiven
    have hread (n : Nat) : unsigned? top text = some n ↔ ReadsNumber top text n :=
      unsigned?_eq_some_iff
    constructor
    · intro h
      cases hn : unsigned? top text with
      | none => simp [hn] at h
      | some n =>
        simp only [hn] at h
        cases h
        exact .something htext hne ((hread n).mp hn)
    · rintro (h | ⟨htext', -, hn⟩)
      · exact absurd (h text htext) hne
      · cases htext.symm.trans htext'
        simp only [(hread _).mpr hn]

theorem required_eq_ok_iff {text : String} :
    env.required name = .ok text ↔ env.get? name = some text := by
  unfold required
  cases env.get? name <;> simp

/-- Whether the variables after a word, with a name, describe a data source. -/
structure Describes (env : Environment) (word name : String) : Prop where
  engine : ∃ text ∈ env.get? (variableName word "ENGINE"), ∃ e : Engine, e.IsNamed text
  database : ∃ text ∈ env.get? (variableName word "DATABASE"), isAllBlank text = false
  name : isAllBlank name = false
  host : env.Permits (variableName word "HOST") fun text => isAllBlank text = false
  port : env.Permits (variableName word "PORT") fun text => ∃ n, ReadsNumber topPort text n
  maxConnections : env.Permits (variableName word "MAX_CONNECTIONS") fun text =>
    ∃ n, ReadsNumber topConnections text n ∧ 0 < n
  acquireTimeout : env.Permits (variableName word "ACQUIRE_TIMEOUT") fun text =>
    ∃ n, ReadsNumber topSeconds text n

/-- Whether the variables after a word spell out a configuration, but for its name. -/
structure SpellsOut (env : Environment) (word : String) (c : Config) : Prop where
  engine : ∃ text ∈ env.get? (variableName word "ENGINE"), c.engine.IsNamed text
  host : ∃ said, env.Says (variableName word "HOST") Eq said ∧ c.host = said.getD "localhost"
  port : env.Says (variableName word "PORT") (ReadsNumber topPort) c.port
  database : env.get? (variableName word "DATABASE") = some c.database
  user : env.Says (variableName word "USER") Eq c.user
  password : env.Says (variableName word "PASSWORD") Eq c.password
  maxConnections : ∃ said,
    env.Says (variableName word "MAX_CONNECTIONS") (ReadsNumber topConnections) said ∧
      c.maxConnections = said.getD defaultMaxConnections
  acquireTimeout : ∃ said,
    env.Says (variableName word "ACQUIRE_TIMEOUT") (ReadsNumber topSeconds) said ∧
      c.acquireTimeoutSeconds = said.getD defaultAcquireTimeout

theorem Says.le_of_mem {top : Nat} {said : Option Nat} (h : env.Says name (ReadsNumber top) said) :
    ∀ n ∈ said, n ≤ top := by
  rintro n rfl
  cases h with
  | something _ _ hread => exact hread.2

theorem SpellsOut.inRange {word : String} {c : Config} (h : env.SpellsOut word c) :
    c.InRange := by
  obtain ⟨connections, hconnections, hconnectionsEq⟩ := h.maxConnections
  obtain ⟨seconds, hseconds, hsecondsEq⟩ := h.acquireTimeout
  refine ⟨h.port.le_of_mem, ?_, ?_⟩
  · rw [hconnectionsEq]
    exact (forall_mem_iff_getD (by decide)).mp hconnections.le_of_mem
  · rw [hsecondsEq]
    exact (forall_mem_iff_getD (by decide)).mp hseconds.le_of_mem

theorem SpellsOut.describes {word : String} {c : Config} (h : env.SpellsOut word c)
    (hvalid : c.validate = .ok ()) : env.Describes word c.name := by
  obtain ⟨hname, hhost, hdatabase, hpositive⟩ := validate_eq_ok_iff.mp hvalid
  obtain ⟨text, htext, hengine⟩ := h.engine
  obtain ⟨host, hsaid, hhostEq⟩ := h.host
  obtain ⟨connections, hconnections, hconnectionsEq⟩ := h.maxConnections
  obtain ⟨seconds, hseconds, -⟩ := h.acquireTimeout
  rw [hhostEq] at hhost
  rw [hconnectionsEq] at hpositive
  have hhostSaid : ∀ a ∈ host, isAllBlank a = false :=
    (forall_mem_iff_getD (by decide)).mpr hhost
  have hconnectionsSaid : ∀ n ∈ connections, 0 < n :=
    (forall_mem_iff_getD (by decide)).mpr hpositive
  exact {
    engine := ⟨text, htext, c.engine, hengine⟩
    database := ⟨c.database, h.database, hdatabase⟩
    name := hname
    host := permits_text_iff.mpr ⟨host, hsaid, hhostSaid⟩
    port := permits_reads_iff.mpr ⟨c.port, h.port⟩
    maxConnections := permits_iff_exists_says.mpr ⟨connections, hconnections, hconnectionsSaid⟩
    acquireTimeout := permits_reads_iff.mpr ⟨seconds, hseconds⟩ }

theorem Describes.exists_spellsOut {word : String} (h : env.Describes word name) :
    ∃ c : Config, c.name = name ∧ env.SpellsOut word c ∧ c.validate = .ok () := by
  obtain ⟨engineText, hengineText, engine, hengine⟩ := h.engine
  obtain ⟨database, hdatabaseText, hdatabase⟩ := h.database
  obtain ⟨host, hsaid, hhost⟩ := permits_text_iff.mp h.host
  obtain ⟨port, hport⟩ := permits_reads_iff.mp h.port
  obtain ⟨connections, hconnections, hpositive⟩ := permits_iff_exists_says.mp h.maxConnections
  obtain ⟨seconds, hseconds⟩ := permits_reads_iff.mp h.acquireTimeout
  have hhostGiven : isAllBlank (host.getD "localhost") = false :=
    (forall_mem_iff_getD (by decide)).mp hhost
  have hconnectionsGiven : 0 < connections.getD defaultMaxConnections :=
    (forall_mem_iff_getD (by decide)).mp hpositive
  exact ⟨{
    name := name
    engine := engine
    host := host.getD "localhost"
    port := port
    database := database
    user := env.given? (variableName word "USER")
    password := env.given? (variableName word "PASSWORD")
    maxConnections := connections.getD defaultMaxConnections
    acquireTimeoutSeconds := seconds.getD defaultAcquireTimeout }, rfl, {
      engine := ⟨engineText, hengineText, hengine⟩
      host := ⟨host, hsaid, rfl⟩
      port := hport
      database := hdatabaseText
      user := says_text_iff.mpr rfl
      password := says_text_iff.mpr rfl
      maxConnections := ⟨connections, hconnections, rfl⟩
      acquireTimeout := ⟨seconds, hseconds, rfl⟩ },
    validate_eq_ok_iff.mpr ⟨h.name, hhostGiven, hdatabase, hconnectionsGiven⟩⟩

end Environment

/-- A configuration is read exactly if the variables spell it out and it is valid. -/
theorem ofEnvironment_eq_ok_iff {env : Environment} {name : String} {word : Option String}
    {c : Config} : ofEnvironment env name word = .ok c ↔
      c.name = name ∧ env.SpellsOut (word.getD (upper name)) c ∧ c.validate = .ok () := by
  unfold ofEnvironment
  generalize word.getD (upper name) = word
  constructor
  · intro h
    obtain ⟨text, htext, h⟩ := bind_eq_ok.mp h
    -- The steps that follow stand in both branches on the engine; only one of them goes on.
    cases hengine : Engine.parse? text with
    | none =>
      simp only [hengine] at h
      cases h
    | some engine =>
      simp only [hengine, ok_bind] at h
      obtain ⟨port, hport, h⟩ := bind_eq_ok.mp h
      obtain ⟨connections, hconnections, h⟩ := bind_eq_ok.mp h
      obtain ⟨seconds, hseconds, h⟩ := bind_eq_ok.mp h
      obtain ⟨database, hdatabase, h⟩ := bind_eq_ok.mp h
      obtain ⟨⟨⟩, hvalid, h⟩ := bind_eq_ok.mp h
      cases h
      exact ⟨rfl, {
        engine := ⟨text, Environment.required_eq_ok_iff.mp htext,
          Engine.parse?_eq_some_iff.mp hengine⟩
        host := ⟨_, Environment.says_text_iff.mpr rfl, rfl⟩
        port := Environment.number_eq_ok_iff.mp hport
        database := Environment.required_eq_ok_iff.mp hdatabase
        user := Environment.says_text_iff.mpr rfl
        password := Environment.says_text_iff.mpr rfl
        maxConnections := ⟨_, Environment.number_eq_ok_iff.mp hconnections, rfl⟩
        acquireTimeout := ⟨_, Environment.number_eq_ok_iff.mp hseconds, rfl⟩ }, hvalid⟩
  · rintro ⟨rfl, hspells, hvalid⟩
    obtain ⟨⟨text, htext, hengine⟩, ⟨host, hhost, hhostEq⟩, hport, hdatabase, huser, hpassword,
      ⟨connections, hconnections, hconnectionsEq⟩, ⟨seconds, hseconds, hsecondsEq⟩⟩ := hspells
    have hparts : c = ⟨c.name, c.engine, host.getD "localhost", c.port, c.database, c.user,
        c.password, connections.getD defaultMaxConnections,
        seconds.getD defaultAcquireTimeout⟩ := by
      rw [← hhostEq, ← hconnectionsEq, ← hsecondsEq]
    simp only [variableName] at htext hhost hport hdatabase huser hpassword hconnections hseconds
    simp only [Environment.required_eq_ok_iff.mpr htext, Engine.parse?_eq_some_iff.mpr hengine,
      Environment.number_eq_ok_iff.mpr hport, Environment.number_eq_ok_iff.mpr hconnections,
      Environment.number_eq_ok_iff.mpr hseconds, Environment.required_eq_ok_iff.mpr hdatabase,
      Environment.says_text_iff.mp hhost, Environment.says_text_iff.mp huser,
      Environment.says_text_iff.mp hpassword, ok_bind]
    rw [← hparts, hvalid]
    rfl

/-- The fields of a configuration but for its name, as texts under the last words of their
variables; an absent field has none. -/
def settings (c : Config) : Fields (Option String) := [
  ("ENGINE", some c.engine.name),
  ("HOST", some c.host),
  ("PORT", c.port.map toString),
  ("DATABASE", some c.database),
  ("USER", c.user),
  ("PASSWORD", c.password),
  ("MAX_CONNECTIONS", some (toString c.maxConnections)),
  ("ACQUIRE_TIMEOUT", some (toString c.acquireTimeoutSeconds))]

theorem nodup_keys_settings (c : Config) : c.settings.keys.Nodup := by
  show ["ENGINE", "HOST", "PORT", "DATABASE", "USER", "PASSWORD", "MAX_CONNECTIONS",
    "ACQUIRE_TIMEOUT"].Nodup
  decide

namespace Environment

/-- The settings that are there, as variables after a word. -/
def ofSettings (word : String) (settings : Fields (Option String)) : Environment :=
  settings.filterMap fun (suffix, text?) => text?.map fun text => (variableName word suffix, text)

/-- Whether the variables after a word hold some settings; those of an absent one are not set. -/
def Holds (env : Environment) (word : String) (settings : Fields (Option String)) : Prop :=
  ∀ setting ∈ settings, env.get? (variableName word setting.1) = setting.2

theorem get?_ofSettings (word : String) {settings : Fields (Option String)}
    (h : settings.keys.Nodup) (suffix : String) :
    (ofSettings word settings).get? (variableName word suffix) = (settings.get? suffix).join := by
  induction settings with
  | nil => rfl
  | cons setting rest ih =>
    obtain ⟨first, text?⟩ := setting
    obtain ⟨hfirst, hrest⟩ := List.nodup_cons.mp h
    rw [Fields.get?_cons]
    cases text? with
    | none =>
      have hstep : ofSettings word ((first, none) :: rest) = ofSettings word rest := rfl
      rw [hstep, ih hrest]
      split
      · next heq =>
        rw [heq, Fields.get?_eq_none hfirst]
        rfl
      · rfl
    | some text =>
      have hstep : ofSettings word ((first, some text) :: rest) =
        (variableName word first, text) :: ofSettings word rest := rfl
      have hname : variableName word suffix = variableName word first ↔ suffix = first :=
        String.append_right_inj _
      rw [hstep, Fields.get?_cons, ih hrest]
      simp only [hname]
      split <;> rfl

theorem holds_ofSettings (word : String) {settings : Fields (Option String)}
    (h : settings.keys.Nodup) : (ofSettings word settings).Holds word settings := by
  intro setting hmem
  rw [get?_ofSettings word h, Fields.get?_of_mem h hmem]
  rfl

variable {α : Type} {env : Environment} {name : String} {Reads : String → α → Prop}

/-- What is written into a variable is said by it, if it can be read from what is written. -/
theorem says_of_get? {write : α → String} {value : Option α}
    (h : env.get? name = value.map write)
    (hread : ∀ a ∈ value, write a ≠ "" ∧ Reads (write a) a) : env.Says name Reads value := by
  cases value with
  | none => exact .nothing (by simp [h])
  | some a =>
    obtain ⟨hne, ha⟩ := hread a rfl
    exact .something h hne ha

theorem says_text {text? : Option String} (h : env.get? name = text?) (hne : text? ≠ some "") :
    env.Says name Eq text? := by
  have hwritten : env.get? name = text?.map id := by simpa using h
  refine says_of_get? hwritten fun text htext => ⟨?_, rfl⟩
  rintro rfl
  exact hne htext

theorem says_number {top : Nat} {number? : Option Nat}
    (h : env.get? name = number?.map toString) (htop : ∀ n ∈ number?, n ≤ top) :
    env.Says name (ReadsNumber top) number? :=
  says_of_get? h fun n hn => ⟨(isNumeral_toString n).ne_empty, isNumeral_toString n, htop n hn⟩

/-- The variables that hold the fields of a valid configuration spell it out. -/
theorem Holds.spellsOut {word : String} {c : Config} (h : env.Holds word c.settings)
    (hvalid : c.validate = .ok ()) (hrange : c.InRange) (huser : c.user ≠ some "")
    (hpassword : c.password ≠ some "") : env.SpellsOut word c := by
  obtain ⟨hengine, hhost, hport, hdatabase, huserText, hpasswordText, hconnections, hseconds, -⟩ :
      _ ∧ _ ∧ _ ∧ _ ∧ _ ∧ _ ∧ _ ∧ _ ∧ _ := by
    simpa only [Holds, settings, List.forall_mem_cons] using h
  have hhostNe : some c.host ≠ some "" := by
    intro hempty
    obtain ⟨-, hblank, -, -⟩ := validate_eq_ok_iff.mp hvalid
    rw [Option.some.inj hempty] at hblank
    cases hblank
  exact {
    engine := ⟨c.engine.name, hengine, c.engine.isNamed_name⟩
    host := ⟨some c.host, says_text hhost hhostNe, rfl⟩
    port := says_number hport hrange.port
    database := hdatabase
    user := says_text huserText huser
    password := says_text hpasswordText hpassword
    maxConnections := ⟨some c.maxConnections,
      says_number hconnections (by simpa using hrange.maxConnections), rfl⟩
    acquireTimeout := ⟨some c.acquireTimeoutSeconds,
      says_number hseconds (by simpa using hrange.acquireTimeout), rfl⟩ }

end Environment

/-- A configuration is read from an environment exactly if the variables after the word describe a
data source: the engine by any of its names in any letter case, a name and a database that are not
blank, and each of the others not set, empty, or as its field asks for. What is read is valid and
is what the variables spell out. The other way round, a valid configuration is read from the
variables that hold its fields, whatever else is set, and there are such variables. -/
theorem environments_read_and_written_back (word : Option String) :
    (∀ (env : Environment) (name : String), (∃ c, ofEnvironment env name word = .ok c) ↔
      env.Describes (word.getD (upper name)) name) ∧
    (∀ (env : Environment) (name : String) (c : Config), ofEnvironment env name word = .ok c →
      c.validate = .ok () ∧ c.InRange ∧ c.name = name ∧
        env.SpellsOut (word.getD (upper name)) c) ∧
    ∀ c : Config, c.validate = .ok () → c.InRange → c.user ≠ some "" → c.password ≠ some "" →
      (Environment.ofSettings (word.getD (upper c.name)) c.settings).Holds
        (word.getD (upper c.name)) c.settings ∧
      ∀ env : Environment, env.Holds (word.getD (upper c.name)) c.settings →
        ofEnvironment env c.name word = .ok c := by
  refine ⟨fun env name => ⟨?_, fun h => ?_⟩, fun env name c h => ?_,
    fun c hvalid hrange huser hpassword => ⟨?_, fun env h => ?_⟩⟩
  · rintro ⟨c, h⟩
    obtain ⟨rfl, hspells, hvalid⟩ := ofEnvironment_eq_ok_iff.mp h
    exact hspells.describes hvalid
  · obtain ⟨c, hc⟩ := h.exists_spellsOut
    exact ⟨c, ofEnvironment_eq_ok_iff.mpr hc⟩
  · obtain ⟨hname, hspells, hvalid⟩ := ofEnvironment_eq_ok_iff.mp h
    exact ⟨hvalid, hspells.inRange, hname, hspells⟩
  · exact Environment.holds_ofSettings _ c.nodup_keys_settings
  · have hspells := h.spellsOut hvalid hrange huser hpassword
    exact ofEnvironment_eq_ok_iff.mpr ⟨rfl, hspells, hvalid⟩

/-- A source with numbers at the ends of their ranges, blanks that count, and no user. -/
def reports : Config where
  name := "reports"
  engine := .mssql
  host := " db"
  port := some 0
  database := "sales "
  user := none
  password := some " "
  maxConnections := topConnections
  acquireTimeoutSeconds := topSeconds

/-- Variables with an engine under its other name in mixed case, a long numeral and an empty host. -/
def briefReports : Environment :=
  [("REPORTS_HOST", ""), ("REPORTS_ENGINE", "SqlServer"), ("REPORTS_PORT", "+000001433"),
    ("REPORTS_DATABASE", "sales")]

/-- The first is read back from its fields beside another variable, the second for what it says. -/
theorem reports_read_and_written_back :
    reports.validate = .ok () ∧ reports.InRange ∧ reports.user ≠ some "" ∧
    reports.password ≠ some "" ∧
    ofEnvironment (("PATH", "/bin") :: Environment.ofSettings "REPORTS" reports.settings) "reports"
      none = .ok reports ∧
    briefReports.Describes "REPORTS" "reports" ∧
    ∃ c, ofEnvironment briefReports "reports" none = .ok c ∧ c.validate = .ok () ∧
      briefReports.SpellsOut "REPORTS" c := by
  have hword : (none : Option String).getD (upper "reports") = "REPORTS" := by decide +kernel
  have hvalid : reports.validate = .ok () := by decide +kernel
  have hrange : reports.InRange := ⟨by decide, by decide, by decide⟩
  have hport : briefReports.get? (variableName "REPORTS" "PORT") = some "+000001433" := by
    decide +kernel
  have hdescribes : briefReports.Describes "REPORTS" "reports" := {
    engine := ⟨"SqlServer", by decide +kernel, .mssql,
      Engine.parse?_eq_some_iff.mp (by decide +kernel)⟩
    database := ⟨"sales", by decide +kernel, by decide +kernel⟩
    name := by decide +kernel
    host := Environment.permits_text_iff.mpr
      ⟨none, Environment.says_text_iff.mpr (by decide +kernel), nofun⟩
    port := Environment.permits_reads_iff.mpr ⟨some 1433, .something hport (by decide)
      (unsigned?_eq_some_iff.mp (by decide +kernel))⟩
    maxConnections := nofun
    acquireTimeout := nofun }
  have hholds : Environment.Holds
      (("PATH", "/bin") :: Environment.ofSettings "REPORTS" reports.settings) "REPORTS"
      reports.settings := by
    unfold Environment.Holds
    decide +kernel
  obtain ⟨hread, hresult, hwritten⟩ := environments_read_and_written_back none
  obtain ⟨c, hc⟩ := (hread briefReports "reports").mpr (hword ▸ hdescribes)
  obtain ⟨hcvalid, -, -, hspells⟩ := hresult briefReports "reports" c hc
  obtain ⟨-, hback⟩ := hwritten reports hvalid hrange (by decide) (by decide)
  exact ⟨hvalid, hrange, by decide, by decide, hback _ (hword ▸ hholds), hdescribes, c, hc, hcvalid,
    hword ▸ hspells⟩

end Config
end SqlRecords
