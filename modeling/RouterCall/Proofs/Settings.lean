import RouterCall.Inspect.Run
import RouterCall.Proofs.Codec

/-!
# Where settings come from

Three places may have a say in a setting: the configuration file, the environment and the options of
the command line, each over the one before. A place that has no say in a setting leaves it alone,
and a setting in which no place has a say has its default. What a place says is a record of
optional settings, `Settings`, and putting one place over another is `Settings.onto`.

A configuration comes about when every place is in itself as it must be, also in what another place
replaces: the level of a file must be one although the environment has another, and the level of the
environment although the options do. The text of a level is kept as it is spelled.

What a file says is read off its value by looking a key up in a table, without a word on defaults
or on what else the file may hold. That the file is settings at all is a condition of its own.

## Main definitions

* `Settings`, `Settings.onto`: what one place says, and what becomes of a configuration under it
* `Settings.IsWrittenIn`: what an optional file says
* `Environment.IsFlag`, `Environment.IsTreatment`: the values that a variable may have
* `Environment.IsAdmissible`: variables that may have the values they have

## Main results

* `Config.eq_of_ofValue?`: reading a value fills what it says up with defaults
* `Config.override_yields_iff`: what an environment makes of a configuration
* `Inspect.Options.configure_eq_ok_iff`: which configuration a run has, and when it has one
-/

namespace RouterCall

/-! ### What one place says -/

/-- The settings in which one place has a say. -/
structure Settings where
  level : Option String := none
  json : Option Bool := none
  unknownNames : Option UnknownNames := none
deriving DecidableEq

/-- A configuration with some settings replaced. -/
def Settings.onto (settings : Settings) (config : Config) : Config where
  validation := ⟨settings.unknownNames.getD config.validation.unknownNames⟩
  logging := ⟨settings.level.getD config.logging.level, settings.json.getD config.logging.json⟩

/-- A text that names a log level, whatever the case of its letters. -/
def IsLevelName (text : String) : Prop :=
  asciiLower text ∈ ["trace", "debug", "info", "warn", "error"]

theorem exists_ofName?_iff {text : String} :
    (∃ level, LogLevel.ofName? text = some level) ↔ IsLevelName text := by
  simp only [LogLevel.ofName?_eq_some_iff, IsLevelName]
  constructor
  · rintro ⟨level, named⟩
    rw [← named]
    cases level <;> decide
  · intro mem
    simp only [List.mem_cons, List.not_mem_nil, or_false] at mem
    obtain same | same | same | same | same := mem
    exacts [⟨.trace, same.symm⟩, ⟨.debug, same.symm⟩, ⟨.info, same.symm⟩, ⟨.warn, same.symm⟩,
      ⟨.error, same.symm⟩]

theorem Config.check_eq_ok_iff_isLevelName {config : Config} :
    config.check = .ok () ↔ IsLevelName config.logging.level := by
  rw [check_eq_ok_iff, exists_ofName?_iff]

theorem Config.checked_eq_ok_iff {config found : Config} :
    config.checked = .ok found ↔ IsLevelName config.logging.level ∧ config = found := by
  rw [← check_eq_ok_iff_isLevelName]
  simp only [checked, bind_eq_ok_iff, pure_eq_ok_iff]
  constructor
  · rintro ⟨_, passed, same⟩
    exact ⟨passed, same⟩
  · rintro ⟨passed, same⟩
    exact ⟨(), passed, same⟩

/-! ### Files -/

namespace SettingReader

variable {α β : Type} {reader : SettingReader α}

/-- The value under a key of a table. -/
def member? (reader : SettingReader α) (keys : List String) (key : String) (value : α) :
    Option α :=
  (reader.entries? keys value).bind fun entries =>
    (entries.find? fun entry => entry.1 = some key).map Prod.snd

section Setting

variable {keys : List String} {value : α} {entries : List (Option String × α)} {key : String}
  {default b : β} {read? : α → Option β}

/-- A setting that has been read is what is under its key, or its default where nothing is. -/
theorem setting?_eq_some (table : reader.table? keys value = some entries)
    (h : setting? key default read? entries = some b) :
    reader.member? keys key value = none ∧ b = default ∨
      ∃ found, reader.member? keys key value = some found ∧ read? found = some b := by
  have found : reader.entries? keys value = some entries := by
    obtain ⟨entries', found, rest⟩ := Option.bind_eq_some_iff.mp table
    obtain ⟨-, -, same⟩ := Option.bind_eq_some_iff.mp rest
    cases same
    exact found
  have member : reader.member? keys key value =
      (entries.filter fun entry => entry.1 = some key).head?.map Prod.snd := by
    rw [member?, found, List.head?_filter]
    rfl
  rw [setting?] at h
  split at h
  · next none =>
    cases h
    exact .inl ⟨by rw [member, none]; rfl, rfl⟩
  · next written found one => exact .inr ⟨found, by rw [member, one]; rfl, h⟩
  · cases h

theorem eq_getD_of_setting? (table : reader.table? keys value = some entries)
    (h : setting? key default read? entries = some b) :
    b = (reader.member? keys key value >>= read?).getD default := by
  obtain ⟨absent, rfl⟩ | ⟨found, present, read⟩ := setting?_eq_some table h
  · rw [absent]
    rfl
  · rw [present]
    show b = (read? found).getD default
    rw [read]
    rfl

end Setting

end SettingReader

section Values

open SettingReader (setting?_eq_some eq_getD_of_setting?)

variable {α : Type} {reader : SettingReader α}

/-- What a value says: each setting is looked up by the key of its table and its own. -/
def Settings.ofValue (reader : SettingReader α) (value : α) : Settings where
  level := do
    let logging ← reader.member? ["validation", "logging"] "logging" value
    let level ← reader.member? ["level", "json"] "level" logging
    reader.text? level
  json := do
    let logging ← reader.member? ["validation", "logging"] "logging" value
    let json ← reader.member? ["level", "json"] "json" logging
    reader.flag? json
  unknownNames := do
    let validation ← reader.member? ["validation", "logging"] "validation" value
    let treatment ← reader.member? ["unknown_command_names"] "unknown_command_names" validation
    let name ← reader.choice? treatment
    UnknownNames.ofName? name

theorem Policy.unknownNames_of_ofValue? {value : α} {policy : Policy}
    (h : Policy.ofValue? reader value = some policy) :
    policy.unknownNames = (reader.member? ["unknown_command_names"] "unknown_command_names" value
      >>= UnknownNames.ofValue? reader).getD .reject := by
  obtain ⟨entries, table, h⟩ := Option.bind_eq_some_iff.mp h
  obtain ⟨treatment, set, same⟩ := Option.bind_eq_some_iff.mp h
  cases same
  exact eq_getD_of_setting? table set

theorem LoggingSettings.eq_of_ofValue? {value : α} {settings : LoggingSettings}
    (h : LoggingSettings.ofValue? reader value = some settings) :
    settings = ⟨(reader.member? ["level", "json"] "level" value >>= reader.text?).getD "info",
      (reader.member? ["level", "json"] "json" value >>= reader.flag?).getD false⟩ := by
  obtain ⟨entries, table, h⟩ := Option.bind_eq_some_iff.mp h
  obtain ⟨level, setLevel, h⟩ := Option.bind_eq_some_iff.mp h
  obtain ⟨json, setJson, same⟩ := Option.bind_eq_some_iff.mp h
  cases same
  rw [LoggingSettings.mk.injEq]
  exact ⟨eq_getD_of_setting? table setLevel, eq_getD_of_setting? table setJson⟩

/-- **What a value configures is what it says, over the defaults.** -/
theorem Config.eq_of_ofValue? {value : α} {config : Config}
    (h : Config.ofValue? reader value = some config) :
    config = (Settings.ofValue reader value).onto {} := by
  obtain ⟨entries, table, h⟩ := Option.bind_eq_some_iff.mp h
  obtain ⟨validation, setValidation, h⟩ := Option.bind_eq_some_iff.mp h
  obtain ⟨logging, setLogging, same⟩ := Option.bind_eq_some_iff.mp h
  cases same
  have policy : validation = ⟨(Settings.ofValue reader value).unknownNames.getD .reject⟩ := by
    rw [Settings.ofValue]
    obtain ⟨absent, rfl⟩ | ⟨found, present, read⟩ := setting?_eq_some table setValidation
    · rw [absent]
      rfl
    · rw [present]
      rw [Policy.mk.injEq]
      exact Policy.unknownNames_of_ofValue? read
  have log : logging = ⟨(Settings.ofValue reader value).level.getD "info",
      (Settings.ofValue reader value).json.getD false⟩ := by
    rw [Settings.ofValue]
    obtain ⟨absent, rfl⟩ | ⟨found, present, read⟩ := setting?_eq_some table setLogging
    · rw [absent]
      rfl
    · rw [present]
      exact LoggingSettings.eq_of_ofValue? read
  rw [policy, log]
  rfl

end Values

/-- What a text in a notation says. -/
def Settings.read (format : ConfigFormat) (text : String) : Settings :=
  match format with
  | .toml => (Toml.read text).elim {} (ofValue Toml.Value.reader)
  | .json => (Document.read text).elim {} (ofValue Document.reader)
  | .yaml => (Yaml.Document.read text).elim {} fun document =>
    ofValue document.reader document.root

theorem elim_error_eq_ok_iff {ε α : Type} {found : Option α} {e : ε} {a : α} :
    found.elim (.error e) Except.ok = .ok a ↔ found = some a := by
  cases found <;> simp

/-- **What a text configures is what it says, over the defaults.** -/
theorem Config.eq_of_read {format : ConfigFormat} {text : String} {config : Config}
    (h : Config.read format text = .ok config) : config = (Settings.read format text).onto {} := by
  rw [Config.read.eq_def] at h
  have h := elim_error_eq_ok_iff.mp h
  cases format with
  | toml =>
    obtain ⟨value, parsed, h⟩ := Option.bind_eq_some_iff.mp h
    rw [Settings.read, parsed]
    exact eq_of_ofValue? h
  | json =>
    obtain ⟨document, parsed, h⟩ := Option.bind_eq_some_iff.mp h
    rw [Settings.read, parsed]
    exact eq_of_ofValue? h
  | yaml =>
    obtain ⟨document, parsed, h⟩ := Option.bind_eq_some_iff.mp h
    rw [Settings.read, parsed]
    exact eq_of_ofValue? h

example : Settings.read .toml "logging.level = 'Warn'\nlogging.json = true\n" =
    { level := some "Warn", json := some true } := by
  decide +kernel

/-- The endings of file names, with the notations they stand for. -/
def ConfigFormat.endings : List (String × ConfigFormat) :=
  [("toml", .toml), ("json", .json), ("yaml", .yaml), ("yml", .yaml)]

theorem ConfigFormat.ofExtension?_eq_some_iff {ending : String} {format : ConfigFormat} :
    ofExtension? ending = some format ↔ (ending, format) ∈ endings := by
  rw [ofExtension?]
  split_ifs <;> cases format <;> simp_all [endings]

/-- What an optional file says, when it is there, is settings in the notation of its ending, and
has a level that is one. -/
inductive Settings.IsWrittenIn (files : Files) : Option String → Settings → Prop
  | absent : IsWrittenIn files none {}
  | present {path text ending : String} {format : ConfigFormat} {config : Config}
      (found : files path = .text text) (ends : Path.extension? path = some ending)
      (stands : (ending, format) ∈ ConfigFormat.endings)
      (parses : Config.read format text = .ok config)
      (level : IsLevelName ((Settings.read format text).level.getD "info")) :
      IsWrittenIn files (some path) (Settings.read format text)

namespace Config

theorem contents_eq_ok_iff {files : Files} {path text : String} :
    contents files path = .ok text ↔ files path = .text text := by
  rw [contents.eq_def]
  cases files path <;> simp [FileState.contents, Except.mapError]

theorem formatOf_eq_ok_iff {path : String} {format : ConfigFormat} :
    formatOf path = .ok format ↔
      ∃ ending, Path.extension? path = some ending ∧ (ending, format) ∈ ConfigFormat.endings := by
  rw [formatOf, elim_error_eq_ok_iff, ConfigFormat.ofPath?]
  simp only [Option.bind_eq_bind, Option.bind_eq_some_iff, ConfigFormat.ofExtension?_eq_some_iff]

/-- A file configures what it says, over the defaults. -/
theorem ofFile_eq_ok_iff {files : Files} {path : String} {config : Config} :
    ofFile files path = .ok config ↔
      ∃ written, Settings.IsWrittenIn files (some path) written ∧ config = written.onto {} := by
  simp only [ofFile, bind_eq_ok_iff, contents_eq_ok_iff, formatOf_eq_ok_iff, checked_eq_ok_iff]
  constructor
  · rintro ⟨text, found, format, ⟨ending, ends, stands⟩, config, parses, named, rfl⟩
    have same := eq_of_read parses
    rw [same] at named
    exact ⟨_, .present found ends stands parses named, same⟩
  · rintro ⟨written, present, rfl⟩
    cases present with
    | present found ends stands parses level =>
      have same := eq_of_read parses
      rw [same] at parses
      exact ⟨_, found, _, ⟨_, ends, stands⟩, _, parses, level, rfl⟩

theorem outcome_elim_load_eq_ok_iff {files : Files} {path : Option String} {config : Config} :
    (path.elim (pure {}) (load files)).outcome = .ok config ↔
      ∃ written, Settings.IsWrittenIn files path written ∧ config = written.onto {} := by
  cases path with
  | none =>
    constructor
    · rintro ⟨⟩
      exact ⟨{}, .absent, rfl⟩
    · rintro ⟨_, ⟨⟩, rfl⟩
      rfl
  | some path =>
    rw [← ofFile_eq_ok_iff]
    simp [load, bind_eq_ok_iff]

end Config

/-! ### The environment -/

/-- A text that is read as a truth value, whatever the case of its letters. -/
def Environment.IsFlag (text : String) : Prop :=
  asciiLower text ∈ ["1", "true", "yes", "0", "false", "no"]

/-- The treatments of unknown names, in their exact spelling. -/
def Environment.IsTreatment (text : String) : Prop := text ∈ ["reject", "accept_as_fallback"]

instance (text : String) : Decidable (Environment.IsFlag text) :=
  inferInstanceAs (Decidable (_ ∈ _))

instance (text : String) : Decidable (Environment.IsTreatment text) :=
  inferInstanceAs (Decidable (_ ∈ _))

/-- Variables that have values they may have. The level is not among them, since it is looked at
only when it has been laid over the file. -/
structure Environment.IsAdmissible (env : Environment) : Prop where
  json : ∀ text, env "ROUTER_LOG_JSON" = some text → IsFlag text
  unknownNames : ∀ text, env "ROUTER_UNKNOWN_COMMAND_NAMES" = some text → IsTreatment text

/-- What admissible variables say. -/
def Settings.ofEnvironment (env : Environment) : Settings where
  level := env "ROUTER_LOG_LEVEL"
  json := (env "ROUTER_LOG_JSON").map fun text => decide (asciiLower text ∈ ["1", "true", "yes"])
  unknownNames := (env "ROUTER_UNKNOWN_COMMAND_NAMES").map fun text =>
    if text = "accept_as_fallback" then .acceptAsFallback else .reject

theorem Environment.flag?_eq_some_iff {text : String} {b : Bool} :
    flag? text = some b ↔ IsFlag text ∧ decide (asciiLower text ∈ ["1", "true", "yes"]) = b := by
  show _ ↔ asciiLower text ∈ ["1", "true", "yes"] ++ ["0", "false", "no"] ∧ _
  rw [flag?, List.mem_append]
  split_ifs with yes no <;> simp_all

theorem UnknownNames.ofName?_eq_some_iff {text : String} {treatment : UnknownNames} :
    ofName? text = some treatment ↔ Environment.IsTreatment text ∧
      (if text = "accept_as_fallback" then .acceptAsFallback else .reject) = treatment := by
  rw [ofName?, name, name, Environment.IsTreatment]
  split_ifs with reject accept <;> simp_all

/-- Overrides that succeed and lead to a configuration. -/
def Overridden.Yields (overridden : Overridden) (config : Config) : Prop :=
  overridden.outcome = .ok () ∧ overridden.config = config

theorem Overridden.andThen_yields_iff {first : Overridden} {next : Config → Overridden}
    {config : Config} :
    (first.andThen next).Yields config ↔ ∃ between, first.Yields between ∧
      (next between).Yields config := by
  cases done : first.outcome with
  | error e => simp [Yields, andThen_error done, done]
  | ok _ => simp [Yields, andThen_ok done, done]

/-- An override that reads a variable yields what the variable is read as, and nothing when it
cannot be read. -/
theorem Overridden.yields_iff_of_read {α : Type} {found : Option α} {overridden : Overridden}
    {admissible : Prop} {value : α} (replaced : α → Config) {config : Config}
    (reads : ∀ {a}, found = some a ↔ admissible ∧ value = a)
    (refused : found = none → ¬ overridden.Yields config)
    (done : ∀ {a}, found = some a → (overridden.Yields config ↔ replaced a = config)) :
    overridden.Yields config ↔ admissible ∧ replaced value = config := by
  cases read : found with
  | none =>
    refine ⟨fun yields => absurd yields (refused read), ?_⟩
    rintro ⟨mem, -⟩
    cases read.symm.trans (reads.mpr ⟨mem, rfl⟩)
  | some a =>
    obtain ⟨mem, rfl⟩ := reads.mp read
    rw [done read, and_iff_right mem]

namespace Config

variable {env : Environment} {config config' : Config}

theorem overrideLevel_yields_iff :
    (overrideLevel env config).Yields config' ↔
      ({ config with logging := { config.logging with
        level := (Settings.ofEnvironment env).level.getD config.logging.level } } : Config) =
        config' := by
  rw [overrideLevel.eq_def, Environment.logLevelKey, Settings.ofEnvironment]
  cases env "ROUTER_LOG_LEVEL" <;> simp [Overridden.Yields, Overridden.unchanged]

theorem overrideJson_yields_iff :
    (overrideJson env config).Yields config' ↔
      (∀ text, env "ROUTER_LOG_JSON" = some text → Environment.IsFlag text) ∧
      ({ config with logging := { config.logging with
        json := (Settings.ofEnvironment env).json.getD config.logging.json } } : Config) =
        config' := by
  rw [overrideJson.eq_def, Environment.logJsonKey, Settings.ofEnvironment]
  cases env "ROUTER_LOG_JSON" with
  | none => simp [Overridden.Yields, Overridden.unchanged]
  | some text =>
    simp only [Option.some.injEq, forall_eq', Option.map_some, Option.getD_some]
    refine Overridden.yields_iff_of_read
      (fun json => { config with logging := { config.logging with json } })
      Environment.flag?_eq_some_iff ?refused ?done
    case refused =>
      intro read yields
      rw [read] at yields
      cases yields.1
    case done =>
      intro json read
      rw [read]
      exact and_iff_right rfl

theorem overrideUnknownNames_yields_iff :
    (overrideUnknownNames env config).Yields config' ↔
      (∀ text, env "ROUTER_UNKNOWN_COMMAND_NAMES" = some text → Environment.IsTreatment text) ∧
      ({ config with validation :=
        ⟨(Settings.ofEnvironment env).unknownNames.getD config.validation.unknownNames⟩ } :
          Config) = config' := by
  rw [overrideUnknownNames.eq_def, Environment.unknownNamesKey, Settings.ofEnvironment]
  cases env "ROUTER_UNKNOWN_COMMAND_NAMES" with
  | none => simp [Overridden.Yields, Overridden.unchanged]
  | some text =>
    simp only [Option.some.injEq, forall_eq', Option.map_some, Option.getD_some]
    refine Overridden.yields_iff_of_read
      (fun unknownNames => { config with validation := { unknownNames } })
      UnknownNames.ofName?_eq_some_iff ?refused ?done
    case refused =>
      intro read yields
      rw [read] at yields
      cases yields.1
    case done =>
      intro treatment read
      rw [read]
      exact and_iff_right rfl

/-- **What an environment makes of a configuration.** -/
theorem override_yields_iff :
    (config.override env).Yields config' ↔
      env.IsAdmissible ∧ (Settings.ofEnvironment env).onto config = config' := by
  simp only [override, Overridden.andThen_yields_iff, overrideLevel_yields_iff,
    overrideJson_yields_iff, overrideUnknownNames_yields_iff]
  constructor
  · rintro ⟨_, ⟨_, rfl, json, rfl⟩, unknownNames, rfl⟩
    exact ⟨⟨json, unknownNames⟩, rfl⟩
  · rintro ⟨⟨json, unknownNames⟩, rfl⟩
    exact ⟨_, ⟨_, rfl, json, rfl⟩, unknownNames, rfl⟩

theorem checked_override_eq_ok_iff :
    (config.override env).checked = .ok config' ↔ env.IsAdmissible ∧
      (Settings.ofEnvironment env).onto config = config' ∧ IsLevelName config'.logging.level := by
  rw [← and_assoc, ← override_yields_iff]
  simp only [Overridden.checked, bind_eq_ok_iff, checked_eq_ok_iff]
  constructor
  · rintro ⟨_, done, named, rfl⟩
    exact ⟨⟨done, rfl⟩, named⟩
  · rintro ⟨⟨done, rfl⟩, named⟩
    exact ⟨(), done, named, rfl⟩

/-- An optional file under an environment. -/
theorem assemble_eq_ok_iff {files : Files} {path : Option String} :
    (assemble files env path).outcome = .ok config ↔
      ∃ written, Settings.IsWrittenIn files path written ∧ env.IsAdmissible ∧
        (Settings.ofEnvironment env).onto (written.onto {}) = config ∧
        IsLevelName config.logging.level := by
  simp only [assemble, Traced.outcome_bind, bind_eq_ok_iff, outcome_elim_load_eq_ok_iff,
    checked_override_eq_ok_iff]
  constructor
  · rintro ⟨_, ⟨written, present, rfl⟩, rest⟩
    exact ⟨written, present, rest⟩
  · rintro ⟨written, present, rest⟩
    exact ⟨_, ⟨written, present, rfl⟩, rest⟩

end Config

/-! ### The options -/

namespace Inspect.Options

/-- What the options of a command line say. -/
def settings (options : Options) : Settings where
  level := options.logLevel
  json := if options.jsonLogs then some true else none
  unknownNames := if options.acceptUnknown then some .acceptAsFallback else none

theorem apply_eq_onto (options : Options) (config : Config) :
    options.apply config = options.settings.onto config := by
  obtain ⟨path, level, json, accept⟩ := options
  cases json <;> cases accept <;> rfl

theorem settings_onto (options : Options) (config : Config) :
    options.settings.onto config = {
      validation :=
        ⟨if options.acceptUnknown then .acceptAsFallback else config.validation.unknownNames⟩
      logging := ⟨options.logLevel.getD config.logging.level,
        if options.jsonLogs then true else config.logging.json⟩ } := by
  obtain ⟨path, level, json, accept⟩ := options
  cases json <;> cases accept <;> rfl

/-- A configuration is one that was assembled, with the options over it and a level that is one. -/
theorem configure_eq_ok_iff_assemble {files : Files} {env : Environment} {options : Options}
    {config : Config} :
    options.configure files env = .ok config ↔
      ∃ assembled, (Config.assemble files env options.config).outcome = .ok assembled ∧
        options.settings.onto assembled = config ∧ IsLevelName config.logging.level := by
  rw [configure.eq_def]
  cases (Config.assemble files env options.config).outcome with
  | error e => simp
  | ok assembled =>
    simp only [Except.ok.injEq, exists_eq_left', ← Config.check_eq_ok_iff_isLevelName,
      ← apply_eq_onto]
    cases passed : (options.apply assembled).check with
    | error e =>
      constructor
      · rintro ⟨⟩
      · rintro ⟨rfl, named⟩
        rw [passed] at named
        cases named
    | ok _ =>
      constructor
      · rintro ⟨⟩
        exact ⟨rfl, passed⟩
      · rintro ⟨rfl, -⟩
        rfl

/-- **Which configuration a run has, and when it has one.** Each place must be in order in itself:
the file, the variables, the level under the environment and the level among the options. Each
setting is then the first that is present among options, environment and file, and else its default.
The level that comes out is one for the log as well. -/
theorem configure_eq_ok_iff {files : Files} {env : Environment} {options : Options}
    {config : Config} :
    (options.configure files env = .ok config ↔
      ∃ written, Settings.IsWrittenIn files options.config written ∧ env.IsAdmissible ∧
        IsLevelName ((env "ROUTER_LOG_LEVEL").getD (written.level.getD "info")) ∧
        (∀ level, options.logLevel = some level → IsLevelName level) ∧
        config.logging.level =
          options.logLevel.getD ((env "ROUTER_LOG_LEVEL").getD (written.level.getD "info")) ∧
        config.logging.json = (if options.jsonLogs then true else
          (Settings.ofEnvironment env).json.getD (written.json.getD false)) ∧
        config.validation.unknownNames = (if options.acceptUnknown then .acceptAsFallback else
          (Settings.ofEnvironment env).unknownNames.getD (written.unknownNames.getD .reject))) ∧
    (options.configure files env = .ok config →
      config.check = .ok () ∧ ∃ level, LogLevel.ofText? config.logging.level = some level) := by
  constructor
  · rw [configure_eq_ok_iff_assemble]
    simp only [Config.assemble_eq_ok_iff]
    constructor
    · rintro ⟨_, ⟨written, present, admissible, rfl, named⟩, rfl, level⟩
      rw [settings_onto] at level ⊢
      refine ⟨written, present, admissible, named, fun text given => ?_, rfl, rfl, rfl⟩
      rwa [given] at level
    · rintro ⟨written, present, admissible, named, each, level, json, unknownNames⟩
      refine ⟨_, ⟨written, present, admissible, rfl, named⟩, ?_, ?_⟩
      · obtain ⟨⟨_⟩, ⟨_, _⟩⟩ := config
        cases level
        cases json
        cases unknownNames
        exact settings_onto _ _
      · rw [level]
        cases given : options.logLevel with
        | none => exact named
        | some text => exact each text given
  · intro h
    obtain ⟨_, -, -, named⟩ := configure_eq_ok_iff_assemble.mp h
    exact ⟨Config.check_eq_ok_iff_isLevelName.mpr named, level_of_configure h⟩

/-- A file that has a say in the two settings of the log. -/
def sampleFiles : Files := fun path =>
  if path = "router.toml" then .text "logging.level = 'Warn'\nlogging.json = true\n" else .absent

/-- Variables that have a say in the layout of the log and in the policy. -/
def sampleEnvironment : Environment := fun key =>
  if key = "ROUTER_LOG_JSON" then some "NO"
  else if key = "ROUTER_UNKNOWN_COMMAND_NAMES" then some "accept_as_fallback"
  else none

/-- Options that name the file and have a say in the level. -/
def sampleOptions : Options := { config := some "router.toml", logLevel := some "ERROR" }

theorem configure_eq_ok_iff_sample :
    sampleOptions.configure sampleFiles sampleEnvironment =
        .ok ⟨⟨.acceptAsFallback⟩, ⟨"ERROR", false⟩⟩ ∧
      (∃ written, Settings.IsWrittenIn sampleFiles (some "router.toml") written ∧
        sampleEnvironment.IsAdmissible ∧ IsLevelName (written.level.getD "info")) ∧
      ∃ level, LogLevel.ofText? "ERROR" = some level := by
  have configured : sampleOptions.configure sampleFiles sampleEnvironment =
      .ok ⟨⟨.acceptAsFallback⟩, ⟨"ERROR", false⟩⟩ := by decide +kernel
  obtain ⟨written, present, admissible, named, -⟩ := configure_eq_ok_iff.1.mp configured
  exact ⟨configured, ⟨written, present, admissible, named⟩, (configure_eq_ok_iff.2 configured).2⟩

end Inspect.Options

end RouterCall
