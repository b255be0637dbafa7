import RouterCall.Config.Basic

/-!
# Settings from the environment

Three variables override the settings of a configuration, one after the other: the log level, the
layout of the log, and the treatment of unknown command names. A variable that is absent changes
nothing. A variable with a value it may not have ends the sequence; what was changed before it stays
changed, and the variables after it are not looked at.

Truth values may be written in several ways and in any case; the names of treatments are exact; the
level is taken as it is, as everywhere.

## Main definitions

* `ConfigEvent`: what reading a configuration has to tell a log
* `Overridden`: a configuration after some overrides, and whether they all succeeded
* `Config.override`: the three overrides

## Main results

* `Overridden.andThen_error`, `Overridden.andThen_ok`: how overrides follow one another
-/

namespace RouterCall

/-! ### Events -/

/-- Something worth recording while a configuration is read. -/
inductive ConfigEvent where
  /-- A file is about to be read. -/
  | loading (path : String)
  /-- The environment replaces the log level. -/
  | levelOverridden
  /-- The environment replaces the treatment of unknown command names. -/
  | unknownNamesOverridden
deriving DecidableEq

namespace ConfigEvent

/-- The source of records about configurations. -/
def source : String := "router_config::loader"

/-- The log record of an event. -/
def record : ConfigEvent → LogRecord
  | .loading path => ⟨.info, source, "Loading configuration from " ++ Quoted.render path⟩
  | .levelOverridden => ⟨.debug, source, "Overriding log level from environment"⟩
  | .unknownNamesOverridden =>
    ⟨.debug, source, "Overriding unknown command name policy from environment"⟩

end ConfigEvent

/-! ### Variables -/

/-- The values of the environment variables that are set. A variable whose value is not Unicode
counts as one that is not set. -/
abbrev Environment := String → Option String

namespace Environment

/-- The variable that overrides the log level. -/
def logLevelKey : String := "ROUTER_LOG_LEVEL"

/-- The variable that overrides the layout of the log. -/
def logJsonKey : String := "ROUTER_LOG_JSON"

/-- The variable that overrides the treatment of unknown command names. -/
def unknownNamesKey : String := "ROUTER_UNKNOWN_COMMAND_NAMES"

/-- The truth value a text writes, whatever the case of its letters. -/
def flag? (text : String) : Option Bool :=
  if asciiLower text ∈ ["1", "true", "yes"] then some true
  else if asciiLower text ∈ ["0", "false", "no"] then some false
  else none

end Environment

/-! ### Overrides -/

/-- A configuration after some overrides. The changes made before a failure are in it. -/
structure Overridden where
  config : Config
  events : List ConfigEvent
  outcome : Except ConfigError Unit

namespace Overridden

/-- No override at all. -/
def unchanged (config : Config) : Overridden := ⟨config, [], .ok ()⟩

/-- Some overrides and then, unless they failed, another. -/
def andThen (first : Overridden) (next : Config → Overridden) : Overridden :=
  match first.outcome with
  | .error e => ⟨first.config, first.events, .error e⟩
  | .ok () =>
    let second := next first.config
    ⟨second.config, first.events ++ second.events, second.outcome⟩

theorem andThen_error {first : Overridden} {e : ConfigError} (h : first.outcome = .error e)
    (next : Config → Overridden) : first.andThen next = first := by
  cases first
  simp_all [andThen]

theorem andThen_ok {first : Overridden} (h : first.outcome = .ok ()) (next : Config → Overridden) :
    first.andThen next =
      ⟨(next first.config).config, first.events ++ (next first.config).events,
        (next first.config).outcome⟩ := by
  cases first
  simp_all [andThen]

end Overridden

namespace Config

/-- Replaces the log level. -/
def overrideLevel (env : Environment) (config : Config) : Overridden :=
  match env Environment.logLevelKey with
  | none => .unchanged config
  | some level =>
    ⟨{ config with logging := { config.logging with level } }, [.levelOverridden], .ok ()⟩

/-- Replaces the layout of the log. -/
def overrideJson (env : Environment) (config : Config) : Overridden :=
  match env Environment.logJsonKey with
  | none => .unchanged config
  | some text => match Environment.flag? text with
    | some json => .unchanged { config with logging := { config.logging with json } }
    | none => ⟨config, [], .error (.invalidOverride Environment.logJsonKey (asciiLower text))⟩

/-- Replaces the treatment of unknown command names. -/
def overrideUnknownNames (env : Environment) (config : Config) : Overridden :=
  match env Environment.unknownNamesKey with
  | none => .unchanged config
  | some name => match UnknownNames.ofName? name with
    | some unknownNames =>
      ⟨{ config with validation := { unknownNames } }, [.unknownNamesOverridden], .ok ()⟩
    | none =>
      ⟨config, [.unknownNamesOverridden],
        .error (.invalidOverride Environment.unknownNamesKey name)⟩

/-- The overrides of an environment, in order, up to the first that fails. -/
def override (env : Environment) (config : Config) : Overridden :=
  ((overrideLevel env config).andThen (overrideJson env)).andThen (overrideUnknownNames env)

end Config

end RouterCall
