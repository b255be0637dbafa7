import RouterCall.Json.Value
import RouterCall.Log.Level
import RouterCall.Policy
import RouterCall.Text.Quoted

/-!
# Configuration

A configuration says under which policy calls are validated and how the log is written. Every
setting has a default. The log level is kept as the text it was given as; whether that text names a
level is `Config.check`, a step of its own, since settings from several places are laid over one
another before anyone looks.

## Main definitions

* `Config`, `LoggingSettings`, with their encodings
* `ConfigError`, `ConfigError.kind`, `ConfigError.message`
* `Config.check`: whether the log level is one

## Main results

* `Config.check_eq_ok_iff`: the check passes exactly when the text names a level
-/

namespace RouterCall

/-- How the log is written. -/
structure LoggingSettings where
  level : String := LogLevel.info.name
  json : Bool := false
deriving DecidableEq

/-- The settings of the program. -/
structure Config where
  validation : Policy := {}
  logging : LoggingSettings := {}
deriving DecidableEq

namespace Config

/-- The configuration that keeps unknown command names as opaque commands. -/
def permissive : Config := { validation := .permissive }

instance : Inhabited Config := ⟨{}⟩

end Config

/-! ### Encodings -/

/-- The key of the treatment of unknown command names. -/
def Policy.unknownNamesKey : String := "unknown_command_names"

/-- A policy in settings. -/
def Policy.toJson (policy : Policy) : Json :=
  .object [(Policy.unknownNamesKey, .string policy.unknownNames.name)]

/-- Log settings in settings. -/
def LoggingSettings.toJson (settings : LoggingSettings) : Json :=
  .object [("level", .string settings.level), ("json", .bool settings.json)]

/-- A configuration in settings. -/
def Config.toJson (config : Config) : Json :=
  .object [("validation", config.validation.toJson), ("logging", config.logging.toJson)]

/-! ### Errors -/

/-- The notations a configuration file can be written in. -/
inductive ConfigFormat where
  | toml
  | json
  | yaml
deriving DecidableEq

/-- The name of a notation in messages. -/
def ConfigFormat.label : ConfigFormat → String
  | toml => "TOML"
  | json => "JSON"
  | yaml => "YAML"

/-- Why there is no configuration. -/
inductive ConfigError where
  /-- There is no file of that name. -/
  | fileNotFound (path : String)
  /-- The file is there and cannot be read. -/
  | unreadable (reason : String)
  /-- The name of the file does not say how it is written. -/
  | unsupportedFormat (path : String)
  /-- The file is not settings in its notation. -/
  | malformed (format : ConfigFormat)
  /-- The log level is none. -/
  | unknownLevel (level : String)
  /-- The value of an environment variable is none of those it may have. -/
  | invalidOverride (key : String) (value : String)
deriving DecidableEq

namespace ConfigError

/-- The four kinds of error. -/
inductive Kind where
  | fileNotFound
  | parse
  | validation
  | io
deriving DecidableEq

/-- The kind of an error. -/
def kind : ConfigError → Kind
  | .fileNotFound _ => .fileNotFound
  | .unreadable _ => .io
  | .unsupportedFormat _ | .malformed _ => .parse
  | .unknownLevel _ | .invalidOverride _ _ => .validation

/-- The names of the levels, as a list in a message. -/
def levelNames : String :=
  "[" ++ ", ".intercalate (LogLevel.all.map fun level => Quoted.render level.name) ++ "]"

/-- The wording of an error. Behind the name of a notation the program repeats the words of the
library that reads it. They are the library's own, nothing else depends on them, and they are left
out. -/
def message : ConfigError → String
  | .fileNotFound path => "File not found: " ++ path
  | .unreadable reason => "IO error: " ++ reason
  | .unsupportedFormat path => "Parse error: Unsupported config format: " ++ Quoted.render path
  | .malformed format => "Parse error: Failed to parse " ++ format.label
  | .unknownLevel level =>
    "Validation error: Unknown log level '" ++ level ++ "', expected one of " ++ levelNames
  | .invalidOverride key value => "Validation error: Invalid " ++ key ++ ": " ++ value

/-- The wordings of an error and of what lies behind it, the outermost first. -/
def causes (error : ConfigError) : List String :=
  error.message :: match error with
    | .unreadable reason => [reason]
    | _ => []

end ConfigError

/-- Checks that the log level is one. -/
def Config.check (config : Config) : Except ConfigError Unit :=
  match LogLevel.ofName? config.logging.level with
  | some _ => .ok ()
  | none => .error (.unknownLevel config.logging.level)

/-- The check passes exactly when the text names a level. -/
theorem Config.check_eq_ok_iff (config : Config) :
    config.check = .ok () ↔ ∃ level, LogLevel.ofName? config.logging.level = some level := by
  rw [Config.check]
  split <;> simp_all

end RouterCall
