import RouterCall.Config.Json
import RouterCall.Config.Override
import RouterCall.Files
import RouterCall.Log.Traced
import RouterCall.Config.Toml
import RouterCall.Config.Yaml

/-!
# Configurations from files

The ending of a file's name says how the file is written; case counts. A file is looked for first,
then read, then its ending is looked at, then its settings, and last the log level. The environment
is laid over what the file says, and the log level is looked at again.

## Main definitions

* `ConfigFormat.ofExtension?`: the notation an ending stands for
* `Config.read`: the configuration a text is
* `Config.ofFile`, `Config.load`: the configuration in a file, and with the events of reading it
* `Config.assemble`: a file, if any, under the environment
-/

namespace RouterCall

namespace ConfigFormat

/-- The notation an ending stands for. -/
def ofExtension? (ending : String) : Option ConfigFormat :=
  if ending = "toml" then some .toml
  else if ending = "json" then some .json
  else if ending = "yaml" ∨ ending = "yml" then some .yaml
  else none

/-- The notation of a file. -/
def ofPath? (path : String) : Option ConfigFormat := Path.extension? path >>= ofExtension?

end ConfigFormat

/-- A configuration whose log level is one. -/
def Config.checked (config : Config) : Except ConfigError Config := do
  config.check
  return config

/-- The configuration after overrides, if they all succeeded and its log level is one. -/
def Overridden.checked (overridden : Overridden) : Except ConfigError Config := do
  overridden.outcome
  overridden.config.checked

namespace Config

/-- The configuration that a text in a notation is. The log level is not looked at. -/
def read (format : ConfigFormat) (text : String) : Except ConfigError Config :=
  let found := match format with
    | .toml => readToml text
    | .json => readJson text
    | .yaml => readYaml text
  found.elim (.error (.malformed format)) .ok

/-- The text of a configuration file. -/
def contents (files : Files) (path : String) : Except ConfigError String :=
  match files path with
  | .absent | .blocked => .error (.fileNotFound path)
  | state => state.contents.mapError .unreadable

/-- The notation of a configuration file. -/
def formatOf (path : String) : Except ConfigError ConfigFormat :=
  (ConfigFormat.ofPath? path).elim (.error (.unsupportedFormat path)) .ok

/-- The configuration in a file. -/
def ofFile (files : Files) (path : String) : Except ConfigError Config := do
  let contents ← contents files path
  let format ← formatOf path
  let config ← read format contents
  config.checked

/-- The configuration in a file, with the event of reading it. -/
def load (files : Files) (path : String) : Traced ConfigEvent ConfigError Config := do
  Traced.record (.loading path)
  Traced.lift (ofFile files path)

/-- The configuration in a file, or the default one without a file, under the overrides of an
environment. -/
def assemble (files : Files) (env : Environment) (path : Option String) :
    Traced ConfigEvent ConfigError Config := do
  let written ← path.elim (pure {}) (load files)
  Traced.mk (written.override env).events (written.override env).checked

end Config

end RouterCall
