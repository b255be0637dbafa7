import RouterCall.Call
import RouterCall.Config.File
import RouterCall.Inspect.Arguments
import RouterCall.Inspect.Report
import RouterCall.Log.Output

/-!
# Inspecting call files

A run of the program is a function of its arguments, the environment, and what the paths it is given
lead to. It ends with an exit code and two texts, one for results and one for everything else.

A run assembles the configuration, lays the options over it, and checks it; only then is there a
log, and what was recorded before is not written. Then all files are read and validated, in order,
and after that the result of each is presented, in order. A file that is refused does not keep the
others from being presented, but the run fails.

## Main definitions

* `Options.configure`: the configuration of a run
* `loadCall`: the call in a file
* `Transcript`, `Task.perform`: what a task writes, and whether it failed
* `Outcome`, `run`: the whole

## Main results

* `Options.level_of_configure`: the log level of a run is always one
-/

namespace RouterCall.Inspect

/-! ### Failures -/

/-- Why a run fails, and what lies behind it. -/
structure Failure where
  message : String
  causes : List String
deriving DecidableEq

namespace Failure

/-- A text with four blanks, or a number in their place, in front of it, and its further lines
indented. -/
def indent (number : Option Nat) (text : String) : String :=
  match number with
  | none => "    " ++ "\n    ".intercalate (text.splitOn "\n")
  | some n =>
    let digits := toString n
    String.ofList (List.replicate (5 - digits.length) ' ') ++ digits ++ ": "
      ++ "\n       ".intercalate (text.splitOn "\n")

/-- The causes of a failure, each on lines of its own, and numbered if there are several. -/
def causeLines (causes : List String) : List String :=
  match causes with
  | [] => []
  | [cause] => ["", "Caused by:", indent none cause]
  | causes => "" :: "Caused by:" :: causes.zipIdx.map fun (cause, n) => indent (some n) cause

/-- The report of a failure. The stack trace that follows it when the environment asks for one is
left out. -/
def render (failure : Failure) : String :=
  String.join ((("Error: " ++ failure.message) :: causeLines failure.causes).map (· ++ "\n"))

end Failure

/-! ### Configuration -/

namespace Options

/-- The options laid over a configuration. -/
def apply (options : Options) (config : Config) : Config where
  validation :=
    if options.acceptUnknown then { config.validation with unknownNames := .acceptAsFallback }
    else config.validation
  logging := {
    level := options.logLevel.getD config.logging.level
    json := options.jsonLogs || config.logging.json }

/-- The configuration of a run. -/
def configure (files : Files) (env : Environment) (options : Options) : Except Failure Config :=
  match (Config.assemble files env options.config).outcome with
  | .error e => .error ⟨"Failed to load configuration", e.causes⟩
  | .ok config =>
    match (options.apply config).check with
    | .error e => .error ⟨"Invalid configuration", e.causes⟩
    | .ok () => .ok (options.apply config)

/-- The log level of a run is always one. -/
theorem level_of_configure {files : Files} {env : Environment} {options : Options} {config : Config}
    (h : options.configure files env = .ok config) :
    ∃ level, LogLevel.ofText? config.logging.level = some level := by
  rw [configure.eq_def] at h
  split at h
  · cases h
  · next found _ =>
    split at h
    · cases h
    · next passed =>
      cases h
      obtain ⟨level, named⟩ := (Config.check_eq_ok_iff _).mp passed
      exact ⟨level, LogLevel.ofText?_of_ofName? named⟩

end Options

/-! ### Calls in files -/

/-- The call in a file, or the complaint about it, with the records of validating it. -/
def loadCall (policy : Policy) (files : Files) (path : String) : Traced LogRecord String Call :=
  match (files path).contents with
  | .error reason =>
    Traced.fail ("Failed to read call file: " ++ Quoted.render path ++ ": " ++ reason)
  | .ok text =>
    let validation := Call.validateText policy text
    { events := validation.events.map ValidationEvent.record
      outcome := validation.outcome.mapError fun rejection =>
        "Unsupported router call in " ++ Quoted.render path ++ ": " ++ rejection.message }

/-! ### Transcripts -/

/-- Something that a task writes. -/
inductive Emission where
  /-- A record, if the filter admits it. -/
  | record (record : LogRecord)
  /-- A complaint. -/
  | complaint (text : String)
  /-- A result. -/
  | result (value : Json)

/-- What a task writes, and why it failed if it did. -/
structure Transcript where
  emissions : List Emission
  failure : Option Failure

/-- The source of the records of a run. -/
def source : String := "router_inspect"

/-- What is written about a call that was to be validated. -/
def presentTyped (path : String) (call : Call) : List Emission := [
  .record ⟨.info, source,
    Quoted.render path ++ ": " ++ toString call.commands.length ++ " commands accepted"⟩,
  .result call.toJson]

/-- What is written about a call that was to be summarised. -/
def presentSummary (path : String) (call : Call) : List Emission :=
  (if call.summary.hasUnsupportedParts then [
    .record ⟨.warn, source,
      Quoted.render path ++ " contains commands or parameters that are not modeled"⟩]
  else []) ++ [.result (call.report path)]

/-- What is written about a file. -/
def presentFile (present : String → Call → List Emission) (path : String)
    (loaded : Traced LogRecord String Call) : List Emission :=
  match loaded.outcome with
  | .ok call => present path call
  | .error complaint => [.complaint complaint]

/-- Reads and validates files, then presents them. Files may be read at the same time; here the
records of their validations stand in the order of the files. -/
def inspectFiles (present : String → Call → List Emission) (policy : Policy) (files : Files)
    (paths : List String) : Transcript :=
  let loaded := paths.map fun path => (path, loadCall policy files path)
  let rejected := loaded.countP fun (_, call) => call.outcome.toOption.isNone
  { emissions :=
      loaded.flatMap (fun (_, call) => call.events.map .record)
        ++ loaded.flatMap fun (path, call) => presentFile present path call
    failure :=
      if rejected = 0 then none
      else some ⟨toString rejected ++ " of " ++ toString paths.length ++ " calls rejected", []⟩ }

/-- Does a task. -/
def Task.perform (config : Config) (files : Files) : Task → Transcript
  | .validate paths => inspectFiles presentTyped config.validation files paths
  | .summary paths => inspectFiles presentSummary config.validation files paths
  | .checkConfig =>
    ⟨[.record ⟨.info, source, "Configuration is valid"⟩, .result config.toJson], none⟩

/-! ### Runs -/

/-- How a run ends. -/
inductive Outcome where
  /-- The arguments are refused. -/
  | refused
  /-- The run ends with an exit code, a text of results, and a text of records and complaints. -/
  | finished (code : UInt8) (results : String) (notes : String)
deriving DecidableEq

/-- The line that asking for the version gives. -/
def versionLine : String := "router-inspect 0.1.0\n"

/-- The text that asking for the usage gives. -/
def usageText : String :=
  "Validate and classify universal router calls\n\n"
    ++ "Usage: router-inspect [OPTIONS] <validate FILES... | summary FILES... | check-config>\n\n"
    ++ "Options:\n"
    ++ "  -c, --config <CONFIG>          Path to configuration file [env: ROUTER_CONFIG]\n"
    ++ "  -l, --log-level <LOG_LEVEL>    Log level override (trace, debug, info, warn, error)\n"
    ++ "      --json-logs                Emit logs as JSON lines\n"
    ++ "      --accept-unknown-commands  Admit unknown command names as fallback commands\n"
    ++ "  -h, --help                     Print help\n"
    ++ "  -V, --version                  Print version\n"

/-- What an emission adds to the text of results. -/
def Emission.resultText : Emission → String
  | .result value => value.pretty ++ "\n"
  | _ => ""

/-- What an emission adds to the text of records and complaints. -/
def Emission.noteText (json : Bool) (filter : LogFilter) : Emission → String
  | .record entry => if filter.admits entry then entry.line json ++ "\n" else ""
  | .complaint text => text ++ "\n"
  | .result _ => ""

/-- How a run ends whose task has this transcript. -/
def Transcript.outcome (json : Bool) (filter : LogFilter) (transcript : Transcript) : Outcome :=
  let results := String.join (transcript.emissions.map Emission.resultText)
  let notes := String.join (transcript.emissions.map (Emission.noteText json filter))
  match transcript.failure with
  | none => .finished 0 results notes
  | some failure => .finished 1 results (notes ++ failure.render)

/-- The variable that holds a filter for the log. -/
def filterKey : String := "RUST_LOG"

/-- The record that the log begins with. -/
def startRecord (level : LogLevel) : LogRecord :=
  ⟨.info, "router_monitoring::tracing",
    "Tracing initialized with level: Level(" ++ level.title ++ ")"⟩

/-- How a run with options and a task ends. -/
def runTask (files : Files) (env : Environment) (options : Options) (task : Task) : Outcome :=
  match options.configure files env with
  | .error failure => .finished 1 "" failure.render
  | .ok config =>
    match LogLevel.ofText? config.logging.level with
    | none => .finished 1 "" (Failure.render ⟨LogLevel.unknownMessage config.logging.level, []⟩)
    | some level =>
      let output : LogOutput := { level, json := config.logging.json }
      let transcript := task.perform config files
      { transcript with emissions := .record (startRecord level) :: transcript.emissions }.outcome
        output.json (output.filter (env filterKey))

/-- How a run ends. -/
def run (files : Files) (env : Environment) (arguments : List String) : Outcome :=
  match Invocation.parse env arguments with
  | none => .refused
  | some .version => .finished 0 versionLine ""
  | some .usage => .finished 0 usageText ""
  | some (.run options task) => runTask files env options task

end RouterCall.Inspect
