import RouterCall.Proofs.Level
import RouterCall.Proofs.Spelling

/-!
# A printed configuration is a configuration file

The program prints the configuration it runs under as JSON, and it reads JSON. What it prints can be
put into a file, and the file stands for the configuration, whatever text the log level is: every
setting is written, under the key that it is read from, and the reader of settings looks at the same
document that the text spells. Blanks around the tokens do not matter, so either layout will do, and
so will the line break that ends what is printed.

So checking a configuration can be repeated on its own output. With no variable and no option in the
way, the file alone makes the configuration, which is the one that was printed and has a level that
is one; the second run prints it again.

## Main definitions

* `Environment.IsMute`: no variable has a say in a setting
* `Inspect.checkNotes`: what checking a configuration notes

## Main results

* `Config.read_of_spells`: a text that spells a configuration is read as it
* `Inspect.Options.configure_of_read`: a file alone makes the configuration that it is
* `Inspect.checkConfig_repeats`: a configuration that was printed is read back and printed again
-/

namespace RouterCall

open Json (Spells IsGap spells_compactChars spells_prettyChars)

namespace Config

/-- Each setting is found under its key. -/
theorem ofValue?_document (config : Config) :
    Config.ofValue? Document.reader config.toJson.document = some config := by
  obtain ⟨⟨treatment⟩, logging⟩ := config
  cases treatment <;> rfl

/-- **A text that spells a configuration is read as it**, also with blanks behind it. -/
theorem read_of_spells {config : Config} {cs gap : List Char} (spelled : config.toJson.Spells cs)
    (blank : IsGap gap) : Config.read .json (String.ofList (cs ++ gap)) = .ok config := by
  have parsed : Document.read (String.ofList (cs ++ gap)) = some config.toJson.document := by
    rw [Document.read, String.toList_ofList]
    exact Document.readChars_of_spells spelled blank
  rw [Config.read.eq_def, elim_error_eq_ok_iff]
  show (Document.read _ >>= Config.ofValue? Document.reader) = some config
  rw [parsed]
  exact ofValue?_document config

theorem read_compact (config : Config) :
    Config.read .json config.toJson.compact = .ok config := by
  have read := read_of_spells (spells_compactChars config.toJson) Json.isGap_nil
  rwa [List.append_nil] at read

theorem read_pretty (config : Config) : Config.read .json config.toJson.pretty = .ok config := by
  have read := read_of_spells (spells_prettyChars config.toJson 0) Json.isGap_nil
  rwa [List.append_nil] at read

/-- The line break that ends what is printed may stay. -/
theorem read_pretty_line (config : Config) :
    Config.read .json (config.toJson.pretty ++ "\n") = .ok config := by
  have line : config.toJson.pretty ++ "\n" =
      String.ofList (config.toJson.prettyChars 0 ++ Json.newLine 0) := by
    rw [String.ofList_append]
    rfl
  rw [line]
  exact read_of_spells (spells_prettyChars config.toJson 0) (Json.isGap_newLine 0)

end Config

/-! ### The configuration of a file alone -/

/-- No variable has a say in a setting. -/
structure Environment.IsMute (env : Environment) : Prop where
  level : env "ROUTER_LOG_LEVEL" = none
  json : env "ROUTER_LOG_JSON" = none
  unknownNames : env "ROUTER_UNKNOWN_COMMAND_NAMES" = none

namespace Environment.IsMute

variable {env : Environment}

theorem isAdmissible (mute : IsMute env) : env.IsAdmissible where
  json text given := by
    rw [mute.json] at given
    cases given
  unknownNames text given := by
    rw [mute.unknownNames] at given
    cases given

theorem ofEnvironment (mute : IsMute env) : Settings.ofEnvironment env = {} := by
  rw [Settings.ofEnvironment, mute.level, mute.json, mute.unknownNames]
  rfl

end Environment.IsMute

namespace Inspect

namespace Options

/-- **A file makes the configuration that it is**, with nothing else to have a say. -/
theorem configure_of_read {files : Files} {env : Environment} {path ending text : String}
    {format : ConfigFormat} {config : Config} (mute : env.IsMute) (holds : files path = .text text)
    (ends : Path.extension? path = some ending) (stands : (ending, format) ∈ ConfigFormat.endings)
    (parses : Config.read format text = .ok config) (passed : config.check = .ok ()) :
    ({ config := some path } : Options).configure files env = .ok config := by
  have named := Config.check_eq_ok_iff_isLevelName.mp passed
  have same := Config.eq_of_read parses
  have level : config.logging.level = (Settings.read format text).level.getD "info" :=
    congrArg (fun config : Config => config.logging.level) same
  have written : Settings.IsWrittenIn files (some path) (Settings.read format text) :=
    .present holds ends stands parses (level ▸ named)
  have assembled : (Config.assemble files env (some path)).outcome = .ok config := by
    refine Config.assemble_eq_ok_iff.mpr ⟨_, written, mute.isAdmissible, ?_, named⟩
    rw [mute.ofEnvironment, ← same]
    rfl
  exact configure_eq_ok_iff_assemble.mpr ⟨config, assembled, rfl, named⟩

end Options

/-! ### Checking a configuration -/

/-- What checking a configuration notes: that the log starts, and that there is nothing wrong. -/
def checkNotes (env : Environment) (config : Config) (level : LogLevel) : String :=
  let filter := LogOutput.filter { level, json := config.logging.json } (env filterKey)
  let note := Emission.noteText config.logging.json filter
  note (.record (startRecord level)) ++ note (.record ⟨.info, source, "Configuration is valid"⟩)

theorem proceeds_checkConfig (files : Files) (env : Environment) (config : Config)
    (level : LogLevel) :
    proceeds files env config level .checkConfig =
      .finished 0 (config.toJson.pretty ++ "\n") (checkNotes env config level) := by
  simp [proceeds, Task.perform, Transcript.outcome, checkNotes, Emission.resultText,
    Emission.noteText]

/-- What is noted depends on the environment only through the filter of the log. -/
theorem checkNotes_congr {env env' : Environment} (same : env' "RUST_LOG" = env "RUST_LOG")
    (config : Config) (level : LogLevel) :
    checkNotes env' config level = checkNotes env config level := by
  rw [checkNotes, checkNotes, filterKey, same]

/-- Checking a configuration succeeds exactly when there is one, and prints it. -/
theorem runTask_checkConfig_eq_iff {files : Files} {env : Environment} {options : Options}
    {results notes : String} :
    runTask files env options .checkConfig = .finished 0 results notes ↔
      ∃ config level, options.configure files env = .ok config ∧
        LogLevel.IsRead config.logging.level level ∧
        results = config.toJson.pretty ++ "\n" ∧ notes = checkNotes env config level := by
  obtain ⟨failure, failed, refused⟩ | ⟨config, level, configured, isRead, going⟩ :=
    runTask_cases files env options .checkConfig
  · rw [refused, failed]
    simp
  · rw [going, proceeds_checkConfig, configured]
    constructor
    · intro ends
      injection ends with _ shown noted
      exact ⟨config, level, rfl, isRead, shown.symm, noted.symm⟩
    · rintro ⟨_, level', ⟨⟩, isRead', rfl, rfl⟩
      cases isRead.read.symm.trans isRead'.read
      rfl

/-- A command line that names a file, and nothing else. -/
theorem parse_config_path (env : Environment) {path : String} (named : path ≠ "") :
    Invocation.parse env ["--config=" ++ path, "check-config"] =
      some (.run { config := some path } .checkConfig) := by
  have option : Token.ofArgument ("--config=" ++ path) = .long "config" (some path) := by
    have front : "--config=".toList = ['-', '-', 'c', 'o', 'n', 'f', 'i', 'g', '='] := by decide
    rw [Token.ofArgument, String.toList_append, front]
    simp [Token.attached?]
  have given : ({} : Options).give? .config path = some { config := some path } := by
    simp [Options.give?, named]
  have task : Token.ofArgument "check-config" = .word "check-config" := by decide
  have named : Invocation.parseTask env { config := some path } "check-config" [] =
      some (.run { config := some path } .checkConfig) := rfl
  have accepted : ({} : Options).accept? (.long "config" (some path)) =
      some (.options { config := some path } none) := by
    rw [Options.accept?, Options.receive?, given]
    rfl
  rw [Invocation.parse, Invocation.parseFrom, option, accepted]
  show Invocation.parseFrom env { config := some path } none ["check-config"] = _
  rw [Invocation.parseFrom, task]
  exact named

/-- **What checking a configuration prints is a configuration file, which is printed again.** A
configuration is read back from either layout, whatever text its level is. So a run that checks a
configuration prints a text that may be kept in a file, and a run that checks this file, without a
variable or an option that has a say in a setting, succeeds and prints the same; it also notes the
same, unless the filter of the log is another. Such a run is asked for by naming the file. -/
theorem checkConfig_repeats :
    (∀ config : Config, Config.read .json config.toJson.compact = .ok config ∧
      Config.read .json config.toJson.pretty = .ok config) ∧
    (∀ files env arguments options results notes,
      Invocation.parse env arguments = some (.run options .checkConfig) →
      run files env arguments = .finished 0 results notes →
      ∀ (files' : Files) (env' : Environment) (path : String), env'.IsMute →
        Path.extension? path = some "json" → files' path = .text results →
        (∀ arguments',
          Invocation.parse env' arguments' = some (.run { config := some path } .checkConfig) →
          ∃ notes', run files' env' arguments' = .finished 0 results notes' ∧
            (env "RUST_LOG" = env' "RUST_LOG" → notes' = notes)) ∧
        Invocation.parse env' ["--config=" ++ path, "check-config"] =
          some (.run { config := some path } .checkConfig)) := by
  refine ⟨fun config => ⟨config.read_compact, config.read_pretty⟩, ?_⟩
  intro files env arguments options results notes parsed printed files' env' path mute ends holds
  rw [run, parsed] at printed
  obtain ⟨config, level, configured, isRead, rfl, rfl⟩ := runTask_checkConfig_eq_iff.mp printed
  have passed : config.check = .ok () := (Options.configure_eq_ok_iff.2 configured).1
  have again : ({ config := some path } : Options).configure files' env' = .ok config :=
    Options.configure_of_read mute holds ends (by decide) config.read_pretty_line passed
  have named : path ≠ "" := by
    rintro rfl
    cases ends
  refine ⟨fun arguments' parsed' => ?_, parse_config_path env' named⟩
  refine ⟨checkNotes env' config level, ?_, fun same => checkNotes_congr same.symm config level⟩
  rw [run, parsed']
  exact runTask_checkConfig_eq_iff.mpr ⟨config, level, again, isRead, rfl, rfl⟩

/-- What is printed of a configuration that keeps unknown names and logs errors only. -/
def printedText : String :=
  "\x7b\n  \"validation\": \x7b\n    \"unknown_command_names\": \"accept_as_fallback\"\n  \x7d,\n"
    ++ "  \"logging\": \x7b\n    \"level\": \"ERROR\",\n    \"json\": false\n  \x7d\n\x7d\n"

/-- A folder in which there is nothing else. -/
def printedFolder : Files := fun path =>
  if path = "kept.json" then .text printedText else .absent

theorem checkConfig_repeats_sample :
    ∃ notes, run Options.sampleFiles Options.sampleEnvironment
        ["-c", "router.toml", "-l", "ERROR", "check-config"] = .finished 0 printedText notes ∧
      run printedFolder (fun _ => none) ["--config=kept.json", "check-config"] =
        .finished 0 printedText notes := by
  have parsed : Invocation.parse Options.sampleEnvironment
      ["-c", "router.toml", "-l", "ERROR", "check-config"] =
        some (.run Options.sampleOptions .checkConfig) := by decide +kernel
  have configured : Options.sampleOptions.configure Options.sampleFiles Options.sampleEnvironment =
      .ok ⟨⟨.acceptAsFallback⟩, ⟨"ERROR", false⟩⟩ := by decide +kernel
  obtain ⟨level, isRead⟩ := exists_isRead_of_configure configured
  obtain ⟨notes, printed⟩ : ∃ notes, run Options.sampleFiles Options.sampleEnvironment
      ["-c", "router.toml", "-l", "ERROR", "check-config"] = .finished 0 printedText notes := by
    rw [run, parsed]
    exact ⟨_, runTask_checkConfig_eq_iff.mpr
      ⟨_, level, configured, isRead, by decide +kernel, rfl⟩⟩
  obtain ⟨again, asked⟩ := checkConfig_repeats.2 _ _ _ _ _ _ parsed printed printedFolder
    (fun _ => none) "kept.json" ⟨rfl, rfl, rfl⟩ (by decide +kernel) rfl
  obtain ⟨notes', ends, same⟩ := again _ asked
  rw [same rfl] at ends
  exact ⟨notes, printed, ends⟩

end Inspect

end RouterCall
