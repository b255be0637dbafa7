import RouterCall.Proofs.Inspection
import RouterCall.Proofs.Settings

/-!
# A level that passed the check is one for the log

Whether a text is a log level is asked twice, by two readers that share no table. The check of a
configuration admits the five names in any case and says nothing about which level is meant. The
log reads the text as it was spelled, admits ranks beside names, and can refuse. The first is the
stricter of the two, and where it passes the log reads the level of that name.

A configuration is checked after every place that may replace the level has had its say, so the
refusal of the log is never reached: a run either has no configuration, or goes on to its task under
the level that the text names. Seen from outside, no run ends with the complaint about an unknown
level, since everything else that a run may note starts in another way.

## Main definitions

* `LogLevel.IsRead`: the log reads a text as the level of its name
* `Inspect.IsOtherwise`: a text that does not start like a failure

## Main results

* `Config.exists_isRead_of_check`: what passed the check is read by the log
* `Inspect.runTask_cases`: a run has no configuration, or a level
* `Inspect.check_passes_level`: the refusal of the log is not reached
-/

namespace RouterCall

/-- The log reads a text as a level, and that is the level whose name the text is, up to case. -/
structure LogLevel.IsRead (text : String) (level : LogLevel) : Prop where
  read : LogLevel.ofText? text = some level
  named : asciiLower text = level.name

/-- What passed the check is read by the log, as the level that it names. -/
theorem Config.exists_isRead_of_check {config : Config} (passed : config.check = .ok ()) :
    ∃ level, LogLevel.IsRead config.logging.level level := by
  obtain ⟨level, found⟩ := (Config.check_eq_ok_iff config).mp passed
  exact ⟨level, LogLevel.ofText?_of_ofName? found, (LogLevel.ofName?_eq_some_iff.mp found).symm⟩

namespace Inspect

/-! ### Runs -/

/-- The level of a run is read by the log, whichever place it comes from. -/
theorem exists_isRead_of_configure {files : Files} {env : Environment} {options : Options}
    {config : Config} (configured : options.configure files env = .ok config) :
    ∃ level, LogLevel.IsRead config.logging.level level :=
  Config.exists_isRead_of_check (Options.configure_eq_ok_iff.2 configured).1

/-- What a run shows that has a configuration and a level. -/
def proceeds (files : Files) (env : Environment) (config : Config) (level : LogLevel)
    (task : Task) : Outcome :=
  let output : LogOutput := { level, json := config.logging.json }
  let transcript := task.perform config files
  { transcript with emissions := .record (startRecord level) :: transcript.emissions }.outcome
    output.json (output.filter (env filterKey))

/-- **A run has no configuration, or goes on under a level.** -/
theorem runTask_cases (files : Files) (env : Environment) (options : Options) (task : Task) :
    (∃ failure, options.configure files env = .error failure ∧
      runTask files env options task = .finished 1 "" failure.render) ∨
    ∃ config level, options.configure files env = .ok config ∧
      LogLevel.IsRead config.logging.level level ∧
      runTask files env options task = proceeds files env config level task := by
  rw [runTask]
  cases configured : options.configure files env with
  | error failure => exact .inl ⟨failure, rfl, rfl⟩
  | ok config =>
    obtain ⟨level, isRead⟩ := exists_isRead_of_configure configured
    refine .inr ⟨config, level, rfl, isRead, ?_⟩
    dsimp only
    rw [isRead.read]
    rfl

/-! ### Notes -/

/-- A text that is empty or starts otherwise than a failure does. -/
def IsOtherwise (text : String) : Prop :=
  text = "" ∨ ∃ a b rest, text.toList = a :: b :: rest ∧ ¬ (a = 'E' ∧ b = 'r')

theorem IsOtherwise.append {first second : String} (h : IsOtherwise first)
    (h' : IsOtherwise second) : IsOtherwise (first ++ second) := by
  obtain rfl | ⟨a, b, rest, starts, other⟩ := h
  · rwa [String.empty_append]
  · exact .inr ⟨a, b, rest ++ second.toList, by rw [String.toList_append, starts]; rfl, other⟩

theorem IsOtherwise.join {texts : List String} (each : ∀ text ∈ texts, IsOtherwise text) :
    IsOtherwise (String.join texts) := by
  induction texts with
  | nil => exact .inl rfl
  | cons text texts ih =>
    rw [List.forall_mem_cons] at each
    rw [String.join_cons]
    exact each.1.append (ih each.2)

/-- Records start with their level, which is written in capitals, or with a brace. -/
theorem isOtherwise_line (json : Bool) (record : LogRecord) :
    IsOtherwise (record.line json ++ "\n") := by
  rw [LogRecord.line]
  split
  · exact .inr ⟨'{', '"', _, by
      rw [String.toList_append, LogRecord.toJson, Json.compact, String.toList_ofList]; rfl,
      by decide⟩
  · obtain ⟨level, source, message⟩ := record
    simp only [LogRecord.textLine, String.append_assoc]
    cases level <;>
      exact .inr ⟨_, _, _, by rw [String.toList_append]; rfl, by decide⟩

/-- Complaints start with one of two words. -/
theorem isOtherwise_of_complaintOn {policy : Policy} {path : String} {state : FileState}
    {complaint : String} (h : complaintOn policy path state = some complaint) :
    IsOtherwise (complaint ++ "\n") := by
  rw [complaintOn.eq_def] at h
  split at h
  · cases h
    simp only [String.append_assoc]
    exact .inr ⟨_, _, _, by rw [String.toList_append]; rfl, by decide⟩
  · split at h
    · cases h
    · cases h
      simp only [String.append_assoc]
      exact .inr ⟨_, _, _, by rw [String.toList_append]; rfl, by decide⟩

/-- A complaint of a transcript, if it is one, is about a file. -/
def IsAboutFile (emission : Emission) : Prop :=
  ∀ text, emission = .complaint text →
    ∃ policy path state, complaintOn policy path state = some text

theorem isOtherwise_noteText (json : Bool) (filter : LogFilter) {emission : Emission}
    (about : IsAboutFile emission) : IsOtherwise (emission.noteText json filter) := by
  cases emission with
  | record record =>
    rw [Emission.noteText]
    split
    · exact isOtherwise_line json record
    · exact .inl rfl
  | complaint text =>
    obtain ⟨policy, path, state, complained⟩ := about text rfl
    exact isOtherwise_of_complaintOn complained
  | result value => exact .inl rfl

theorem isAboutFile_presentFile {present : String → Call → List Emission} {policy : Policy}
    {files : Files} {path : String}
    (quiet : ∀ call, ∀ emission ∈ present path call, IsAboutFile emission) :
    ∀ emission ∈ presentFile present path (loadCall policy files path), IsAboutFile emission := by
  rw [presentFile]
  obtain ⟨call, loaded, -, -⟩ | ⟨complaint, loaded, -, complained⟩ :=
    loadCall_cases policy files path
  · rw [loaded]
    exact quiet call
  · rw [loaded]
    rintro emission mem text rfl
    cases List.mem_singleton.mp mem
    exact ⟨policy, path, files path, complained⟩

/-- Nothing but files gives a task reason to complain. -/
theorem isAboutFile_perform (config : Config) (files : Files) (task : Task) :
    ∀ emission ∈ (task.perform config files).emissions, IsAboutFile emission := by
  have inspects {present : String → Call → List Emission}
      (quiet : ∀ path call, ∀ emission ∈ present path call, IsAboutFile emission)
      (paths : List String) :
      ∀ emission ∈ (inspectFiles present config.validation files paths).emissions,
        IsAboutFile emission := by
    intro emission mem
    -- what is known of a task is stated with the record that opens the log, so one is put in front
    have mem := List.mem_cons_of_mem (.record (startRecord .info)) mem
    rw [emissions_inspectFiles, List.mem_append, List.mem_map, List.mem_flatMap] at mem
    obtain ⟨record, -, rfl⟩ | ⟨path, -, mem⟩ := mem
    · rintro text ⟨⟩
    · exact isAboutFile_presentFile (quiet path) emission mem
  cases task with
  | validate paths =>
    refine inspects (fun path call emission mem => ?_) paths
    rw [presentTyped, List.mem_pair] at mem
    obtain rfl | rfl := mem <;> rintro text ⟨⟩
  | summary paths =>
    refine inspects (fun path call emission mem => ?_) paths
    rw [presentSummary, List.mem_append, List.mem_singleton] at mem
    obtain mem | rfl := mem
    · split at mem
      · cases List.mem_singleton.mp mem
        rintro text ⟨⟩
      · cases mem
    · rintro text ⟨⟩
  | checkConfig =>
    intro emission mem
    rw [Task.perform, List.mem_pair] at mem
    obtain rfl | rfl := mem <;> rintro text ⟨⟩

/-! ### The complaint about an unknown level -/

/-- How a run would end whose level the log refuses. -/
def refusedLevel (text : String) : String := Failure.render ⟨LogLevel.unknownMessage text, []⟩

theorem toList_render (failure : Failure) :
    ∃ more, failure.render.toList =
      "Error: ".toList ++ (failure.message.toList ++ '\n' :: more) := by
  refine ⟨(String.join ((Failure.causeLines failure.causes).map (· ++ "\n"))).toList, ?_⟩
  rw [Failure.render, List.map_cons, String.join_cons]
  simp only [String.toList_append, List.append_assoc]
  rfl

theorem toList_refusedLevel (text : String) :
    ∃ rest, (refusedLevel text).toList = "Error: ".toList ++ 'U' :: rest := by
  obtain ⟨more, same⟩ := toList_render ⟨LogLevel.unknownMessage text, []⟩
  have capital : "Unknown log level: ".toList = 'U' :: "nknown log level: ".toList := by
    decide +kernel
  dsimp only [LogLevel.unknownMessage] at same
  rw [String.toList_append, capital] at same
  exact ⟨_, same⟩

/-- A failure whose message starts otherwise is another one. -/
theorem render_ne_refusedLevel {failure : Failure} (h : failure.message.toList.head? ≠ some 'U')
    (text : String) : failure.render ≠ refusedLevel text := by
  intro same
  obtain ⟨rest, starts⟩ := toList_refusedLevel text
  obtain ⟨more, shown⟩ := toList_render failure
  rw [← same, shown, List.append_cancel_left_eq] at starts
  cases message : failure.message.toList with
  | nil =>
    rw [message] at starts
    cases starts
  | cons c cs =>
    rw [message] at starts h
    cases starts
    exact h rfl

theorem IsOtherwise.ne_refusedLevel {notes : String} (h : IsOtherwise notes) (text : String) :
    notes ≠ refusedLevel text := by
  rintro rfl
  obtain ⟨rest, starts⟩ := toList_refusedLevel text
  obtain empty | ⟨a, b, rest', starts', other⟩ := h
  · rw [empty] at starts
    cases starts
  · rw [starts] at starts'
    cases starts'
    exact other ⟨rfl, rfl⟩

theorem head?_message_of_configure {files : Files} {env : Environment} {options : Options}
    {failure : Failure} (failed : options.configure files env = .error failure) :
    failure.message.toList.head? ≠ some 'U' := by
  rw [Options.configure.eq_def] at failed
  split at failed
  · cases failed
    simp
  · split at failed
    · cases failed
      simp
    · cases failed

/-- A task fails by counting files. -/
theorem head?_message_of_perform {config : Config} {files : Files} {task : Task} {failure : Failure}
    (failed : (task.perform config files).failure = some failure) :
    failure.message.toList.head? ≠ some 'U' := by
  have counts {present : String → Call → List Emission} {paths : List String}
      (failed : (inspectFiles present config.validation files paths).failure = some failure) :
      failure.message.toList.head? ≠ some 'U' := by
    rw [failure_inspectFiles] at failed
    split at failed
    · cases failed
    · cases failed
      intro capital
      have digits : ∀ c ∈ (Nat.toDigits 10 (rejectedAmong config.validation files paths)).head?,
          c.isDigit = true := fun c mem =>
        Nat.isDigit_of_mem_toDigits (by decide) (by decide) (List.mem_of_mem_head? mem)
      simp only [String.append_assoc, String.toList_append, Nat.toString_eq_ofList_toDigits,
        String.toList_ofList] at capital
      rw [List.head?_append_of_ne_nil _ (by simp)] at capital
      exact absurd (digits 'U' capital) (by decide)
  cases task with
  | validate paths => exact counts failed
  | summary paths => exact counts failed
  | checkConfig => cases failed

/-- A task ends in another way, whatever it is about. -/
theorem proceeds_ne_refusedLevel (files : Files) (env : Environment) (config : Config)
    (level : LogLevel) (task : Task) (code : UInt8) (results text : String) :
    proceeds files env config level task ≠ .finished code results (refusedLevel text) := by
  have otherwise (json : Bool) (filter : LogFilter) :
      IsOtherwise (String.join ((.record (startRecord level) ::
        (task.perform config files).emissions).map (Emission.noteText json filter))) := by
    refine .join fun shown mem => ?_
    obtain ⟨emission, emitted, rfl⟩ := List.mem_map.mp mem
    refine isOtherwise_noteText json filter ?_
    obtain rfl | emitted := List.mem_cons.mp emitted
    · rintro text ⟨⟩
    · exact isAboutFile_perform config files task emission emitted
  intro ends
  rw [proceeds, Transcript.outcome] at ends
  dsimp only at ends
  split at ends
  · injection ends with _ _ notes
    exact (otherwise _ _).ne_refusedLevel text notes
  · next failure failed =>
    injection ends with _ _ notes
    -- what is noted before the failure is nothing, or starts in a way of its own
    obtain none | ⟨a, b, rest, starts, other⟩ := otherwise config.logging.json
      (LogOutput.filter { level, json := config.logging.json } (env filterKey))
    · rw [none, String.empty_append] at notes
      exact render_ne_refusedLevel (head?_message_of_perform failed) text notes
    · refine IsOtherwise.ne_refusedLevel (.inr ⟨a, b, rest ++ failure.render.toList, ?_, other⟩)
        text notes
      rw [String.toList_append, starts]
      rfl

/-- No run ends like one whose level is refused. -/
theorem run_ne_refusedLevel (files : Files) (env : Environment) (arguments : List String)
    (code : UInt8) (results text : String) :
    run files env arguments ≠ .finished code results (refusedLevel text) := by
  intro ends
  have otherwise : IsOtherwise "" := .inl rfl
  rw [run] at ends
  split at ends
  · cases ends
  · injection ends with _ _ notes
    exact otherwise.ne_refusedLevel text notes
  · injection ends with _ _ notes
    exact otherwise.ne_refusedLevel text notes
  · next options task _ =>
    obtain ⟨failure, failed, refused⟩ | ⟨config, level, -, -, going⟩ :=
      runTask_cases files env options task
    · rw [refused] at ends
      injection ends with _ _ notes
      exact render_ne_refusedLevel (head?_message_of_configure failed) text notes
    · rw [going] at ends
      exact proceeds_ne_refusedLevel files env config level task code results text ends

/-- **The refusal of the log is not reached.** The check of a configuration is stricter than the
log: the text that it lets pass is read by the log, as it is spelled, and read as the level whose
name it is up to case. The configuration of a run has passed the check, whatever the files, the
variables and the options are, so the run has no configuration or goes on to its task under that
level. And no run, whatever its arguments are, ends with the complaint about an unknown level. -/
theorem check_passes_level :
    (∀ config : Config, config.check = .ok () →
      ∃ level ∈ LogLevel.all, LogLevel.IsRead config.logging.level level) ∧
    (∀ files env (options : Options) config, options.configure files env = .ok config →
      ∃ level ∈ LogLevel.all, LogLevel.IsRead config.logging.level level) ∧
    (∀ files env (options : Options) task,
      (∃ failure, options.configure files env = .error failure ∧
        runTask files env options task = .finished 1 "" failure.render) ∨
      ∃ config level, options.configure files env = .ok config ∧
        LogLevel.IsRead config.logging.level level ∧
        runTask files env options task = proceeds files env config level task) ∧
    (∀ files env arguments code results text,
      run files env arguments ≠ .finished code results
        (Failure.render ⟨LogLevel.unknownMessage text, []⟩)) := by
  have listed (level : LogLevel) : level ∈ LogLevel.all := by cases level <;> decide
  refine ⟨fun config passed => ?_, fun files env options config configured => ?_, runTask_cases,
    run_ne_refusedLevel⟩
  · obtain ⟨level, isRead⟩ := Config.exists_isRead_of_check passed
    exact ⟨level, listed level, isRead⟩
  · obtain ⟨level, isRead⟩ := exists_isRead_of_configure configured
    exact ⟨level, listed level, isRead⟩

theorem check_passes_level_sample :
    (Options.sampleOptions.configure Options.sampleFiles Options.sampleEnvironment =
      .ok ⟨⟨.acceptAsFallback⟩, ⟨"ERROR", false⟩⟩ ∧
      ∃ level, LogLevel.IsRead "ERROR" level) ∧
    ∃ level, LogLevel.IsRead "wArN" level := by
  have configured : Options.sampleOptions.configure Options.sampleFiles Options.sampleEnvironment =
      .ok ⟨⟨.acceptAsFallback⟩, ⟨"ERROR", false⟩⟩ := by decide +kernel
  have passed : Config.check { logging := { level := "wArN" } } = .ok () := by decide +kernel
  obtain ⟨level, -, isRead⟩ := check_passes_level.2.1 _ _ _ _ configured
  obtain ⟨level', -, isRead'⟩ := check_passes_level.1 _ passed
  exact ⟨⟨configured, level, isRead⟩, level', isRead'⟩

end Inspect

end RouterCall
