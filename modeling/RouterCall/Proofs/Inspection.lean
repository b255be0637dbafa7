import RouterCall.Inspect.Run
import RouterCall.Proofs.Codec

/-!
# What validating files reports

With the log off, validating files writes one report for each of them, in the order in which they
are given: the call, for a file that can be read and is accepted, and a complaint otherwise. The
report of a file is a function of the policy, its path and what the path leads to. So nothing about
one file can change what is written about another, and a longer list of files is reported by parts.
Only the last line, which counts the rejected files, and the exit code are about all of them.

A task first writes the records of all validations and then presents the files. The proof takes the
two rows of emissions apart: records come to nothing, and what is left is one row of reports.

## Main definitions

* `acceptedIn`, `complaintOn`: the two kinds of report on a file
* `presented`: how presenting files ends, whatever is printed for an accepted call
* `validated`: how validating files ends, where the call itself is printed
* `IsSilent`: the log is off

## Main results

* `acceptedIn_isSome`: each file has one report
* `runTask_eq_presented`: a run that presents files ends with the reports on them
* `validate_reports`: a run that validates files ends with the reports on them
-/

namespace RouterCall.Inspect

/-! ### Reports -/

/-- The call in a file that can be read and is accepted. -/
def acceptedIn (policy : Policy) : FileState → Option Call
  | .text text => (Call.validateText policy text).outcome.toOption
  | _ => none

/-- The complaint about a file that cannot be read or is not accepted. -/
def complaintOn (policy : Policy) (path : String) (state : FileState) : Option String :=
  match state.contents with
  | .error reason =>
    some ("Failed to read call file: " ++ Quoted.render path ++ ": " ++ reason)
  | .ok text =>
    match (Call.validateText policy text).outcome with
    | .ok _ => none
    | .error rejection =>
      some ("Unsupported router call in " ++ Quoted.render path ++ ": " ++ rejection.message)

/-- How many of the files are not accepted. -/
def rejectedAmong (policy : Policy) (files : Files) (paths : List String) : ℕ :=
  paths.countP fun path => (acceptedIn policy (files path)).isNone

/-- The complaints, in the order of their files. -/
def complaintText (policy : Policy) (files : Files) (paths : List String) : String :=
  String.join (paths.filterMap fun path =>
    (complaintOn policy path (files path)).map fun complaint => complaint ++ "\n")

/-- The documents of the accepted calls, in the order of their files. -/
def documentText (document : String → Call → Json) (policy : Policy) (files : Files)
    (paths : List String) : String :=
  String.join (paths.filterMap fun path =>
    (acceptedIn policy (files path)).map fun call => (document path call).pretty ++ "\n")

/-- How presenting files ends, if a document is printed for each accepted call. -/
def presented (document : String → Call → Json) (policy : Policy) (files : Files)
    (paths : List String) : Outcome :=
  if rejectedAmong policy files paths = 0 then
    .finished 0 (documentText document policy files paths) (complaintText policy files paths)
  else
    .finished 1 (documentText document policy files paths) (complaintText policy files paths
      ++ "Error: " ++ toString (rejectedAmong policy files paths) ++ " of "
      ++ toString paths.length ++ " calls rejected\n")

/-- The accepted calls, in the order of their files. -/
def acceptedText : Policy → Files → List String → String := documentText fun _ call => call.toJson

/-- How validating files ends. -/
def validated : Policy → Files → List String → Outcome := presented fun _ call => call.toJson

theorem acceptedIn_eq_some_iff {policy : Policy} {state : FileState} {call : Call} :
    acceptedIn policy state = some call ↔
      ∃ text, state = .text text ∧ (Call.validateText policy text).outcome = .ok call := by
  cases state with
  | text text =>
    simp only [acceptedIn, FileState.text.injEq, exists_eq_left']
    generalize (Call.validateText policy text).outcome = result
    cases result <;> simp [Except.toOption]
  | _ => simp [acceptedIn]

/-- What a file comes to: a call, or a complaint. -/
theorem loadCall_cases (policy : Policy) (files : Files) (path : String) :
    (∃ call, (loadCall policy files path).outcome = .ok call ∧
        acceptedIn policy (files path) = some call ∧ complaintOn policy path (files path) = none) ∨
      ∃ complaint, (loadCall policy files path).outcome = .error complaint ∧
        acceptedIn policy (files path) = none ∧
        complaintOn policy path (files path) = some complaint := by
  rw [loadCall.eq_def, complaintOn.eq_def]
  cases files path with
  | text text =>
    dsimp only [FileState.contents]
    rw [acceptedIn]
    cases (Call.validateText policy text).outcome with
    | ok call => exact .inl ⟨call, rfl, rfl, rfl⟩
    | error rejection => exact .inr ⟨_, rfl, rfl, rfl⟩
  | _ => exact .inr ⟨_, rfl, rfl, rfl⟩

/-- **Each file has one report**, a call or a complaint. -/
theorem acceptedIn_isSome (policy : Policy) (files : Files) (path : String) :
    (acceptedIn policy (files path)).isSome = (complaintOn policy path (files path)).isNone := by
  obtain ⟨call, -, accepted, quiet⟩ | ⟨complaint, -, rejected, loud⟩ :=
    loadCall_cases policy files path
  · rw [accepted, quiet]
    rfl
  · rw [rejected, loud]
    rfl

theorem toOption_loadCall (policy : Policy) (files : Files) (path : String) :
    (loadCall policy files path).outcome.toOption = acceptedIn policy (files path) := by
  obtain ⟨call, loaded, accepted, -⟩ | ⟨complaint, loaded, rejected, -⟩ :=
    loadCall_cases policy files path
  · rw [loaded, accepted]
    rfl
  · rw [loaded, rejected]
    rfl

/-! ### Reports of several files -/

theorem documentText_append (document : String → Call → Json) (policy : Policy) (files : Files)
    (paths paths' : List String) :
    documentText document policy files (paths ++ paths') =
      documentText document policy files paths ++ documentText document policy files paths' := by
  rw [documentText, List.filterMap_append, String.join_append]
  rfl

theorem complaintText_append (policy : Policy) (files : Files) (paths paths' : List String) :
    complaintText policy files (paths ++ paths') =
      complaintText policy files paths ++ complaintText policy files paths' := by
  rw [complaintText, List.filterMap_append, String.join_append]
  rfl

theorem rejectedAmong_append (policy : Policy) (files : Files) (paths paths' : List String) :
    rejectedAmong policy files (paths ++ paths') =
      rejectedAmong policy files paths + rejectedAmong policy files paths' :=
  List.countP_append

/-- What the listed paths lead to is all that matters. -/
theorem presented_congr (document : String → Call → Json) (policy : Policy) {files files' : Files}
    {paths : List String} (same : ∀ path ∈ paths, files path = files' path) :
    presented document policy files paths = presented document policy files' paths := by
  have documents :
      documentText document policy files paths = documentText document policy files' paths :=
    congrArg String.join (List.filterMap_congr fun path mem => by rw [same path mem])
  have complaints : complaintText policy files paths = complaintText policy files' paths :=
    congrArg String.join (List.filterMap_congr fun path mem => by rw [same path mem])
  have rejected : rejectedAmong policy files paths = rejectedAmong policy files' paths :=
    List.countP_congr fun path mem => by rw [same path mem]
  rw [presented, presented, documents, complaints, rejected]

/-! ### Emissions as text -/

/-- The log is off: the filter that is given is one, and admits no record. -/
def IsSilent (env : Environment) : Prop :=
  ∃ filter, (env "RUST_LOG" >>= LogFilter.parse?) = some filter ∧
    ∀ record, filter.admits record = false

theorem isSilent_of_off {env : Environment} (h : env "RUST_LOG" = some "off") : IsSilent env := by
  refine ⟨[⟨"", none⟩], ?_, fun record => ?_⟩
  · rw [h]
    decide
  · simp [LogFilter.admits, LogFilter.decisive?, LogDirective.concerns, LogThreshold.admits]

/-- The text that items emit one after another is that of their emissions. -/
theorem join_map_flatMap {α β : Type} (text : β → String) (emit : α → List β) (items : List α) :
    String.join ((items.flatMap emit).map text) =
      String.join (items.map fun item => String.join ((emit item).map text)) := by
  induction items with
  | nil => rfl
  | cons item items ih => simp [ih]

/-- Items without text may be left out. -/
theorem join_map_eq_join_filterMap {α β : Type} {text : α → String} {found? : α → Option β}
    {shown : α → β → String} (same : ∀ a, text a = (found? a).elim "" (shown a)) (items : List α) :
    String.join (items.map text) =
      String.join (items.filterMap fun a => (found? a).map (shown a)) := by
  induction items with
  | nil => rfl
  | cons item items ih =>
    rw [List.map_cons, List.filterMap_cons, String.join_cons, ih, same]
    cases found? item <;> simp

section Transcript

variable {json : Bool} {filter : LogFilter}

theorem resultText_record (records : List LogRecord) :
    String.join ((records.map Emission.record).map Emission.resultText) = "" := by
  induction records with
  | nil => rfl
  | cons record records ih => simpa [Emission.resultText] using ih

theorem noteText_record (off : ∀ record, filter.admits record = false) (records : List LogRecord) :
    String.join ((records.map Emission.record).map (Emission.noteText json filter)) = "" := by
  induction records with
  | nil => rfl
  | cons record records ih => simpa [Emission.noteText, off] using ih

/-- A way of presenting accepted calls prints one document for each. Besides there are only
records, which do not show. -/
structure Prints (present : String → Call → List Emission) (document : String → Call → Json) :
    Prop where
  resultText : ∀ path call, String.join ((present path call).map Emission.resultText) =
    (document path call).pretty ++ "\n"
  noteText : ∀ (json : Bool) {filter : LogFilter}, (∀ record, filter.admits record = false) →
    ∀ path call, String.join ((present path call).map (Emission.noteText json filter)) = ""

variable {present : String → Call → List Emission} {document : String → Call → Json}

/-- A file whose call is accepted adds a document to the results. -/
theorem resultText_presentFile (prints : Prints present document) (policy : Policy) (files : Files)
    (path : String) :
    String.join ((presentFile present path (loadCall policy files path)).map
        Emission.resultText) =
      (acceptedIn policy (files path)).elim "" fun call => (document path call).pretty ++ "\n" := by
  obtain ⟨call, loaded, accepted, -⟩ | ⟨complaint, loaded, rejected, -⟩ :=
    loadCall_cases policy files path
  · rw [presentFile, loaded, accepted]
    exact prints.resultText path call
  · rw [presentFile, loaded, rejected]
    simp [Emission.resultText]

/-- A file without an accepted call adds a complaint to the notes, when the log is off. -/
theorem noteText_presentFile (prints : Prints present document)
    (off : ∀ record, filter.admits record = false) (policy : Policy) (files : Files)
    (path : String) :
    String.join ((presentFile present path (loadCall policy files path)).map
        (Emission.noteText json filter)) =
      (complaintOn policy path (files path)).elim "" fun complaint => complaint ++ "\n" := by
  obtain ⟨call, loaded, -, quiet⟩ | ⟨complaint, loaded, -, loud⟩ :=
    loadCall_cases policy files path
  · rw [presentFile, loaded, quiet]
    exact prints.noteText json off path call
  · rw [presentFile, loaded, loud]
    simp [Emission.noteText]

/-- The records of all validations come first, and the presentations of all files after them. -/
theorem emissions_inspectFiles (first : LogRecord) (present : String → Call → List Emission)
    (policy : Policy) (files : Files) (paths : List String) :
    .record first :: (inspectFiles present policy files paths).emissions =
      (first :: paths.flatMap fun path => (loadCall policy files path).events).map
          Emission.record ++
        paths.flatMap fun path => presentFile present path (loadCall policy files path) := by
  simp [inspectFiles, List.flatMap_map, List.map_flatMap]

theorem failure_inspectFiles (present : String → Call → List Emission) (policy : Policy)
    (files : Files) (paths : List String) :
    (inspectFiles present policy files paths).failure =
      if rejectedAmong policy files paths = 0 then none
      else some ⟨toString (rejectedAmong policy files paths) ++ " of " ++ toString paths.length
        ++ " calls rejected", []⟩ := by
  simp only [inspectFiles, List.countP_map, Function.comp_def, toOption_loadCall]
  rfl

theorem render_of_causeless (message : String) :
    Failure.render ⟨message, []⟩ = "Error: " ++ message ++ "\n" := by
  simp [Failure.render, Failure.causeLines]

theorem resultText_inspectFiles (prints : Prints present document) (first : LogRecord)
    (policy : Policy) (files : Files) (paths : List String) :
    String.join ((.record first :: (inspectFiles present policy files paths).emissions).map
      Emission.resultText) = documentText document policy files paths := by
  rw [emissions_inspectFiles, List.map_append, String.join_append, resultText_record,
    join_map_flatMap, join_map_eq_join_filterMap (resultText_presentFile prints policy files),
    String.empty_append]
  rfl

theorem noteText_inspectFiles (prints : Prints present document)
    (off : ∀ record, filter.admits record = false) (first : LogRecord) (policy : Policy)
    (files : Files) (paths : List String) :
    String.join ((.record first :: (inspectFiles present policy files paths).emissions).map
      (Emission.noteText json filter)) = complaintText policy files paths := by
  rw [emissions_inspectFiles, List.map_append, String.join_append, noteText_record off,
    join_map_flatMap, join_map_eq_join_filterMap (noteText_presentFile prints off policy files),
    String.empty_append]
  rfl

/-- **With the log off, a transcript of presenting files shows the reports on them.** -/
theorem outcome_inspectFiles (prints : Prints present document)
    (off : ∀ record, filter.admits record = false) (first : LogRecord) (policy : Policy)
    (files : Files) (paths : List String) :
    Transcript.outcome json filter
        ⟨.record first :: (inspectFiles present policy files paths).emissions,
          (inspectFiles present policy files paths).failure⟩ =
      presented document policy files paths := by
  rw [Transcript.outcome]
  dsimp only
  rw [resultText_inspectFiles prints, noteText_inspectFiles prints off, failure_inspectFiles,
    presented]
  by_cases allAccepted : rejectedAmong policy files paths = 0
  · rw [if_pos allAccepted, if_pos allAccepted]
  · rw [if_neg allAccepted, if_neg allAccepted]
    have line : " calls rejected" ++ "\n" = " calls rejected\n" := rfl
    dsimp only
    rw [render_of_causeless]
    simp only [String.append_assoc, line]

end Transcript

/-! ### Runs -/

/-- With the log off, a run that presents files ends with the reports on them. -/
theorem runTask_eq_presented {files : Files} {env : Environment} {options : Options}
    {config : Config} {present : String → Call → List Emission} {document : String → Call → Json}
    {task : Task} {paths : List String} (configured : options.configure files env = .ok config)
    (silent : IsSilent env) (prints : Prints present document)
    (performs : task.perform config files = inspectFiles present config.validation files paths) :
    runTask files env options task = presented document config.validation files paths := by
  obtain ⟨filter, given, off⟩ := silent
  obtain ⟨level, named⟩ := Options.level_of_configure configured
  have inForce (output : LogOutput) : output.filter (env filterKey) = filter := by
    show (env "RUST_LOG" >>= LogFilter.parse?).getD _ = filter
    rw [given]
    rfl
  rw [runTask, configured]
  dsimp only
  rw [named]
  dsimp only
  rw [inForce, performs]
  exact outcome_inspectFiles prints off (startRecord level) config.validation files paths

theorem prints_presentTyped : Prints presentTyped fun _ call => call.toJson where
  resultText path call := by simp [presentTyped, Emission.resultText]
  noteText json filter off path call := by simp [presentTyped, Emission.noteText, off]

/-- With the log off, a run that validates files ends with the reports on them. -/
theorem runTask_validate {files : Files} {env : Environment} {options : Options} {config : Config}
    (configured : options.configure files env = .ok config) (silent : IsSilent env)
    (paths : List String) :
    runTask files env options (.validate paths) = validated config.validation files paths :=
  runTask_eq_presented configured silent prints_presentTyped rfl

/-- **Validating files reports each of them once, in the order of the arguments.** The results are
the calls in the files that can be read and are accepted, the notes are one complaint for each of
the others and a last line that counts them, and the run succeeds when there is none. A report is
about its file only, so the reports on a longer list are those on its parts. -/
theorem validate_reports {files : Files} {env : Environment} {options : Options} {config : Config}
    (configured : options.configure files env = .ok config) (silent : IsSilent env) :
    (∀ paths, runTask files env options (.validate paths) =
      validated config.validation files paths) ∧
    (∀ arguments paths, Invocation.parse env arguments = some (.run options (.validate paths)) →
      run files env arguments = validated config.validation files paths) ∧
    (∀ path, (∀ call, acceptedIn config.validation (files path) = some call ↔ ∃ text,
        files path = .text text ∧
          (Call.validateText config.validation text).outcome = .ok call) ∧
      (acceptedIn config.validation (files path)).isSome =
        (complaintOn config.validation path (files path)).isNone) ∧
    (∀ paths paths',
      acceptedText config.validation files (paths ++ paths') =
        acceptedText config.validation files paths ++
          acceptedText config.validation files paths' ∧
      complaintText config.validation files (paths ++ paths') =
        complaintText config.validation files paths ++
          complaintText config.validation files paths' ∧
      rejectedAmong config.validation files (paths ++ paths') =
        rejectedAmong config.validation files paths +
          rejectedAmong config.validation files paths') ∧
    (∀ files' paths, (∀ path ∈ paths, files path = files' path) →
      validated config.validation files paths = validated config.validation files' paths) := by
  refine ⟨runTask_validate configured silent, fun arguments paths parsed => ?_, fun path => ?_,
    fun paths paths' => ?_, fun files' paths => presented_congr _ config.validation⟩
  · rw [run, parsed]
    exact runTask_validate configured silent paths
  · exact ⟨fun call => acceptedIn_eq_some_iff, acceptedIn_isSome config.validation files path⟩
  · exact ⟨documentText_append _ config.validation files paths paths',
      complaintText_append config.validation files paths paths',
      rejectedAmong_append config.validation files paths paths'⟩

/-- A call, a folder, and a file that is no call. -/
def sampleFolder : Files := fun path =>
  if path = "a" then .text "\x7b\"commands\":[]\x7d"
  else if path = "b" then .directory
  else if path = "c" then .text "-"
  else .absent

/-- An environment in which the log is off. -/
def silentEnvironment : Environment := fun key => if key = "RUST_LOG" then some "off" else none

/-- The complaint about the file that is no call ends where the words of the JSON library would
follow. -/
theorem validate_reports_sample :
    run sampleFolder silentEnvironment ["validate", "a", "b", "c", "a"] =
      .finished 1 "\x7b\n  \"commands\": []\n\x7d\n\x7b\n  \"commands\": []\n\x7d\n"
        ("Failed to read call file: \"b\": Is a directory (os error 21)\n" ++
          "Unsupported router call in \"c\": Shape mismatch at '': invalid JSON\n" ++
          "Error: 2 of 4 calls rejected\n") := by
  have configured : ({} : Options).configure sampleFolder silentEnvironment = .ok {} := by
    decide +kernel
  have parsed : Invocation.parse silentEnvironment ["validate", "a", "b", "c", "a"] =
      some (.run {} (.validate ["a", "b", "c", "a"])) := by decide +kernel
  have silent : IsSilent silentEnvironment := isSilent_of_off rfl
  rw [(validate_reports configured silent).2.1 _ _ parsed]
  decide +kernel

end RouterCall.Inspect
