import RouterCall.Proofs.Arguments
import RouterCall.Proofs.Inspection
import RouterCall.Proofs.Settled
import RouterCall.Proofs.Summary

/-!
# Validating and summarising agree

Validating files prints the calls in them, summarising files prints reports about the calls. Which
files are accepted, what is complained about and how the run ends is the same for both, and so a
report stands where the call would have been printed.

A report is held against the printed call as one document against another, by their members. It puts
together three answers: the counters of the summary, whether each command is a swap, and what a swap
trades. They fit, since the counters count what the entries say, and only a swap trades anything.

Neither is about the rest of the command line: which one is asked for is a single word, and the
options in front of it and the operands behind it are read alike.

## Main definitions

* `Report.IsAbout`: an entry of a report is about a printed command and its position
* `Report.Tallies`: a report fits a printed call
* `acceptedCalls`: the accepted calls with their files

## Main results

* `Call.tallies_report`: the report about a call fits the call as it is printed
* `runTask_summary_agrees`: what a run that summarises prints
* `summary_agrees`: runs that validate and runs that summarise agree
-/

namespace RouterCall

/-! ### Members of reports -/

theorem Json.member?_sorted {members : List (String × Json)}
    (distinct : (members.map Prod.fst).Nodup) (key : String) :
    (Json.sorted (.object members)).member? key = members.lookup key :=
  lookup_settleMembers distinct key

theorem Command.member?_report (position : ℕ) (command : Command) (key : String) :
    (command.report position).member? key =
      [("index", .ofInt position),
        ("commandName", .string command.name),
        ("commandType", .ofInt command.opcode.toNat),
        ("swap", .bool command.isSwap),
        ("amounts", command.swapAmounts?.elim .null fun amounts => amounts.toJson.sorted)].lookup
          key := by
  refine Json.member?_sorted ?_ key
  show ["index", "commandName", "commandType", "swap", "amounts"].Nodup
  decide

theorem Call.member?_report (path : String) (call : Call) (key : String) :
    (call.report path).member? key =
      [("file", .string path),
        ("summary", call.summary.toJson.sorted),
        ("commands", .array (commandReports 0 call.commands))].lookup key := by
  refine Json.member?_sorted ?_ key
  show ["file", "summary", "commands"].Nodup
  decide

theorem CallSummary.member?_sorted (summary : CallSummary) (key : String) :
    summary.toJson.sorted.member? key = summary.toJson.member? key := by
  refine Json.member?_sorted ?_ key
  show ["commands", "swapCommands", "fallbackCommands", "fallbackParams"].Nodup
  decide

/-! ### Reports against printed calls -/

namespace Report

/-- An entry says that its command is a swap. -/
def saysSwap (entry : Json) : Bool := (entry.member? "swap").bind Json.asBool? = some true

/-- An entry of a report is about a printed command and its position: it repeats both, it says
whether the command is a swap, and it has amounts for swaps only. -/
structure IsAbout (position : ℕ) (command entry : Json) : Prop where
  index : entry.member? "index" = some (.ofInt position)
  name : ∃ name, command.member? "commandName" = some (.string name) ∧
    entry.member? "commandName" = some (.string name)
  number : ∃ number : ℕ, command.member? "commandType" = some (.ofInt number) ∧
    entry.member? "commandType" = some (.ofInt number)
  swap : ∃ flag, entry.member? "swap" = some (.bool flag)
  amounts : ∃ amounts, entry.member? "amounts" = some amounts ∧
    (amounts ≠ .null → entry.member? "swap" = some (.bool true))

/-- A report on a file fits the call that is printed for it: its entries are about the commands of
the call one by one, and its summary counts the entries. -/
structure Tallies (path : String) (printed report : Json) (commands entries : List Json)
    (summary : Json) : Prop where
  hasCommands : printed.member? "commands" = some (.array commands)
  hasFile : report.member? "file" = some (.string path)
  hasEntries : report.member? "commands" = some (.array entries)
  hasSummary : report.member? "summary" = some summary
  length_eq : entries.length = commands.length
  isAbout : ∀ position command entry, commands[position]? = some command →
    entries[position]? = some entry → IsAbout position command entry
  hasCount : summary.member? "commands" = some (.ofInt entries.length)
  hasSwapCount : summary.member? "swapCommands" = some (.ofInt (entries.countP saysSwap))

end Report

theorem Command.saysSwap_report (position : ℕ) (command : Command) :
    Report.saysSwap (command.report position) = command.isSwap := by
  have said : (command.report position).member? "swap" = some (.bool command.isSwap) :=
    command.member?_report position "swap"
  simp [Report.saysSwap, said, Json.asBool?]

/-- Only a swap trades anything. -/
theorem Command.isSwap_of_swapAmounts? {command : Command} {amounts : SwapAmounts}
    (h : command.swapAmounts? = some amounts) : command.isSwap = true := by
  cases command with
  | fallback kept => cases h
  | _ => rfl

theorem Command.isAbout_report (position : ℕ) (command : Command) :
    Report.IsAbout position command.toJson (command.report position) where
  index := command.member?_report position "index"
  name := ⟨command.name, rfl, command.member?_report position "commandName"⟩
  number := ⟨command.opcode.toNat, rfl, command.member?_report position "commandType"⟩
  swap := ⟨command.isSwap, command.member?_report position "swap"⟩
  amounts := by
    refine ⟨_, command.member?_report position "amounts", fun given => ?_⟩
    rw [command.member?_report position "swap"]
    cases traded : command.swapAmounts? with
    | none => exact absurd (by rw [traded]; rfl) given
    | some amounts => rw [Command.isSwap_of_swapAmounts? traded]; rfl

namespace Call

theorem length_commandReports (start : ℕ) (commands : List Command) :
    (commandReports start commands).length = commands.length := by
  induction commands generalizing start with
  | nil => rfl
  | cons command commands ih => simp [commandReports, ih]

theorem getElem?_commandReports (start position : ℕ) (commands : List Command) :
    (commandReports start commands)[position]? =
      commands[position]?.map (Command.report (start + position)) := by
  induction commands generalizing start position with
  | nil => rfl
  | cons command commands ih =>
    cases position with
    | zero => rfl
    | succ position => simp [commandReports, ih, Nat.add_assoc, Nat.add_comm 1]

/-- The entries that say swap are those of the swaps. -/
theorem countP_commandReports (start : ℕ) (commands : List Command) :
    (commandReports start commands).countP Report.saysSwap = commands.countP Command.isSwap := by
  induction commands generalizing start with
  | nil => rfl
  | cons command commands ih =>
    rw [commandReports, List.countP_cons, List.countP_cons, ih, Command.saysSwap_report]

/-- **The report about a call fits the call as it is printed.** -/
theorem tallies_report (path : String) (call : Call) :
    Report.Tallies path call.toJson (call.report path) (call.commands.map Command.toJson)
      (commandReports 0 call.commands) call.summary.toJson.sorted where
  hasCommands := rfl
  hasFile := call.member?_report path "file"
  hasEntries := call.member?_report path "commands"
  hasSummary := call.member?_report path "summary"
  length_eq := by rw [length_commandReports, List.length_map]
  isAbout position command entry shown told := by
    rw [List.getElem?_map, Option.map_eq_some_iff] at shown
    obtain ⟨typed, found, rfl⟩ := shown
    rw [getElem?_commandReports, found, Nat.zero_add] at told
    cases told
    exact typed.isAbout_report position
  hasCount := by
    rw [CallSummary.member?_sorted, length_commandReports, summary_eq_counts]
    rfl
  hasSwapCount := by
    rw [CallSummary.member?_sorted, countP_commandReports, summary_eq_counts]
    rfl

end Call

namespace Inspect

/-! ### Printed documents -/

/-- The accepted calls with their files, in the order of the files. -/
def acceptedCalls (policy : Policy) (files : Files) (paths : List String) : List (String × Call) :=
  paths.filterMap fun path => (acceptedIn policy (files path)).map (path, ·)

/-- Documents in the form in which they are printed. -/
def printed (documents : List Json) : String :=
  String.join (documents.map fun document => document.pretty ++ "\n")

theorem documentText_eq_printed (document : String → Call → Json) (policy : Policy) (files : Files)
    (paths : List String) :
    documentText document policy files paths =
      printed ((acceptedCalls policy files paths).map fun entry => document entry.1 entry.2) := by
  simp only [documentText, printed, acceptedCalls, List.map_filterMap, Option.map_map]
  rfl

theorem prints_presentSummary : Prints presentSummary fun path call => call.report path where
  resultText path call := by
    rw [presentSummary]
    split <;> simp [Emission.resultText]
  noteText json filter off path call := by
    rw [presentSummary]
    split <;> simp [Emission.noteText, off]

/-! ### Runs -/

/-- The reports stand where the calls would have been printed, and nothing else differs. -/
theorem presented_eq_finished (policy : Policy) (files : Files) (paths : List String) :
    ∃ code notes, ∀ document, presented document policy files paths =
      .finished code
        (printed ((acceptedCalls policy files paths).map fun entry => document entry.1 entry.2))
        notes := by
  simp only [presented, documentText_eq_printed]
  split
  · exact ⟨0, _, fun document => rfl⟩
  · exact ⟨1, _, fun document => rfl⟩

/-- With the log off, a run that validates files and one that summarises them end alike, but for
what they print about an accepted call. -/
theorem runTask_summary_agrees {files : Files} {env : Environment} (silent : IsSilent env)
    (options : Options) (paths : List String) :
    ∃ code notes, ∃ calls : List (String × Call),
      runTask files env options (.validate paths) =
        .finished code (printed (calls.map fun entry => entry.2.toJson)) notes ∧
      runTask files env options (.summary paths) =
        .finished code (printed (calls.map fun entry => entry.2.report entry.1)) notes ∧
      ∀ config, options.configure files env = .ok config →
        calls = acceptedCalls config.validation files paths := by
  cases configured : options.configure files env with
  | error failure =>
    refine ⟨1, failure.render, [], ?_, ?_, ?_⟩
    · rw [runTask, configured]
      rfl
    · rw [runTask, configured]
      rfl
    · intro config same
      cases same
  | ok config =>
    obtain ⟨code, notes, ends⟩ := presented_eq_finished config.validation files paths
    refine ⟨code, notes, acceptedCalls config.validation files paths, ?_, ?_, ?_⟩
    · rw [runTask_eq_presented configured silent prints_presentTyped rfl, ends]
    · rw [runTask_eq_presented configured silent prints_presentSummary rfl, ends]
    · intro config' same
      cases same
      rfl

/-- A command line that is about files may validate or summarise them. -/
theorem run_of_parse (files : Files) {env : Environment} {arguments : List String}
    {options : Options} {task : Task}
    (parsed : Invocation.parse env arguments = some (.run options task))
    (inspects : task ≠ .checkConfig) :
    ∃ front name operands, arguments = front ++ name :: operands ∧
      Task.ofOperands? name task.files = some task ∧
      run files env (front ++ "validate" :: operands) =
        runTask files env options (.validate task.files) ∧
      run files env (front ++ "summary" :: operands) =
        runTask files env options (.summary task.files) := by
  obtain ⟨front, name, operands, rfl, named, turn⟩ := Invocation.exists_task_of_parse parsed
  have given : task.files ≠ [] := by
    obtain ⟨-, given, -⟩ | ⟨-, given, -⟩ | ⟨-, -, checks⟩ := Task.ofOperands?_cases named
    · exact given
    · exact given
    · exact absurd checks inspects
  refine ⟨front, name, operands, rfl, named, ?_, ?_⟩
  · rw [run, turn "validate" _ (Task.ofOperands?_validate given)]
  · rw [run, turn "summary" _ (Task.ofOperands?_summary given)]

/-- **Validating and summarising agree.** With the log off, the two end with the same code and the
same notes, and where one prints the accepted calls in the order of their files, the other prints
reports that fit them. Which of the two a command line asks for is said by one word of it. -/
theorem summary_agrees {files : Files} {env : Environment} (silent : IsSilent env) :
    (∀ options paths, ∃ code notes, ∃ calls : List (String × Call),
      runTask files env options (.validate paths) =
        .finished code (printed (calls.map fun entry => entry.2.toJson)) notes ∧
      runTask files env options (.summary paths) =
        .finished code (printed (calls.map fun entry => entry.2.report entry.1)) notes ∧
      ∀ config, options.configure files env = .ok config →
        calls = acceptedCalls config.validation files paths) ∧
    (∀ (path : String) (call : Call), ∃ commands entries summary,
      Report.Tallies path call.toJson (call.report path) commands entries summary) ∧
    (∀ arguments options task, Invocation.parse env arguments = some (.run options task) →
      task ≠ .checkConfig →
      ∃ front name operands, arguments = front ++ name :: operands ∧
        Task.ofOperands? name task.files = some task ∧
        run files env (front ++ "validate" :: operands) =
          runTask files env options (.validate task.files) ∧
        run files env (front ++ "summary" :: operands) =
          runTask files env options (.summary task.files)) :=
  ⟨runTask_summary_agrees silent, fun path call => ⟨_, _, _, call.tallies_report path⟩,
    fun _ _ _ parsed inspects => run_of_parse files parsed inspects⟩

/-- A call of one swap. -/
def swapText : String :=
  "\x7b\"commands\":[\x7b\"commandName\":\"V2_SWAP_EXACT_IN\"," ++
    "\"commandType\":8,\"params\":[]\x7d]\x7d"

/-- A folder in which there is nothing else. -/
def swapFolder : Files := fun path => if path = "a" then .text swapText else .absent

theorem summary_agrees_sample :
    ∃ (call : Call) (code : UInt8) (notes : String), call.toJson.compact = swapText ∧
      run swapFolder silentEnvironment ["validate", "b", "a"] =
        .finished code (printed [call.toJson]) notes ∧
      run swapFolder silentEnvironment ["summary", "b", "a"] =
        .finished code (printed [call.report "a"]) notes := by
  have silent : IsSilent silentEnvironment := isSilent_of_off rfl
  have configured : ({} : Options).configure swapFolder silentEnvironment = .ok {} := by
    decide +kernel
  have validate : Invocation.parse silentEnvironment ["validate", "b", "a"] =
      some (.run {} (.validate ["b", "a"])) := by decide +kernel
  have summarise : Invocation.parse silentEnvironment ["summary", "b", "a"] =
      some (.run {} (.summary ["b", "a"])) := by decide +kernel
  have evaluated : (acceptedCalls {} swapFolder ["b", "a"]).map
      (fun entry => (entry.1, entry.2.toJson.compact)) = [("a", swapText)] := by decide +kernel
  obtain ⟨⟨path, call⟩, found, written⟩ := List.map_eq_singleton_iff.mp evaluated
  obtain ⟨rfl, written⟩ := Prod.mk.inj written
  obtain ⟨code, notes, calls, validates, summarises, accepted⟩ :=
    (summary_agrees silent).1 {} ["b", "a"]
  rw [accepted {} configured, found] at validates summarises
  refine ⟨call, code, notes, written, ?_, ?_⟩
  · rw [run, validate]
    exact validates
  · rw [run, summarise]
    exact summarises

end Inspect

end RouterCall
