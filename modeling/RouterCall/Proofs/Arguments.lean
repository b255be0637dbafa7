import RouterCall.Inspect.Arguments
import Mathlib.Control.Basic
import Mathlib.Data.Option.Basic

/-!
# Where a command line names its task

A command line is read from the left, option by option, up to the first word that is not the value
of an option. That word names the task, and it alone decides whether files are validated or
summarised: the options in front of it and the operands behind it are read alike.

## Main results

* `Options.accept?_cases`: what one argument in front of the task may come to
* `Invocation.parseTask_eq_run_iff`: what is read from the name of the task on
* `Invocation.exists_turnsAt_of_parseFrom`: where the task is named
* `Invocation.exists_task_of_parse`: another task may be named there
-/

namespace RouterCall.Inspect

namespace Options

variable {options : Options}

/-- Behind an option with a value there may be more options. -/
theorem receive?_eq_options {option : ValueOption} {value : Option String} {progress : Progress}
    (h : options.receive? option value = some progress) :
    ∃ next waiting, progress = .options next waiting := by
  cases value with
  | none => exact ⟨_, _, (Option.some.inj h).symm⟩
  | some value =>
    obtain ⟨next, -, rfl⟩ := Option.map_eq_some_iff.mp h
    exact ⟨_, _, rfl⟩

/-- Behind a switch there may be more options. -/
theorem switch_eq_options {allowed : Prop} [Decidable allowed] {next : Options}
    {progress : Progress}
    (h : (do guard allowed; return .options next none : Option Progress) = some progress) :
    ∃ next waiting, progress = .options next waiting := by
  obtain ⟨-, -, found⟩ := Option.bind_eq_some_iff.mp h
  exact ⟨_, _, (Option.some.inj found).symm⟩

/-- Only a word names a task, and only the version and the usage are answered at once. -/
theorem accept?_cases {token : Token} {progress : Progress}
    (h : options.accept? token = some progress) :
    (∃ next waiting, progress = .options next waiting) ∨
      (∃ name, token = .word name ∧ progress = .task name) ∨
      progress = .settled .version ∨ progress = .settled .usage := by
  rw [accept?.eq_def] at h
  split at h
  case h_1 name => exact .inr (.inl ⟨name, rfl, (Option.some.inj h).symm⟩)
  case h_7 | h_8 => exact .inr (.inr (.inl (Option.some.inj h).symm))
  case h_9 | h_10 => exact .inr (.inr (.inr (Option.some.inj h).symm))
  case h_11 | h_12 => exact .inl (switch_eq_options h)
  case h_3 | h_4 | h_5 | h_6 => exact .inl (receive?_eq_options h)
  all_goals cases h

end Options

namespace Task

theorem ofOperands?_cases {name : String} {files : List String} {task : Task}
    (h : ofOperands? name files = some task) :
    (name = "validate" ∧ files ≠ [] ∧ task = .validate files) ∨
      (name = "summary" ∧ files ≠ [] ∧ task = .summary files) ∨
      (name = "check-config" ∧ files = [] ∧ task = .checkConfig) := by
  rw [ofOperands?] at h
  split at h
  · next found => exact .inl ⟨found.1, found.2, (Option.some.inj h).symm⟩
  · split at h
    · next found => exact .inr (.inl ⟨found.1, found.2, (Option.some.inj h).symm⟩)
    · split at h
      · next found => exact .inr (.inr ⟨found.1, found.2, (Option.some.inj h).symm⟩)
      · cases h

/-- The name of a task does not look like an option. -/
theorem ofArgument_of_ofOperands? {name : String} {files : List String} {task : Task}
    (h : ofOperands? name files = some task) : Token.ofArgument name = .word name := by
  obtain ⟨rfl, -⟩ | ⟨rfl, -⟩ | ⟨rfl, -⟩ := ofOperands?_cases h <;> decide

theorem ofOperands?_validate {files : List String} (h : files ≠ []) :
    ofOperands? "validate" files = some (.validate files) := by
  simp [ofOperands?, h]

theorem ofOperands?_summary {files : List String} (h : files ≠ []) :
    ofOperands? "summary" files = some (.summary files) := by
  simp [ofOperands?, h]

end Task

namespace Invocation

variable {env : Environment}

/-- A task is asked for by its name, and behind it are the files that it is about. -/
theorem parseTask_eq_run_iff {options given : Options} {name : String} {operands : List String}
    {task : Task} :
    parseTask env options name operands = some (.run given task) ↔
      Operands.parse operands = some (.files task.files) ∧
        Task.ofOperands? name task.files = some task ∧
        withEnvironment env options = some given := by
  constructor
  · intro h
    obtain ⟨-, -, h⟩ := Option.bind_eq_some_iff.mp h
    split at h
    · obtain ⟨-, -, h⟩ := Option.bind_eq_some_iff.mp h
      cases h
    · obtain ⟨behind, read, h⟩ := Option.bind_eq_some_iff.mp h
      cases behind with
      | usage => cases h
      | files names =>
        obtain ⟨found, named, h⟩ := Option.bind_eq_some_iff.mp h
        obtain ⟨options, completed, h⟩ := Option.bind_eq_some_iff.mp h
        cases h
        rw [Task.files_ofOperands? named]
        exact ⟨read, named, completed⟩
  · rintro ⟨read, named, completed⟩
    have known : name ∈ firstWords ∧ name ≠ "help" := by
      obtain ⟨rfl, -⟩ | ⟨rfl, -⟩ | ⟨rfl, -⟩ := Task.ofOperands?_cases named <;> decide
    simp [parseTask, known, read, named, completed]

theorem eq_of_ofArgument_eq_word {argument text : String}
    (h : Token.ofArgument argument = .word text) : text = argument := by
  rw [Token.ofArgument.eq_def] at h
  split at h <;> cases h
  rfl

/-- Behind these arguments a word names the task, and any word does so after the same options. -/
def TurnsAt (env : Environment) (options : Options) (waiting : Option ValueOption)
    (front : List String) (read : Options) : Prop :=
  ∀ word operands, Token.ofArgument word = .word word →
    parseFrom env options waiting (front ++ word :: operands) = parseTask env read word operands

/-- **A command line that asks for a task names it by a word**, and what it says in front of that
word does not depend on the word. -/
theorem exists_turnsAt_of_parseFrom {options given : Options} {waiting : Option ValueOption}
    {arguments : List String} {task : Task}
    (h : parseFrom env options waiting arguments = some (.run given task)) :
    ∃ front name operands read, arguments = front ++ name :: operands ∧
      Token.ofArgument name = .word name ∧ TurnsAt env options waiting front read := by
  induction arguments generalizing options waiting with
  | nil => cases h
  | cons argument rest ih =>
    -- an argument in front of the task only changes the options
    have step (next : Options) (still : Option ValueOption)
        (same : ∀ rest, parseFrom env options waiting (argument :: rest) =
          parseFrom env next still rest) :
        ∃ front name operands read, argument :: rest = front ++ name :: operands ∧
          Token.ofArgument name = .word name ∧ TurnsAt env options waiting front read := by
      rw [same] at h
      obtain ⟨front, name, operands, read, rfl, plain, turns⟩ := ih h
      exact ⟨argument :: front, name, operands, read, rfl, plain,
        fun word operands other => (same _).trans (turns word operands other)⟩
    cases waiting with
    | some option =>
      cases token : Token.ofArgument argument with
      | word value =>
        cases found : options.give? option value with
        | none => simp [parseFrom, token, found] at h
        | some next => exact step next none fun rest => by simp [parseFrom, token, found]
      | _ => simp [parseFrom, token] at h
    | none =>
      cases found : options.accept? (Token.ofArgument argument) with
      | none => simp [parseFrom, found] at h
      | some progress =>
        obtain ⟨next, still, rfl⟩ | ⟨name, plain, rfl⟩ | rfl | rfl := Options.accept?_cases found
        · exact step next still fun rest => by simp [parseFrom, found]
        · obtain rfl := eq_of_ofArgument_eq_word plain
          refine ⟨[], name, rest, options, rfl, plain, fun word operands other => ?_⟩
          simp [parseFrom, other, Options.accept?]
        · simp [parseFrom, found] at h
        · simp [parseFrom, found] at h

/-- **One word of a command line says which task is asked for.** Any other name that goes with the
same files asks for its task there, with the same options. -/
theorem exists_task_of_parse {arguments : List String} {options : Options} {task : Task}
    (h : parse env arguments = some (.run options task)) :
    ∃ front name operands, arguments = front ++ name :: operands ∧
      Task.ofOperands? name task.files = some task ∧
      ∀ name' task', Task.ofOperands? name' task.files = some task' →
        parse env (front ++ name' :: operands) = some (.run options task') := by
  obtain ⟨front, name, operands, read, rfl, plain, turns⟩ := exists_turnsAt_of_parseFrom h
  have asked : parseTask env read name operands = some (.run options task) :=
    (turns name operands plain).symm.trans h
  obtain ⟨behind, named, completed⟩ := parseTask_eq_run_iff.mp asked
  refine ⟨front, name, operands, rfl, named, fun name' task' named' => ?_⟩
  have files : task'.files = task.files := Task.files_ofOperands? named'
  exact (turns name' operands (Task.ofArgument_of_ofOperands? named')).trans
    (parseTask_eq_run_iff.mpr ⟨files ▸ behind, files ▸ named', completed⟩)

end Invocation

end RouterCall.Inspect
