import RouterCall.Config.Override

/-!
# Arguments

The command line names a task, and before it options that hold for every task. An option has a long
name and perhaps a letter; a value stands behind an equals sign, right behind the letter, or in the
next argument, which then must not look like an option. No option is given twice, and behind the
name of the task there are only its operands.

The version and the usage are asked for by options too, and answered at once: what comes after them
does not matter, what comes before them does. The word `help` in the place of the task asks for the
usage as well.

Where the command line names no configuration file, a variable of the environment may.

## Main definitions

* `Options`, `Task`, `Invocation`
* `Token.ofArgument`: what an argument looks like
* `Operands.parse`: the operands of a task
* `Invocation.parse`: what a command line asks for; `none` for one that is refused

## Main results

* `Task.files_ofOperands?`: the operands of a task are the files it is about
-/

namespace RouterCall.Inspect

/-- The options that hold for every task. -/
structure Options where
  config : Option String := none
  logLevel : Option String := none
  jsonLogs : Bool := false
  acceptUnknown : Bool := false
deriving DecidableEq

/-- What is to be done. -/
inductive Task where
  | validate (files : List String)
  | summary (files : List String)
  | checkConfig
deriving DecidableEq

/-- What a command line asks for. -/
inductive Invocation where
  | run (options : Options) (task : Task)
  | version
  | usage
deriving DecidableEq

/-! ### Arguments one by one -/

/-- What an argument looks like. -/
inductive Token where
  /-- Two dashes, behind which nothing is an option. -/
  | terminator
  /-- Two dashes and a name, and the value behind an equals sign. -/
  | long (name : String) (value : Option String)
  /-- A dash and a letter, and the value right behind it. -/
  | short (letter : Char) (value : Option String)
  /-- Anything else. -/
  | word (text : String)
deriving DecidableEq

namespace Token

/-- The value behind an equals sign. -/
def attached? : List Char → Option String
  | '=' :: value => some (String.ofList value)
  | _ => none

/-- The value right behind a letter. An equals sign in between is not part of it. -/
def adjoined? : List Char → Option String
  | [] => none
  | '=' :: value => some (String.ofList value)
  | value => some (String.ofList value)

/-- What an argument looks like. A dash alone is no option. -/
def ofArgument (argument : String) : Token :=
  match argument.toList with
  | ['-', '-'] => .terminator
  | '-' :: '-' :: cs =>
    .long (String.ofList (cs.takeWhile (· ≠ '='))) (attached? (cs.dropWhile (· ≠ '=')))
  | '-' :: letter :: value => .short letter (adjoined? value)
  | _ => .word argument

end Token

/-! ### Options -/

/-- The options with a value. -/
inductive ValueOption where
  | config
  | logLevel
deriving DecidableEq

/-- Gives an option its value, the first time. The name of a file is not empty. -/
def Options.give? (options : Options) (option : ValueOption) (value : String) : Option Options :=
  match option with
  | .config => do
    guard (options.config = none ∧ value ≠ "")
    return { options with config := some value }
  | .logLevel => do
    guard (options.logLevel = none)
    return { options with logLevel := some value }

/-- Where the reading of options stands after an argument. -/
inductive Progress where
  /-- More options may follow; the last one may be waiting for its value. -/
  | options (options : Options) (waiting : Option ValueOption)
  /-- The name of the task is reached. -/
  | task (name : String)
  /-- The rest does not matter. -/
  | settled (invocation : Invocation)

/-- Gives an option the value it has with it, or lets it wait for one. -/
def Options.receive? (options : Options) (option : ValueOption) (value : Option String) :
    Option Progress :=
  match value with
  | some value => (Progress.options · none) <$> options.give? option value
  | none => some (.options options (some option))

/-- One argument in front of the name of the task. -/
def Options.accept? (options : Options) : Token → Option Progress
  | .word name => some (.task name)
  | .terminator => none
  | .short 'c' value | .long "config" value => options.receive? .config value
  | .short 'l' value | .long "log-level" value => options.receive? .logLevel value
  | .short 'V' _ | .long "version" none => some (.settled .version)
  | .short 'h' _ | .long "help" none => some (.settled .usage)
  | .long "json-logs" none => do
    guard (options.jsonLogs = false)
    return .options { options with jsonLogs := true } none
  | .long "accept-unknown-commands" none => do
    guard (options.acceptUnknown = false)
    return .options { options with acceptUnknown := true } none
  | .long _ _ | .short _ _ => none

/-! ### Operands -/

/-- The operands behind the name of a task, or the wish to see the usage. -/
inductive Operands where
  | files (names : List String)
  | usage

namespace Operands

/-- Operands and one more in front of them. -/
def cons (name : String) : Operands → Operands
  | .files names => .files (name :: names)
  | .usage => .usage

/-- The operands behind the name of a task. None is empty. -/
def parse : List String → Option Operands
  | [] => some (.files [])
  | argument :: rest =>
    match Token.ofArgument argument with
    | .terminator => if "" ∈ rest then none else some (.files rest)
    | .short 'h' _ | .long "help" none => some .usage
    | .word name => if name = "" then none else cons name <$> parse rest
    | .short _ _ | .long _ _ => none

end Operands

/-- The files that a task is about. -/
def Task.files : Task → List String
  | .validate files | .summary files => files
  | .checkConfig => []

/-- A task with its operands. -/
def Task.ofOperands? (name : String) (files : List String) : Option Task :=
  if name = "validate" ∧ files ≠ [] then some (.validate files)
  else if name = "summary" ∧ files ≠ [] then some (.summary files)
  else if name = "check-config" ∧ files = [] then some .checkConfig
  else none

/-- The operands of a task are the files it is about. -/
theorem Task.files_ofOperands? {name : String} {files : List String} {task : Task}
    (h : Task.ofOperands? name files = some task) : task.files = files := by
  rw [Task.ofOperands?] at h
  split at h
  · cases h; rfl
  · split at h
    · cases h; rfl
    · split at h
      · next found => cases h; exact found.2.symm
      · cases h

/-! ### Command lines -/

namespace Invocation

/-- The variable that names the configuration file. -/
def configKey : String := "ROUTER_CONFIG"

/-- Looks for the configuration file in the environment where the options do not name it. -/
def withEnvironment (env : Environment) (options : Options) : Option Options :=
  if options.config.isSome then some options
  else (env configKey).elim (some options) (options.give? .config)

/-- The names that the first word of a command line may be. Behind `help` stands one of them, or
nothing. -/
def firstWords : List String := ["validate", "summary", "check-config", "help"]

/-- What a command line asks for, from the name of the task on. -/
def parseTask (env : Environment) (options : Options) (name : String) (operands : List String) :
    Option Invocation := do
  guard (name ∈ firstWords)
  if name = "help" then
    guard (operands.length ≤ 1 ∧ operands.all (· ∈ firstWords))
    return .usage
  match ← Operands.parse operands with
  | .usage => return .usage
  | .files names =>
    let task ← Task.ofOperands? name names
    return .run (← withEnvironment env options) task

/-- What a command line asks for, after some options, the last of which may be waiting for its
value. -/
def parseFrom (env : Environment) (options : Options) (waiting : Option ValueOption) :
    List String → Option Invocation
  | [] => none
  | argument :: rest =>
    match waiting with
    | some option =>
      match Token.ofArgument argument with
      | .word value => do parseFrom env (← options.give? option value) none rest
      | _ => none
    | none => do
      match ← options.accept? (Token.ofArgument argument) with
      | .options options waiting => parseFrom env options waiting rest
      | .task name => parseTask env options name rest
      | .settled invocation => return invocation

/-- What a command line asks for; `none` for one that is refused. -/
def parse (env : Environment) (arguments : List String) : Option Invocation :=
  parseFrom env {} none arguments

end Invocation

end RouterCall.Inspect
