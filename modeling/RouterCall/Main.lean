import RouterCall.Inspect.Run

/-!
# The command line

Reads what a run may look at, lets `Inspect.run` decide, and writes what it says. The results come
after the notes, since nothing is written before the run is over.
-/

namespace RouterCall.Inspect

/-- What a path leads to. -/
def lookUp (path : String) : IO FileState := do
  try
    match String.fromUTF8? (← IO.FS.readBinFile path) with
    | some contents => return .text contents
    | none => return .unreadable "stream did not contain valid UTF-8"
  catch e =>
    match e with
    | .noFileOrDirectory .. => return .absent
    | .inappropriateType _ code _ => return if code = 21 then .directory else .blocked
    | e => return .unreadable (toString e)

/-- The variables that a run may look at. -/
def environmentKeys : List String := [
  Environment.logLevelKey, Environment.logJsonKey, Environment.unknownNamesKey,
  Invocation.configKey, filterKey]

/-- The paths that a run may look at. -/
def inputPaths (env : Environment) (arguments : List String) : List String :=
  match Invocation.parse env arguments with
  | some (.run options task) => options.config.toList ++ task.files
  | _ => []

/-- Runs the program; the answer is its exit code. -/
def execute (arguments : List String) : IO UInt32 := do
  let values ← environmentKeys.mapM fun key => return (key, ← IO.getEnv key)
  let env : Environment := fun key => (values.lookup key).join
  let states ← (inputPaths env arguments).mapM fun path => return (path, ← lookUp path)
  let files : Files := fun path => (states.lookup path).getD .absent
  match run files env arguments with
  | .refused =>
    IO.eprint usageText
    return 2
  | .finished code results notes =>
    IO.eprint notes
    IO.print results
    return code.toUInt32

end RouterCall.Inspect

def main (arguments : List String) : IO UInt32 := RouterCall.Inspect.execute arguments
