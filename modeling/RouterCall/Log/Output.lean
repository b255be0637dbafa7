import RouterCall.Json.Printer
import RouterCall.Log.Filter
import RouterCall.Text.Terminal

/-!
# How the log is written

A record is a line of text or a line of JSON. `LogOutput` holds the choices an operator has, and the
three sets of choices that have names. The level of an output counts only where no filter is given.

## Main definitions

* `LogOutput`, `LogOutput.debugging`, `LogOutput.production`
* `LogOutput.filter`: the filter in force
* `LogRecord.line`: a record as a line
-/

namespace RouterCall

/-- The choices about a log. -/
structure LogOutput where
  level : LogLevel := .info
  /-- Whether lines name the thread. -/
  threadIds : Bool := false
  /-- Whether lines name the place in the program. -/
  fileAndLine : Bool := false
  /-- Whether lines name the source. -/
  sources : Bool := true
  /-- Whether the end of a span is a record. -/
  spanEnds : Bool := false
  json : Bool := false
deriving DecidableEq

namespace LogOutput

/-- The choices for finding faults. -/
def debugging : LogOutput := { level := .debug, fileAndLine := true, spanEnds := true }

/-- The choices for a service. -/
def production : LogOutput := { threadIds := true, json := true }

/-- The filter in force: the one that is given, if it is one, and else that of the level. -/
def filter (output : LogOutput) (given : Option String) : LogFilter :=
  (given >>= LogFilter.parse?).getD (LogFilter.ofLevel output.level)

end LogOutput

/-- A record as a line of text, which a terminal may show. -/
def LogRecord.textLine (record : LogRecord) : String :=
  record.level.label ++ " " ++ record.source ++ ": " ++ Terminal.shown record.message

/-- A record as a JSON value. -/
def LogRecord.toJson (record : LogRecord) : Json :=
  .object [
    ("fields", .object [("message", .string record.message)]),
    ("level", .string record.level.label),
    ("target", .string record.source)]

/-- A record as a line. -/
def LogRecord.line (json : Bool) (record : LogRecord) : String :=
  if json then record.toJson.compact else record.textLine

end RouterCall
