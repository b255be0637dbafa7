/-!
# Log records

A record is what the rest of the program hands to a log: a level, the part of the program it comes
from, and a message. When it was written and how it is laid out are not part of it.
-/

namespace RouterCall

/-- The five levels, from the most to the least talkative. -/
inductive LogLevel where
  | trace
  | debug
  | info
  | warn
  | error
deriving DecidableEq

namespace LogLevel

/-- Every level, from the most to the least talkative. -/
def all : List LogLevel := [trace, debug, info, warn, error]

/-- The name of a level in settings. -/
def name : LogLevel → String
  | trace => "trace"
  | debug => "debug"
  | info => "info"
  | warn => "warn"
  | error => "error"

/-- The name of a level in log lines. -/
def label : LogLevel → String
  | trace => "TRACE"
  | debug => "DEBUG"
  | info => "INFO"
  | warn => "WARN"
  | error => "ERROR"

/-- The name of a level in sentences. -/
def title : LogLevel → String
  | trace => "Trace"
  | debug => "Debug"
  | info => "Info"
  | warn => "Warn"
  | error => "Error"

/-- How much a level matters, from `1` for errors to `5` for traces. -/
def rank : LogLevel → Nat
  | error => 1
  | warn => 2
  | info => 3
  | debug => 4
  | trace => 5

end LogLevel

/-- One record of a log. -/
structure LogRecord where
  level : LogLevel
  source : String
  message : String
deriving DecidableEq

end RouterCall
