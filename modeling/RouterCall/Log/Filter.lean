import RouterCall.Log.Level
import RouterCall.Text.Line

/-!
# Which records are written

A filter is a list of directives. A directive is about the records whose source starts with its
target, and says from which level on they are written, or that they are not. When several directives
are about a record, the one with the longest target decides, and among equal targets the last. A
record that no directive is about is not written.

Filters are written as directives divided by commas: a level alone is about every record, a target
alone admits every level, and otherwise the two stand around an equals sign. The filter without
directives admits errors.

## Main definitions

* `LogDirective`, `LogFilter`
* `LogFilter.parse?`: the filter a text is
* `LogFilter.admits`: whether a record is written
-/

namespace RouterCall

/-- From which level on records are written; `none` for not at all. -/
abbrev LogThreshold := Option LogLevel

namespace LogThreshold

/-- The threshold a text is: a level, or `off`, or `0`. -/
def ofText? (text : String) : Option LogThreshold :=
  if unsigned? text = some 0 ∨ asciiLower text = "off" then some none
  else some <$> LogLevel.ofText? text

/-- Whether a level is written. -/
def admits (threshold : LogThreshold) (level : LogLevel) : Bool :=
  threshold.any fun least => level.rank ≤ least.rank

end LogThreshold

/-- What is written of the records whose source starts with a target. -/
structure LogDirective where
  target : String
  threshold : LogThreshold
deriving DecidableEq

namespace LogDirective

/-- Whether a directive may start with a character. -/
def isStart (c : Char) : Bool := c.isAlphanum || c ∈ ['-', ':', '_'] || 0x80 ≤ c.toNat

/-- The directive a text is. -/
def parse? (text : String) : Option LogDirective := do
  guard (text.toList.head?.any isStart)
  let target := text.toList.takeWhile (· ≠ '=')
  guard ('[' ∉ target)
  match text.toList.dropWhile (· ≠ '=') with
  | [] => match LogThreshold.ofText? text with
    | some threshold => return ⟨"", threshold⟩
    | none => return ⟨text, some .trace⟩
  | [_] => return ⟨String.ofList target, some .trace⟩
  | _ :: level => return ⟨String.ofList target, ← LogThreshold.ofText? (String.ofList level)⟩

/-- Whether a directive is about a record. -/
def concerns (directive : LogDirective) (record : LogRecord) : Bool :=
  directive.target.toList.isPrefixOf record.source.toList

end LogDirective

/-- Directives, in the order in which they were written. -/
abbrev LogFilter := List LogDirective

namespace LogFilter

/-- The filter that writes every record from a level on. -/
def ofLevel (level : LogLevel) : LogFilter := [⟨"", some level⟩]

/-- The filter a text is. Empty directives are passed over. -/
def parse? (text : String) : Option LogFilter := do
  let pieces := (Line.pieces ',' text.toList).filter (· ≠ [])
  let directives ← pieces.mapM fun piece => LogDirective.parse? (String.ofList piece)
  return if directives.isEmpty then ofLevel .error else directives

/-- The directive that decides about a record. -/
def decisive? (filter : LogFilter) (record : LogRecord) : Option LogDirective :=
  (filter.filter (·.concerns record)).foldl (fun best directive =>
    if best.any fun found => directive.target.length < found.target.length then best
    else some directive) none

/-- Whether a record is written. -/
def admits (filter : LogFilter) (record : LogRecord) : Bool :=
  (filter.decisive? record).any fun directive => directive.threshold.admits record.level

end LogFilter

end RouterCall
