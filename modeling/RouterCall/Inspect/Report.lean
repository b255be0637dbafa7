import RouterCall.Json.Document
import RouterCall.Swap

/-!
# Reports about calls

The report about a call says what its file is, how much of it is understood, and for every command
whether it is a swap and what it trades. Its keys come in alphabetical order at every depth, unlike
those of calls, which keep the order in which the call declares them.

## Main definitions

* `Json.sorted`: an object with its keys in order
* `Command.report`, `Call.report`
-/

namespace RouterCall

/-- An object with its keys in order; any other value as it is. -/
def Json.sorted : Json → Json
  | .object members => .object (settleMembers members)
  | value => value

/-- What a report says about the command at a position. -/
def Command.report (position : Nat) (command : Command) : Json :=
  Json.sorted (.object [
    ("index", .ofInt position),
    ("commandName", .string command.name),
    ("commandType", .ofInt command.opcode.toNat),
    ("swap", .bool command.isSwap),
    ("amounts", command.swapAmounts?.elim .null fun amounts => amounts.toJson.sorted)])

/-- What a report says about commands from a position on. -/
def Call.commandReports (start : Nat) : List Command → List Json
  | [] => []
  | command :: commands => command.report start :: commandReports (start + 1) commands

/-- The report about a call that was read from a file. -/
def Call.report (path : String) (call : Call) : Json :=
  Json.sorted (.object [
    ("file", .string path),
    ("summary", call.summary.toJson.sorted),
    ("commands", .array (Call.commandReports 0 call.commands))])

end RouterCall
