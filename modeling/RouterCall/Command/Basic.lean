import RouterCall.CommandName
import RouterCall.V4.Basic

/-!
# Commands and calls

A call is a list of commands in the order in which the router executes them. The five swaps have an
arm each; every other command, known or not, is kept by its name and number with its parameters.

## Main definitions

* `Command`, `FallbackCommand`, `Call`
* `Command.name`, `Command.opcode`, `Command.toJson`
* `Call.toJson`
-/

namespace RouterCall

/-- A command that is no swap. What its name and number are is up to whoever makes it. -/
structure FallbackCommand where
  name : String
  opcode : Opcode
  params : List Parameter

/-- The entry of the table that the name belongs to. -/
def FallbackCommand.knownName? (command : FallbackCommand) : Option CommandName :=
  CommandName.ofName? command.name

/-- A command. -/
inductive Command where
  | v2SwapExactIn (params : List Parameter)
  | v2SwapExactOut (params : List Parameter)
  | v3SwapExactIn (params : List Parameter)
  | v3SwapExactOut (params : List Parameter)
  | v4Swap (params : List V4.Parameter)
  | fallback (command : FallbackCommand)

namespace Command

/-- The name of a command on the wire. -/
def name : Command → String
  | .v2SwapExactIn _ => CommandName.v2SwapExactIn.name
  | .v2SwapExactOut _ => CommandName.v2SwapExactOut.name
  | .v3SwapExactIn _ => CommandName.v3SwapExactIn.name
  | .v3SwapExactOut _ => CommandName.v3SwapExactOut.name
  | .v4Swap _ => CommandName.v4Swap.name
  | .fallback command => command.name

/-- The number of a command on the wire. -/
def opcode : Command → Opcode
  | .v2SwapExactIn _ => CommandName.v2SwapExactIn.opcode
  | .v2SwapExactOut _ => CommandName.v2SwapExactOut.opcode
  | .v3SwapExactIn _ => CommandName.v3SwapExactIn.opcode
  | .v3SwapExactOut _ => CommandName.v3SwapExactOut.opcode
  | .v4Swap _ => CommandName.v4Swap.opcode
  | .fallback command => command.opcode

/-- The parameters of every command but the versioned swap. -/
def params? : Command → Option (List Parameter)
  | .v2SwapExactIn params => some params
  | .v2SwapExactOut params => some params
  | .v3SwapExactIn params => some params
  | .v3SwapExactOut params => some params
  | .v4Swap _ => none
  | .fallback command => some command.params

/-- The parameters of the versioned swap. -/
def v4Params? : Command → Option (List V4.Parameter)
  | .v4Swap params => some params
  | _ => none

/-- Whether a command is one of the five swaps. An opaque command never is, whatever its name. -/
def isSwap : Command → Bool
  | .fallback _ => false
  | _ => true

/-- Whether a command is kept without an arm of its own. -/
def isFallback : Command → Bool
  | .fallback _ => true
  | _ => false

/-- The parameters of a command on the wire. -/
def paramsJson : Command → List Json
  | .v2SwapExactIn params => params.map Parameter.toJson
  | .v2SwapExactOut params => params.map Parameter.toJson
  | .v3SwapExactIn params => params.map Parameter.toJson
  | .v3SwapExactOut params => params.map Parameter.toJson
  | .v4Swap params => params.map V4.Parameter.toJson
  | .fallback command => command.params.map Parameter.toJson

/-- A command on the wire. -/
def toJson (command : Command) : Json :=
  .object [
    ("commandName", .string command.name),
    ("commandType", .ofInt command.opcode.toNat),
    ("params", .array command.paramsJson)]

end Command

/-- A call: commands in execution order. -/
structure Call where
  commands : List Command

/-- A call on the wire. -/
def Call.toJson (call : Call) : Json :=
  .object [("commands", .array (call.commands.map Command.toJson))]

end RouterCall
