import RouterCall.Command.Basic
import RouterCall.Command.Event
import RouterCall.Policy
import RouterCall.V4.Classify

/-!
# Recognising commands

A raw command is an object with a string `commandName`, an unsigned `commandType` and an array
`params`, checked in that order; these three are its header. Then name and number decide together:

* a name of the table must come with its own number, whatever the parameters are;
* a name outside the table is refused, or, under the permissive policy, kept if its number is one of
  the table's.

Only then are the parameters read, in order, up to the first that is refused.

## Main definitions

* `Header`, `Header.check`: the three fields of a raw command
* `Command.classify`: the command a raw value is, under a policy
-/

namespace RouterCall

/-- The three fields of a raw command. -/
structure Header where
  name : String
  number : Nat
  params : List Json

/-- The header of a raw command. All faults here are shape faults. -/
def Header.check (raw : Json) : Checked Header :=
  match raw.asObject? with
  | none => .error (.shape [] (.expected "command object" raw.kind))
  | some members => do
    let name ← match members.lookup "commandName" with
      | none => throw (.shape [.key "commandName"] (.missing "command name"))
      | some (.string name) => pure name
      | some other => throw (.shape [.key "commandName"] (.expected "string" other.kind))
    let number ← match members.lookup "commandType" with
      | none => throw (.shape [.key "commandType"] (.missing "command type"))
      | some value => match value.asNat? with
        | some number => pure number
        | none => throw (.shape [.key "commandType"]
            (.expectedNumber "non-negative integer opcode" value))
    let params ← match members.lookup "params" with
      | none => throw (.shape [.key "params"] (.missing "command params"))
      | some (.array params) => pure params
      | some other => throw (.shape [.key "params"] (.expected "array" other.kind))
    return { name, number, params }

namespace Command

/-! ### Parameters -/

/-- One parameter of a classic command, at its position. -/
def classifyParam (position : Nat) (raw : Json) : Validation Parameter := do
  let parameter ← Traced.lift
    (Checked.under (Parameter.classify raw) [.key "params", .index position])
  if parameter.isFallback then Traced.record (.keptOpaque parameter.name)
  return parameter

/-- The parameters of a classic command. -/
def classifyParams (params : List Json) : Validation (List Parameter) :=
  Traced.each classifyParam params

/-- The parameters of the versioned swap. -/
def classifyV4Params (params : List Json) : Validation (List V4.Parameter) :=
  Traced.lift (Checked.under (eachItem V4.Parameter.classify params) [.key "params"])

/-! ### Names and numbers -/

/-- The command of a table entry with the given raw parameters. -/
def ofKnown (known : CommandName) (params : List Json) : Validation Command :=
  match known with
  | .v2SwapExactIn => .v2SwapExactIn <$> classifyParams params
  | .v2SwapExactOut => .v2SwapExactOut <$> classifyParams params
  | .v3SwapExactIn => .v3SwapExactIn <$> classifyParams params
  | .v3SwapExactOut => .v3SwapExactOut <$> classifyParams params
  | .v4Swap => .v4Swap <$> classifyV4Params params
  | other => do
    let params ← classifyParams params
    return .fallback ⟨other.name, other.opcode, params⟩

/-- The command of a name outside the table. -/
def ofUnknown (policy : Policy) (header : Header) : Validation Command :=
  match policy.unknownNames with
  | .reject => Traced.fail (.shape [.key "commandName"] (.unknownCommand header.name))
  | .acceptAsFallback =>
    match CommandName.ofOpcode? header.number with
    | none => Traced.fail (.shape [.key "commandType"] (.unknownOpcode header.number))
    | some known => do
      Traced.record (.nameAdmitted header.name known.opcode)
      let params ← classifyParams header.params
      return .fallback ⟨header.name, known.opcode, params⟩

/-- The command of a header. -/
def ofHeader (policy : Policy) (header : Header) : Validation Command :=
  match CommandName.ofName? header.name with
  | some known =>
    if known.opcode.toNat = header.number then ofKnown known header.params
    else Traced.fail ⟨[], .tagOpcode header.name header.number⟩
  | none => ofUnknown policy header

/-- The command a raw value is, under a policy. -/
def classify (policy : Policy) (raw : Json) : Validation Command := do
  let header ← Traced.lift (Header.check raw)
  let command ← ofHeader policy header
  Traced.record (.classified command.name command.opcode header.params.length)
  return command

end Command

end RouterCall
