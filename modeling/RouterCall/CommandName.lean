/-!
# The command table

The router knows twenty commands. Each has a name, which is the `commandName` on the wire, and a
number, which is its `commandType`. The pairing is fixed: a name with another command's number is
not a command.

The five swaps are the commands whose parameters and amounts this library understands in full.

## Main definitions

* `CommandName`: the table's entries
* `CommandName.name`, `CommandName.opcode`: its two columns
* `CommandName.ofName?`, `CommandName.ofOpcode?`: look-up by either column
* `CommandName.isSwap`: the swap family
-/

namespace RouterCall

/-- The number of a command on the wire. -/
abbrev Opcode := UInt8

/-- The commands of the table. -/
inductive CommandName where
  | v3SwapExactIn
  | v3SwapExactOut
  | permit2TransferFrom
  | permit2PermitBatch
  | sweep
  | transfer
  | payPortion
  | v2SwapExactIn
  | v2SwapExactOut
  | permit2Permit
  | wrapEth
  | unwrapWeth
  | permit2TransferFromBatch
  | balanceCheckErc20
  | v4Swap
  | v3PositionManagerPermit
  | v3PositionManagerCall
  | v4InitializePool
  | v4PositionManagerCall
  | executeSubPlan
deriving DecidableEq

namespace CommandName

/-- Every command, by increasing number. -/
def all : List CommandName :=
  [v3SwapExactIn, v3SwapExactOut, permit2TransferFrom, permit2PermitBatch, sweep, transfer,
    payPortion, v2SwapExactIn, v2SwapExactOut, permit2Permit, wrapEth, unwrapWeth,
    permit2TransferFromBatch, balanceCheckErc20, v4Swap, v3PositionManagerPermit,
    v3PositionManagerCall, v4InitializePool, v4PositionManagerCall, executeSubPlan]

/-- The number of a command. -/
def opcode : CommandName → Opcode
  | v3SwapExactIn => 0x00
  | v3SwapExactOut => 0x01
  | permit2TransferFrom => 0x02
  | permit2PermitBatch => 0x03
  | sweep => 0x04
  | transfer => 0x05
  | payPortion => 0x06
  | v2SwapExactIn => 0x08
  | v2SwapExactOut => 0x09
  | permit2Permit => 0x0a
  | wrapEth => 0x0b
  | unwrapWeth => 0x0c
  | permit2TransferFromBatch => 0x0d
  | balanceCheckErc20 => 0x0e
  | v4Swap => 0x10
  | v3PositionManagerPermit => 0x11
  | v3PositionManagerCall => 0x12
  | v4InitializePool => 0x13
  | v4PositionManagerCall => 0x14
  | executeSubPlan => 0x21

/-- The name of a command. -/
def name : CommandName → String
  | v3SwapExactIn => "V3_SWAP_EXACT_IN"
  | v3SwapExactOut => "V3_SWAP_EXACT_OUT"
  | permit2TransferFrom => "PERMIT2_TRANSFER_FROM"
  | permit2PermitBatch => "PERMIT2_PERMIT_BATCH"
  | sweep => "SWEEP"
  | transfer => "TRANSFER"
  | payPortion => "PAY_PORTION"
  | v2SwapExactIn => "V2_SWAP_EXACT_IN"
  | v2SwapExactOut => "V2_SWAP_EXACT_OUT"
  | permit2Permit => "PERMIT2_PERMIT"
  | wrapEth => "WRAP_ETH"
  | unwrapWeth => "UNWRAP_WETH"
  | permit2TransferFromBatch => "PERMIT2_TRANSFER_FROM_BATCH"
  | balanceCheckErc20 => "BALANCE_CHECK_ERC20"
  | v4Swap => "V4_SWAP"
  | v3PositionManagerPermit => "V3_POSITION_MANAGER_PERMIT"
  | v3PositionManagerCall => "V3_POSITION_MANAGER_CALL"
  | v4InitializePool => "V4_INITIALIZE_POOL"
  | v4PositionManagerCall => "V4_POSITION_MANAGER_CALL"
  | executeSubPlan => "EXECUTE_SUB_PLAN"

/-- The command of a name; case counts. -/
def ofName? (name : String) : Option CommandName := all.find? fun command => command.name = name

/-- The command of a number, which may be any natural number and is not cut to eight bits. -/
def ofOpcode? (opcode : Nat) : Option CommandName :=
  all.find? fun command => command.opcode.toNat = opcode

/-- Whether a command is one of the five swaps. -/
def isSwap : CommandName → Bool
  | v2SwapExactIn | v2SwapExactOut | v3SwapExactIn | v3SwapExactOut | v4Swap => true
  | _ => false

theorem mem_all (command : CommandName) : command ∈ all := by cases command <;> decide

@[simp] theorem ofName?_name (command : CommandName) : ofName? command.name = some command := by
  cases command <;> decide

@[simp] theorem ofOpcode?_opcode (command : CommandName) :
    ofOpcode? command.opcode.toNat = some command := by
  cases command <;> rfl

theorem name_of_ofName? {name : String} {command : CommandName} (h : ofName? name = some command) :
    command.name = name := by
  simpa using List.find?_some h

theorem opcode_of_ofOpcode? {opcode : Nat} {command : CommandName}
    (h : ofOpcode? opcode = some command) : command.opcode.toNat = opcode := by
  simpa using List.find?_some h

end CommandName

/-- The two hexadecimal digits of a command number after `0x`. -/
def Opcode.hex (opcode : Opcode) : String :=
  String.ofList ['0', 'x', Nat.digitChar (opcode.toNat / 16), Nat.digitChar (opcode.toNat % 16)]

end RouterCall
