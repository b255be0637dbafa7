import RouterCall.Command.Classify

/-!
# What a swap trades, and what a call holds

Consumers of a call ask two questions. What does a swap commit to: the direction of the trade and
the amounts on its two sides. And how much of a call is understood: how many of its commands are
swaps, and how many commands and parameters were kept without a meaning.

An opaque parameter of a typed command is asked again what it is before it is taken at its word, so
one that was made by hand counts as an amount exactly when a raw parameter of that name and value
would.

## Main definitions

* `Parameter.resolve`, `Parameter.hasRole`
* `SwapAmounts`, `Command.swapAmounts?`
* `CallSummary`, `Call.summary`, `Call.swaps`
-/

namespace RouterCall

namespace Parameter

/-- An opaque parameter whose name is modeled and whose value fits is the modeled parameter; every
other parameter is itself. -/
def resolve : Parameter → Parameter
  | .fallback name value => match ofNamed name value with
    | .ok parameter => parameter
    | .error _ => .fallback name value
  | parameter => parameter

/-- The amount of a parameter that plays a role, opaque or not. -/
def roleAmount? (role : AmountRole) (parameter : Parameter) : Option Amount :=
  parameter.resolve.amountOf? role

/-- Whether a parameter plays a role, opaque or not. -/
def hasRole (role : AmountRole) (parameter : Parameter) : Bool :=
  (parameter.roleAmount? role).isSome

end Parameter

/-! ### Amounts of swaps -/

/-- Which side of a trade is fixed. -/
inductive TradeDirection where
  | exactIn
  | exactOut
deriving DecidableEq

/-- The name of a direction on the wire. -/
def TradeDirection.name : TradeDirection → String
  | exactIn => "exactIn"
  | exactOut => "exactOut"

/-- The two sides of a trade. The side that is not fixed is a bound. -/
structure SwapAmounts where
  direction : TradeDirection
  amountIn : Option Amount
  amountOut : Option Amount
deriving DecidableEq

/-- The two sides of a trade on the wire. -/
def SwapAmounts.toJson (amounts : SwapAmounts) : Json :=
  .object [
    ("direction", .string amounts.direction.name),
    ("amountIn", amounts.amountIn.elim .null Amount.toJson),
    ("amountOut", amounts.amountOut.elim .null Amount.toJson)]

/-- The amount of the first parameter that plays a role. -/
def findAmount (role : AmountRole) (params : List Parameter) : Option Amount :=
  params.findSome? (Parameter.roleAmount? role)

/-- The amounts of the first step of a versioned parameter. -/
def V4.Parameter.swapAmounts? : V4.Parameter → Option SwapAmounts
  | .exactIn steps => steps.head?.map fun step =>
    ⟨.exactIn, some step.amountIn, some step.amountOutMinimum⟩
  | .exactInSingle steps => steps.head?.map fun step =>
    ⟨.exactIn, some step.amountIn, some step.amountOutMinimum⟩
  | .exactOut steps => steps.head?.map fun step =>
    ⟨.exactOut, some step.amountInMaximum, some step.amountOut⟩
  | .exactOutSingle steps => steps.head?.map fun step =>
    ⟨.exactOut, some step.amountInMaximum, some step.amountOut⟩

/-- The two sides of a swap; `none` for other commands, and for a versioned swap without steps. -/
def Command.swapAmounts? : Command → Option SwapAmounts
  | .v2SwapExactIn params | .v3SwapExactIn params =>
    some ⟨.exactIn, findAmount .amountIn params, findAmount .amountOutMin params⟩
  | .v2SwapExactOut params | .v3SwapExactOut params =>
    some ⟨.exactOut, findAmount .amountInMax params, findAmount .amountOut params⟩
  | .v4Swap params => params.findSome? V4.Parameter.swapAmounts?
  | .fallback _ => none

/-- Whether a raw value is a swap, under the strict policy. -/
def Command.rawIsSwap (raw : Json) : Bool :=
  match (Command.classify {} raw).outcome with
  | .ok command => command.isSwap
  | .error _ => false

/-! ### Summaries -/

/-- How much of a call is understood. -/
structure CallSummary where
  commands : Nat
  swapCommands : Nat
  fallbackCommands : Nat
  fallbackParams : Nat
deriving DecidableEq

namespace CallSummary

/-- The summary of the empty call. -/
def empty : CallSummary := ⟨0, 0, 0, 0⟩

/-- The fieldwise sum of two summaries. -/
def add (a b : CallSummary) : CallSummary :=
  ⟨a.commands + b.commands, a.swapCommands + b.swapCommands,
    a.fallbackCommands + b.fallbackCommands, a.fallbackParams + b.fallbackParams⟩

instance : Add CallSummary := ⟨add⟩

/-- The summary of a call of one command. -/
def ofCommand (command : Command) : CallSummary where
  commands := 1
  swapCommands := if command.isSwap then 1 else 0
  fallbackCommands := if command.isFallback then 1 else 0
  fallbackParams := (command.params?.getD []).countP Parameter.isFallback

/-- Whether a call has a part without a meaning. -/
def hasUnsupportedParts (summary : CallSummary) : Bool :=
  summary.fallbackCommands > 0 || summary.fallbackParams > 0

/-- A summary on the wire. -/
def toJson (summary : CallSummary) : Json :=
  .object [
    ("commands", .ofInt summary.commands),
    ("swapCommands", .ofInt summary.swapCommands),
    ("fallbackCommands", .ofInt summary.fallbackCommands),
    ("fallbackParams", .ofInt summary.fallbackParams)]

end CallSummary

/-- The summary of a call. -/
def Call.summary (call : Call) : CallSummary :=
  call.commands.foldl (fun summary command => summary + .ofCommand command) .empty

/-- The swaps of a call, in execution order. -/
def Call.swaps (call : Call) : List Command := call.commands.filter Command.isSwap

end RouterCall
