import RouterCall.CommandName
import RouterCall.Policy
import RouterCall.Proofs.Schema

/-!
# The wire format of calls

The declared grammar of raw calls, level by level, and what each level is written as once it has
been read. The shapes of values are tables, one line a key. Above them stand the three levels at
which a name decides what follows: the name of a parameter picks the shape of its value, the name of
a command picks the union of its parameters, and name and number together must be admitted by the
policy.

A classic command takes a parameter of any name, and a name outside its union puts no demand on the
value. The versioned swap takes the four names of its own union only.

## Main definitions

* `Wire.hop`, `Wire.poolKey`, `Wire.pathKey`, …: the shapes of values
* `Wire.classicUnion`, `Wire.versionedUnion`: the two unions of parameters
* `Wire.IsCall`, `Wire.IsCommand`, `Wire.IsParameter`: the grammar of raw calls
* `Wire.CallProjects`, `Wire.CommandProjects`, `Wire.ParameterProjects`: what they are written as

## Main results

* `Wire.CallProjects.unique`: a raw call has one projection
-/

namespace RouterCall

namespace Wire

/-! ### Values -/

/-- A pool of a classic route. -/
def hop : Schema := .object [
  ("tokenIn", .hex),
  ("tokenOut", .hex),
  ("fee", .feeTier)]

/-- A pool by its full key; its `hooks` are any string. -/
def poolKey : Schema := .object [
  ("currency0", .hex),
  ("currency1", .hex),
  ("fee", .integer),
  ("tickSpacing", .integer),
  ("hooks", .text)]

/-- A pool as a hop of a versioned route. -/
def pathKey : Schema := .object [
  ("intermediateCurrency", .hex),
  ("fee", .integer),
  ("tickSpacing", .integer),
  ("hooks", .hex),
  ("hookData", .text)]

/-- An exact-in trade through one pool. -/
def exactInSingle : Schema := .object [
  ("poolKey", poolKey),
  ("zeroForOne", .boolean),
  ("amountIn", .amount),
  ("amountOutMinimum", .amount),
  ("sqrtPriceLimitX96", .amount),
  ("hookData", .text)]

/-- An exact-out trade through one pool. -/
def exactOutSingle : Schema := .object [
  ("poolKey", poolKey),
  ("zeroForOne", .boolean),
  ("amountOut", .amount),
  ("amountInMaximum", .amount),
  ("sqrtPriceLimitX96", .amount),
  ("hookData", .text)]

/-- An exact-in trade along a route. -/
def exactIn : Schema := .object [
  ("currencyIn", .hex),
  ("path", .list pathKey),
  ("amountIn", .amount),
  ("amountOutMinimum", .amount)]

/-- An exact-out trade along a route. -/
def exactOut : Schema := .object [
  ("currencyOut", .hex),
  ("path", .list pathKey),
  ("amountOut", .amount),
  ("amountInMaximum", .amount)]

/-- A step: the description of a trade in an object named `swap`. -/
def step (description : Schema) : Schema := .object [
  ("name", .constant "swap"),
  ("value", description)]

/-! ### Parameters -/

/-- The names that classic commands model, with the shapes of their values. -/
def classicUnion : List (String × Schema) := [
  ("amountIn", .amount),
  ("amountInMax", .amount),
  ("amountOut", .amount),
  ("amountOutMin", .amount),
  ("path", .list hop),
  ("payerIsUser", .boolean)]

/-- The names of the versioned swap, with the shapes of their values. -/
def versionedUnion : List (String × Schema) := [
  ("SWAP_EXACT_IN", .list (step exactIn)),
  ("SWAP_EXACT_OUT", .list (step exactOut)),
  ("SWAP_EXACT_IN_SINGLE", .list (step exactInSingle)),
  ("SWAP_EXACT_OUT_SINGLE", .list (step exactOutSingle))]

/-- The six names that classic commands model. -/
def modeledNames : List String := classicUnion.map Prod.fst

/-- The shape of the value of a classic parameter; a name that is not modeled may have any value. -/
def classic (name : String) : Option Schema := some ((classicUnion.lookup name).getD .anything)

/-- The shape of the value of a versioned parameter; `none` when there is no such parameter. -/
def versioned (name : String) : Option Schema := versionedUnion.lookup name

/-- The union that a command of the given name takes its parameters from. -/
def unionOf (commandName : String) : String → Option Schema :=
  if commandName = CommandName.v4Swap.name then versioned else classic

/-- A raw parameter of a union: an object with a string `name` of the union, and a `value` of the
shape that the name demands. -/
def IsParameter (union : String → Option Schema) (raw : Json) : Prop :=
  ∃ members name value schema, raw = .object members ∧
    members.lookup "name" = some (.string name) ∧ members.lookup "value" = some value ∧
    union name = some schema ∧ schema.Conforms value

/-- A raw parameter is written as its name and the projection of its value. -/
def ParameterProjects (union : String → Option Schema) (raw out : Json) : Prop :=
  ∃ members name value schema value', raw = .object members ∧
    members.lookup "name" = some (.string name) ∧ members.lookup "value" = some value ∧
    union name = some schema ∧ schema.Projects value value' ∧
    out = .object [("name", .string name), ("value", value')]

/-! ### Commands -/

/-- A name and a number that a policy admits: those of one entry of the table, or, under the
permissive policy, a name outside the table with the number of some entry. -/
def Admitted (policy : Policy) (name : String) (number : ℕ) : Prop :=
  (∃ entry : CommandName, entry.name = name ∧ entry.opcode.toNat = number) ∨
    (policy.unknownNames = .acceptAsFallback ∧ (∀ entry : CommandName, entry.name ≠ name) ∧
      ∃ entry : CommandName, entry.opcode.toNat = number)

/-- A raw command: an object with a string `commandName`, an unsigned 64-bit integer `commandType`
that goes with it, and an array `params` of parameters of the command's union. -/
def IsCommand (policy : Policy) (raw : Json) : Prop :=
  ∃ (members : Members) (name : String) (number : ℕ) (params : List Json),
    raw = .object members ∧ members.lookup "commandName" = some (.string name) ∧
    members.lookup "commandType" = some (.ofInt number) ∧ number < 2 ^ 64 ∧
    members.lookup "params" = some (.array params) ∧ Admitted policy name number ∧
    ∀ param ∈ params, IsParameter (unionOf name) param

/-- A raw command is written with its name and number as they are and its parameters projected. -/
def CommandProjects (raw out : Json) : Prop :=
  ∃ (members : Members) (name : String) (number : Json) (params params' : List Json),
    raw = .object members ∧ members.lookup "commandName" = some (.string name) ∧
    members.lookup "commandType" = some number ∧
    members.lookup "params" = some (.array params) ∧
    List.Forall₂ (ParameterProjects (unionOf name)) params params' ∧
    out = .object [
      ("commandName", .string name), ("commandType", number), ("params", .array params')]

/-! ### Calls -/

/-- A raw call: an object with an array `commands` of commands. -/
def IsCall (policy : Policy) (raw : Json) : Prop :=
  ∃ members commands, raw = .object members ∧
    members.lookup "commands" = some (.array commands) ∧
    ∀ command ∈ commands, IsCommand policy command

/-- A raw call is written as its commands projected. -/
def CallProjects (raw out : Json) : Prop :=
  ∃ members commands commands', raw = .object members ∧
    members.lookup "commands" = some (.array commands) ∧
    List.Forall₂ CommandProjects commands commands' ∧
    out = .object [("commands", .array commands')]

/-! ### One projection -/

theorem ParameterProjects.unique (union : String → Option Schema) :
    Relator.RightUnique (ParameterProjects union) := by
  rintro raw out out'
    ⟨members, name, value, schema, value', rfl, named, found, chosen, projects, rfl⟩
    ⟨_, _, _, _, _, same, named', found', chosen', projects', rfl⟩
  cases same
  cases named.symm.trans named'
  cases found.symm.trans found'
  cases chosen.symm.trans chosen'
  rw [projects.unique projects']

theorem CommandProjects.unique : Relator.RightUnique CommandProjects := by
  rintro raw out out' ⟨members, name, number, params, _, rfl, named, numbered, listed, each, rfl⟩
    ⟨_, _, _, _, _, same, named', numbered', listed', each', rfl⟩
  cases same
  cases named.symm.trans named'
  cases numbered.symm.trans numbered'
  cases listed.symm.trans listed'
  rw [(ParameterProjects.unique _).forall₂ each each']

/-- **A raw call has one projection.** -/
theorem CallProjects.unique : Relator.RightUnique CallProjects := by
  rintro raw out out' ⟨members, commands, _, rfl, listed, each, rfl⟩
    ⟨_, _, _, same, listed', each', rfl⟩
  cases same
  cases listed.symm.trans listed'
  rw [CommandProjects.unique.forall₂ each each']

end Wire

end RouterCall
