import RouterCall.FieldPath
import RouterCall.FeeTier
import RouterCall.Json.Printer

/-!
# Rejections

A raw call, command or parameter that is refused is refused for one fault, at one field. A
`Rejection` is the path to that field and the fault. Faults come in three kinds, and the kind tells
a caller how far the check got:

* `shape`: the value is not a call, command or parameter at all
* `value`: the shape was recognised and a field in it is not what the shape demands
* `tagOpcode`: the name and the number of a command are both plausible and do not belong together

The wording of every fault is in `Reason.message` and `Rejection.message`, and nowhere else.

## Main definitions

* `Rejection`, `Fault`, `Reason`
* `Rejection.field`, `Rejection.message`: the texts a caller shows
* `Rejection.under`: moves a rejection below an enclosing path

## Main results

* `Rejection.field_under`: the text of the field is joined with the text of the path
* `Rejection.under_under`: moving twice is moving by the appended path
-/

namespace RouterCall

/-- Why a field is refused. -/
inductive Reason where
  /-- Another kind of value was due. -/
  | expected (what : String) (found : Json.Kind)
  /-- A number of another sort was due. -/
  | expectedNumber (what : String) (found : Json)
  /-- A key is absent. -/
  | missing (what : String)
  /-- A string does not begin with `0x`. -/
  | noHexMarker (key : String)
  /-- A value encodes no amount. -/
  | notAnAmount (found : Json)
  /-- An integer is no fee tier. -/
  | notAFeeTier (found : Int)
  /-- An entry of a swap parameter has another name than it must have. -/
  | notNamed (name : String)
  /-- A command name is not in the table. -/
  | unknownCommand (name : String)
  /-- A command number is not in the table. -/
  | unknownOpcode (number : Nat)
  /-- A parameter name is not one of the versioned swap's. -/
  | unknownSwapParameter (name : String)
  /-- A text is not JSON. -/
  | malformedText
  /-- A reason given in words. -/
  | stated (text : String)

/-- The wording of a reason. Behind `invalid JSON` the program repeats the words of its JSON library
about the text. They are the library's own, nothing else depends on them, and they are left out. -/
def Reason.message : Reason → String
  | .expected what found => "expected " ++ what ++ ", got " ++ found.word
  | .expectedNumber what found => "expected " ++ what ++ ", got " ++ found.compact
  | .missing what => "missing " ++ what
  | .noHexMarker key => key ++ " must start with '0x'"
  | .notAnAmount found => found.compact ++ " is not a non-negative big-integer string"
  | .notAFeeTier found =>
    toString found ++ " is not one of the fee tiers ["
      ++ ", ".intercalate (FeeTier.fees.map toString) ++ "]"
  | .notNamed name => "expected '" ++ name ++ "'"
  | .unknownCommand name => "'" ++ name ++ "' is not a known router command"
  | .unknownOpcode number => toString number ++ " is not a known router opcode"
  | .unknownSwapParameter name => "'" ++ name ++ "' is not a V4 swap parameter"
  | .malformedText => "invalid JSON"
  | .stated text => text

/-- What is wrong at a field. -/
inductive Fault where
  | shape (reason : Reason)
  | value (reason : Reason)
  | tagOpcode (name : String) (number : Nat)

/-- The three kinds of fault. -/
inductive Fault.Kind where
  | shapeMismatch
  | valueConstraintViolation
  | tagOpcodeInconsistency
deriving DecidableEq

/-- The kind of a fault. -/
def Fault.kind : Fault → Fault.Kind
  | .shape _ => .shapeMismatch
  | .value _ => .valueConstraintViolation
  | .tagOpcode _ _ => .tagOpcodeInconsistency

/-- A fault and the path to the field it lies in. -/
structure Rejection where
  path : FieldPath
  fault : Fault

namespace Rejection

/-- A shape fault. -/
def shape (path : FieldPath) (reason : Reason) : Rejection := ⟨path, .shape reason⟩

/-- A value fault. -/
def value (path : FieldPath) (reason : Reason) : Rejection := ⟨path, .value reason⟩

/-- The kind of the fault. -/
def kind (rejection : Rejection) : Fault.Kind := rejection.fault.kind

/-- The text of the path. -/
def field (rejection : Rejection) : String := rejection.path.render

/-- The whole text of a rejection. -/
def message (rejection : Rejection) : String :=
  match rejection.fault with
  | .shape reason => "Shape mismatch at '" ++ rejection.field ++ "': " ++ reason.message
  | .value reason => "Invalid value for field '" ++ rejection.field ++ "': " ++ reason.message
  | .tagOpcode name number =>
    "Command '" ++ name ++ "' at '" ++ rejection.field ++ "' does not correspond to opcode "
      ++ toString number

/-- The same fault, seen from an enclosing value. -/
def under (rejection : Rejection) (outer : FieldPath) : Rejection :=
  ⟨outer ++ rejection.path, rejection.fault⟩

@[simp] theorem under_nil (rejection : Rejection) : rejection.under [] = rejection := rfl

@[simp] theorem path_under (rejection : Rejection) (outer : FieldPath) :
    (rejection.under outer).path = outer ++ rejection.path := rfl

@[simp] theorem fault_under (rejection : Rejection) (outer : FieldPath) :
    (rejection.under outer).fault = rejection.fault := rfl

@[simp] theorem kind_under (rejection : Rejection) (outer : FieldPath) :
    (rejection.under outer).kind = rejection.kind := rfl

theorem under_under (rejection : Rejection) (inner outer : FieldPath) :
    (rejection.under inner).under outer = rejection.under (outer ++ inner) := by
  simp [under]

/-- The text of the field is joined with the text of the path. -/
theorem field_under (rejection : Rejection) (outer : FieldPath) :
    (rejection.under outer).field = FieldPath.join outer.render rejection.field :=
  FieldPath.render_append _ _

end Rejection

/-- A check: its result, or why the input is refused. -/
abbrev Checked (α : Type) := Except Rejection α

/-- Reports the rejection of an inner check from an enclosing value. -/
def Checked.under {α : Type} (checked : Checked α) (outer : FieldPath) : Checked α :=
  checked.mapError (·.under outer)

@[simp] theorem Checked.under_ok {α : Type} (a : α) (outer : FieldPath) :
    Checked.under (.ok a) outer = .ok a := rfl

@[simp] theorem Checked.under_error {α : Type} (rejection : Rejection) (outer : FieldPath) :
    (Checked.under (.error rejection) outer : Checked α) = .error (rejection.under outer) := rfl

end RouterCall
