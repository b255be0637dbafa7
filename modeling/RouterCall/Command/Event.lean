import RouterCall.CommandName
import RouterCall.Log.Record
import RouterCall.Log.Traced
import RouterCall.Rejection

/-!
# Events of a validation

What a validation has to tell a log, apart from its result: commands recognised, parts kept without
a meaning, and how the call ended. The wording is in `ValidationEvent.record`.
-/

namespace RouterCall

/-- Something worth recording during a validation. -/
inductive ValidationEvent where
  /-- An unknown command name is kept, since its number is known. -/
  | nameAdmitted (name : String) (opcode : Opcode)
  /-- A parameter is kept without a meaning. -/
  | keptOpaque (name : String)
  /-- A command is recognised. -/
  | classified (name : String) (opcode : Opcode) (params : Nat)
  /-- A call is refused for one of its commands. -/
  | rejected (rejection : Rejection)
  /-- A call is accepted. -/
  | accepted (commands : Nat)

namespace ValidationEvent

/-- The source of records about single commands. -/
def commandSource : String := "router_validation::commands"

/-- The source of records about whole calls. -/
def callSource : String := "router_validation::call"

/-- The log record of an event. -/
def record : ValidationEvent → LogRecord
  | .nameAdmitted name opcode =>
    ⟨.warn, commandSource,
      "Admitting unknown command name '" ++ name ++ "' with opcode " ++ opcode.hex
        ++ " as fallback"⟩
  | .keptOpaque name =>
    ⟨.debug, commandSource, "Parameter '" ++ name ++ "' is not modeled, keeping it opaque"⟩
  | .classified name opcode params =>
    ⟨.debug, commandSource,
      "Classified command " ++ name ++ " (opcode " ++ opcode.hex ++ ") with " ++ toString params
        ++ " params"⟩
  | .rejected rejection => ⟨.debug, callSource, "Rejected router call: " ++ rejection.message⟩
  | .accepted commands =>
    ⟨.info, callSource, "Validated router call with " ++ toString commands ++ " commands"⟩

end ValidationEvent

/-- A check that records events on its way. -/
abbrev Validation (α : Type) := Traced ValidationEvent Rejection α

/-- Reports the rejection of an inner validation from an enclosing value. -/
def Validation.under {α : Type} (run : Validation α) (outer : FieldPath) : Validation α :=
  run.mapError (·.under outer)

end RouterCall
