import RouterCall.Command.Classify

/-!
# Validating calls

A raw call is an object with an array `commands`. Its commands are recognised in order, and the
first that is refused refuses the call: there is no partial result. The empty call is a call.

## Main definitions

* `Call.validate`: the call a raw value is, under a policy
* `Call.validateText`: the same for JSON text
-/

namespace RouterCall

namespace Call

/-- The raw commands of a raw call. -/
def rawCommands (raw : Json) : Checked (List Json) :=
  match raw.asObject? with
  | none => .error (.shape [] (.expected "call object" raw.kind))
  | some members =>
    match members.lookup "commands" with
    | none => .error (.shape [.key "commands"] (.missing "commands"))
    | some (.array commands) => .ok commands
    | some other => .error (.shape [.key "commands"] (.expected "array" other.kind))

/-- The commands of a raw call. -/
def classifyCommands (policy : Policy) (commands : List Json) : Validation (List Command) :=
  Traced.each
    (fun position raw =>
      Validation.under (Command.classify policy raw) [.key "commands", .index position])
    commands

/-- The call a raw value is, under a policy. -/
def validate (policy : Policy) (raw : Json) : Validation Call := do
  let raws ← Traced.lift (rawCommands raw)
  let commands ← (classifyCommands policy raws).recordFailure .rejected
  Traced.record (.accepted commands.length)
  return ⟨commands⟩

/-- The call a JSON text is, under a policy. Malformed text is a shape fault of the whole. -/
def validateText (policy : Policy) (text : String) : Validation Call :=
  match Json.read text with
  | none => Traced.fail (.shape [] .malformedText)
  | some raw => validate policy raw

end Call

end RouterCall
