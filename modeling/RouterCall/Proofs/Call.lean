import RouterCall.Call
import RouterCall.Proofs.Command

/-!
# The contract of a validation

A validation accepts exactly the raw calls of the wire format, what it accepts is written out as the
projection of the raw call, and what is written out is accepted again as the same call. None of
these statements mentions a reader: the first two compare a validation with the grammar and the
projections of `Wire`, and the last two compare it with itself.

A call made by hand can fall short in two ways only. An opaque parameter may have a modeled name,
and an opaque command may have a name and number that no raw command gets into an opaque command.

## Main definitions

* `Call.normalize`: what a raw call is written as after a validation

## Main results

* `Call.exists_validate_iff_isCall`: which raw calls are accepted
* `Call.callProjects_iff_eq_toJson`: what an accepted call is written as
* `Call.validate_toJson_iff`: which calls come back from the wire as they are
* `Call.validate_toJson_of_validate`: a validation leaves what it has accepted alone
-/

namespace RouterCall

namespace Call

/-! ### What a raw call is recognised as -/

theorem rawCommands_eq_ok_iff {raw : Json} {raws : List Json} :
    rawCommands raw = .ok raws ↔ ∃ members, raw = .object members ∧
      members.lookup "commands" = some (.array raws) := by
  rw [rawCommands.eq_def]
  cases raw with
  | object members =>
    simp only [Json.asObject?, Json.object.injEq, exists_eq_left']
    cases members.lookup "commands" with
    | none => simp
    | some found => cases found <;> simp
  | _ => simp [Json.asObject?]

theorem classifyCommands_eq_ok_iff {policy : Policy} {raws : List Json} {commands : List Command} :
    (classifyCommands policy raws).outcome = .ok commands ↔ List.Forall₂
      (fun raw command => (Command.classify policy raw).outcome = .ok command) raws commands := by
  refine Traced.outcome_each_eq_ok_iff fun position raw command => ?_
  exact under_eq_ok_iff

/-- A raw call is recognised as its raw commands are, one by one. -/
theorem validate_eq_ok_iff {policy : Policy} {raw : Json} {call : Call} :
    (validate policy raw).outcome = .ok call ↔ ∃ members raws, raw = .object members ∧
      members.lookup "commands" = some (.array raws) ∧ List.Forall₂
        (fun raw command => (Command.classify policy raw).outcome = .ok command) raws
        call.commands := by
  simp only [validate, Traced.outcome_bind, Traced.outcome_lift, Traced.outcome_recordFailure,
    Traced.outcome_pure, bind_eq_ok_iff, rawCommands_eq_ok_iff, classifyCommands_eq_ok_iff,
    Except.ok.injEq]
  constructor
  · rintro ⟨raws, ⟨members, rfl, listed⟩, commands, each, _, _, rfl⟩
    exact ⟨members, raws, rfl, listed, each⟩
  · rintro ⟨members, raws, rfl, listed, each⟩
    exact ⟨raws, ⟨members, rfl, listed⟩, call.commands, each, (), rfl, rfl⟩

/-- **A validation accepts exactly the raw calls of the wire format.** -/
theorem exists_validate_iff_isCall {policy : Policy} {raw : Json} :
    (∃ call, (validate policy raw).outcome = .ok call) ↔ Wire.IsCall policy raw := by
  simp only [validate_eq_ok_iff, Wire.IsCall, Command.isCommand_iff, ← exists_forall₂_iff]
  constructor
  · rintro ⟨call, members, raws, same, listed, each⟩
    exact ⟨members, raws, same, listed, call.commands, each⟩
  · rintro ⟨members, raws, same, listed, commands, each⟩
    exact ⟨⟨commands⟩, members, raws, same, listed, each⟩

/-! ### What a call is written as -/

theorem callProjects {policy : Policy} {raw : Json} {call : Call}
    (h : (validate policy raw).outcome = .ok call) : Wire.CallProjects raw call.toJson := by
  obtain ⟨members, raws, rfl, listed, each⟩ := validate_eq_ok_iff.mp h
  refine ⟨members, raws, _, rfl, listed, List.forall₂_map_right_iff.mpr ?_, rfl⟩
  exact each.imp fun _ _ => Command.projects

/-- A call that has every kind of part, with amounts in all encodings and members of no meaning. -/
def sampleRaw : Json := .object [
  ("deadline", .ofInt 1),
  ("commands", .array [
    .object [
      ("commandName", .string "V3_SWAP_EXACT_IN"),
      ("commandType", .ofInt 0),
      ("params", .array [
        .object [("name", .string "amountIn"), ("note", .null), ("value", .string "0x00Ff")],
        .object [("name", .string "path"), ("value", .array [
          .object [("fee", .ofInt 500), ("tokenIn", .string "0xaa"), ("tokenOut", .string "0xBB"),
            ("label", .bool true)]])],
        .object [("name", .string "recipient"), ("value", .object [("kept", .array [.null])])]])],
    .object [
      ("commandName", .string "V4_SWAP"),
      ("commandType", .ofInt 16),
      ("params", .array [
        .object [("name", .string "SWAP_EXACT_IN"), ("value", .array [
          .object [("name", .string "swap"), ("value", .object [
            ("currencyIn", .string "0x01"),
            ("path", .array [.object [
              ("intermediateCurrency", .string "0x02"), ("fee", .ofInt 3000),
              ("tickSpacing", .ofInt (-60)), ("hooks", .string "0x"), ("hookData", .string "")]]),
            ("amountIn", .object [("hex", .string "0x0a"), ("type", .string "BigNumber")]),
            ("amountOutMinimum", .string "007")])]])]])],
    .object [
      ("commandName", .string "NEW_COMMAND"),
      ("commandType", .ofInt 33),
      ("params", .array [.object [("name", .string "payerIsUser"), ("value", .bool false)]])]])]

/-- The call that `sampleRaw` is. -/
def sampleCall : Call := ⟨[
  .v3SwapExactIn [
    .amount .amountIn ⟨255⟩,
    .path [⟨⟨"0xaa", rfl⟩, ⟨"0xBB", rfl⟩, .low⟩],
    .fallback "recipient" (.object [("kept", .array [.null])])],
  .v4Swap [.exactIn [{
    currencyIn := ⟨"0x01", rfl⟩
    path := [⟨⟨"0x02", rfl⟩, 3000, -60, ⟨"0x", rfl⟩, ""⟩]
    amountIn := ⟨10⟩
    amountOutMinimum := ⟨7⟩ }]],
  .fallback ⟨"NEW_COMMAND", 33, [.payerIsUser false]⟩]⟩

/-- **An accepted call is written as the projection of the raw one, and as nothing else.** -/
theorem callProjects_iff_eq_toJson {policy : Policy} {raw : Json} {call : Call}
    (h : (validate policy raw).outcome = .ok call) :
    ∀ out, Wire.CallProjects raw out ↔ out = call.toJson := by
  intro out
  constructor
  · exact fun projects => Wire.CallProjects.unique projects (callProjects h)
  · rintro rfl
    exact callProjects h

theorem callProjects_iff_eq_toJson_sample :
    (validate .permissive sampleRaw).outcome = .ok sampleCall ∧
      ∀ out, Wire.CallProjects sampleRaw out ↔ out = sampleCall.toJson :=
  ⟨rfl, callProjects_iff_eq_toJson (show (validate .permissive sampleRaw).outcome = _ from rfl)⟩

/-! ### Calls read back -/

/-- What a raw call is written as after a validation. -/
def normalize (policy : Policy) (raw : Json) : Except Rejection Json :=
  toJson <$> (validate policy raw).outcome

/-- A call is read back when each of its commands is. -/
theorem validate_toJson_eq_ok_iff {policy : Policy} {call : Call} :
    (validate policy call.toJson).outcome = .ok call ↔
      ∀ command ∈ call.commands,
        (Command.classify policy command.toJson).outcome = .ok command := by
  rw [validate_eq_ok_iff]
  constructor
  · rintro ⟨members, raws, same, listed, each⟩
    cases same
    cases listed
    rwa [List.forall₂_map_left_iff, List.forall₂_same] at each
  · intro each
    refine ⟨_, _, rfl, rfl, ?_⟩
    rwa [List.forall₂_map_left_iff, List.forall₂_same]

/-- **A call comes back from the wire exactly when it is one that a validation can make.** No opaque
parameter has a modeled name. An opaque command has the name and the number of an entry that is no
swap, or, under the permissive policy, a name outside the table and the number of some entry. -/
theorem validate_toJson_iff {policy : Policy} {call : Call} :
    (validate policy call.toJson).outcome = .ok call ↔
      (∀ command ∈ call.commands, ∀ params, command.params? = some params →
        ∀ name value, .fallback name value ∈ params → name ∉ Wire.modeledNames) ∧
      (∀ kept, .fallback kept ∈ call.commands →
        (∃ known : CommandName, known.isSwap = false ∧ known.name = kept.name ∧
          known.opcode = kept.opcode) ∨
        (policy.unknownNames = .acceptAsFallback ∧
          (∀ entry : CommandName, entry.name ≠ kept.name) ∧
          ∃ entry : CommandName, entry.opcode = kept.opcode)) := by
  rw [validate_toJson_eq_ok_iff]
  simp only [Command.classify_toJson_iff]
  constructor
  · intro each
    refine ⟨fun command mem params held name value inside => ?_, fun kept mem => ?_⟩
    · exact (each command mem).2 params held _ inside name value rfl
    · exact Command.isAdmissible_fallback_iff.mp (each _ mem).1
  · rintro ⟨proper, admissible⟩ command mem
    constructor
    · obtain entry | ⟨kept, rfl⟩ := command.exists_isEntry_or_fallback
      · exact .inl entry
      · exact Command.isAdmissible_fallback_iff.mpr (admissible kept mem)
    · rintro params held _ inside name value rfl
      exact proper command mem params held name value inside

/-- **A validation leaves what it has accepted alone.** Written out and validated once more under
the same policy, it is the same call, and so normalising once is normalising for good. -/
theorem validate_toJson_of_validate {policy : Policy} {raw : Json} {call : Call}
    (h : (validate policy raw).outcome = .ok call) :
    (validate policy call.toJson).outcome = .ok call ∧
      normalize policy call.toJson = normalize policy raw := by
  obtain ⟨members, raws, rfl, listed, each⟩ := validate_eq_ok_iff.mp h
  have again : (validate policy call.toJson).outcome = .ok call := by
    refine validate_toJson_eq_ok_iff.mpr fun command mem => ?_
    obtain ⟨raw, read⟩ := exists_of_forall₂ each command mem
    exact Command.classify_toJson_of_classify read
  exact ⟨again, by rw [normalize, normalize, again, h]⟩

theorem validate_toJson_of_validate_sample :
    (validate .permissive sampleRaw).outcome = .ok sampleCall ∧
      (validate .permissive sampleCall.toJson).outcome = .ok sampleCall ∧
      normalize .permissive sampleCall.toJson = normalize .permissive sampleRaw :=
  ⟨rfl, validate_toJson_of_validate (show (validate .permissive sampleRaw).outcome = _ from rfl)⟩

end Call

end RouterCall
