import RouterCall.Proofs.Assembly
import RouterCall.Proofs.Call

/-!
# The order of checks

What a validation asks, and in which order, without what it builds and without its events: the
header of a command, then whether its name and number are admitted, then its parameters, each by the
union that the name picks. At every level the verdict is one equation between checks.

The checks above the values of parameters report shape faults, and a shape fault is always at the
value itself or at one of its keys.

## Main definitions

* `ShapeFault`: a shape fault at a value or at one of its keys
* `Command.permit`: whether a policy lets a name and a number through
* `Command.checkParam`: a parameter by the union of its command

## Main results

* `Command.verdict_classify`: the checks of a command
* `Call.verdict_validate`: the checks of a call
-/

namespace RouterCall

/-! ### Shape faults -/

/-- A shape fault of a value as a whole, or at one of some keys of an object. -/
inductive ShapeFault (keys : List String) : Json → Rejection → Prop
  | whole (raw : Json) (reason : Reason) : ShapeFault keys raw (.shape [] reason)
  | key (members : Members) {key : String} (mem : key ∈ keys) (reason : Reason) :
      ShapeFault keys (.object members) (.shape [.key key] reason)

theorem shapeFault_of_split {raw : Json} {e : Rejection} (h : Parameter.split raw = .error e) :
    ShapeFault ["name", "value"] raw e := by
  rw [Parameter.split.eq_def] at h
  cases raw with
  | object members =>
    simp only [Json.asObject?] at h
    split at h
    · cases h
      exact .key members (by decide) _
    · split at h
      · cases h
        exact .key members (by decide) _
      · cases h
    · cases h
      exact .key members (by decide) _
  | _ =>
    cases h
    exact .whole _ _

theorem shapeFault_of_header {raw : Json} {e : Rejection} (h : Header.check raw = .error e) :
    ShapeFault ["commandName", "commandType", "params"] raw e := by
  rw [Header.check.eq_def] at h
  cases raw with
  | object members =>
    simp only [Json.asObject?] at h
    -- the reader's tests in their order; each has one branch that goes on
    split at h
    · cases h
      exact .key members (by decide) _
    · split at h
      · cases h
        exact .key members (by decide) _
      · split at h
        · split at h
          · cases h
            exact .key members (by decide) _
          · cases h
          · cases h
            exact .key members (by decide) _
        · cases h
          exact .key members (by decide) _
    · cases h
      exact .key members (by decide) _
  | _ =>
    cases h
    exact .whole _ _

theorem shapeFault_of_rawCommands {raw : Json} {e : Rejection}
    (h : Call.rawCommands raw = .error e) : ShapeFault ["commands"] raw e := by
  rw [Call.rawCommands.eq_def] at h
  cases raw with
  | object members =>
    simp only [Json.asObject?] at h
    split at h
    · cases h
      exact .key members (by decide) _
    · cases h
    · cases h
      exact .key members (by decide) _
  | _ =>
    cases h
    exact .whole _ _

/-! ### Parameters -/

namespace Registry

variable {π : Type} (registry : Registry π)

theorem ofNamed_eq_error_iff {key : String} {raw : Json} {e : Rejection} :
    registry.ofNamed key raw = .error e ↔
      (registry.arm? key = none ∧ e = .shape [.key "name"] (.unknownSwapParameter key)) ∨
      ∃ arm inner, registry.arm? key = some arm ∧ arm.codec.read raw = .error inner ∧
        e = inner.under [.key "value"] := by
  rw [registry.ofNamed_eq]
  cases registry.arm? key with
  | none => simp [@eq_comm _ e]
  | some arm => simp [under_eq_error_iff, map_eq_error_iff]

theorem classify_eq_error_iff {raw : Json} {e : Rejection} :
    registry.classify raw = .error e ↔ Parameter.split raw = .error e ∨
      ∃ members key value, raw = .object members ∧
        members.lookup "name" = some (.string key) ∧ members.lookup "value" = some value ∧
        registry.ofNamed key value = .error e := by
  rw [classify, bind_eq_error_iff]
  refine or_congr_right ⟨?_, ?_⟩
  · rintro ⟨⟨key, value⟩, parts, h⟩
    obtain ⟨members, rfl, named, found⟩ := split_eq_ok_iff.mp parts
    exact ⟨members, key, value, rfl, named, found, h⟩
  · rintro ⟨members, key, value, rfl, named, found, h⟩
    exact ⟨(key, value), split_eq_ok_iff.mpr ⟨members, rfl, named, found⟩, h⟩

/-- A parameter with another value is read by the same arm. -/
theorem classify_put_value {members : Members} {key : String} {arm : Arm π}
    (named : members.lookup "name" = some (.string key)) (chosen : registry.arm? key = some arm)
    (value : Json) :
    registry.classify (.object (Members.put "value" value members)) =
      Checked.under (arm.make <$> arm.codec.read value) [.key "value"] := by
  have named' : (Members.put "value" value members).lookup "name" = some (.string key) := by
    rw [lookup_put_of_ne members (by decide), named]
  rw [classify, split_eq_ok_iff.mpr ⟨_, rfl, named', lookup_put_self _ _ _⟩]
  show registry.ofNamed key value = _
  rw [registry.ofNamed_eq, chosen]

end Registry

/-! ### Commands -/

theorem under_bind {α β : Type} (first : Checked α) (next : α → Checked β) (outer : FieldPath) :
    Checked.under (first >>= next) outer = first.under outer >>= fun a => (next a).under outer := by
  cases first <;> rfl

theorem under_under {α : Type} (checked : Checked α) (inner outer : FieldPath) :
    (checked.under inner).under outer = checked.under (outer ++ inner) := by
  cases checked with
  | ok a => rfl
  | error e => exact congrArg _ (e.under_under inner outer)

theorem Traced.outcome_map {ι ε α β : Type} (f : α → β) (run : Traced ι ε α) :
    (f <$> run).outcome = f <$> run.outcome := by
  show (run >>= fun a => pure (f a)).outcome = _
  rw [outcome_bind]
  cases run.outcome <;> rfl

/-- The outcome of a run over a list is the traversal of the list, when the outcome on an item is
its check reported from its position. -/
theorem Traced.outcome_each {ι α : Type} {run : ℕ → Json → Traced ι Rejection α}
    (read : Json → Checked α) (outer : FieldPath)
    (step : ∀ position item,
      (run position item).outcome = (read item).under (outer ++ [.index position]))
    (items : List Json) : (each run items).outcome = (eachItem read items).under outer := by
  suffices ∀ start, (eachFrom run start items).outcome =
      (eachItemFrom read start items).under outer from this 0
  induction items with
  | nil => exact fun _ => rfl
  | cons item items ih =>
    intro start
    simp only [eachFrom, eachItemFrom_cons, outcome_bind, step, ih, under_bind, under_under,
      outcome_pure]
    rfl

namespace Command

/-- Whether a policy lets the name and the number of a header through. -/
def permit (policy : Policy) (header : Header) : Checked Unit :=
  match CommandName.ofName? header.name with
  | some known =>
    if known.opcode.toNat = header.number then pure ()
    else .error ⟨[], .tagOpcode header.name header.number⟩
  | none =>
    match policy.unknownNames with
    | .reject => .error (.shape [.key "commandName"] (.unknownCommand header.name))
    | .acceptAsFallback =>
      match CommandName.ofOpcode? header.number with
      | none => .error (.shape [.key "commandType"] (.unknownOpcode header.number))
      | some _ => pure ()

/-- A parameter of a command of the given name, by the union that the name picks. -/
def checkParam (name : String) (raw : Json) : Checked Unit :=
  if name = CommandName.v4Swap.name then (V4.Parameter.classify raw).verdict
  else (Parameter.classify raw).verdict

/-- The parameters of a command of the given name. -/
def checkParams (name : String) (params : List Json) : Checked Unit :=
  (eachItem (checkParam name) params).verdict.under [.key "params"]

/-- A name and a number that are not let through are no value fault. -/
theorem shapeFault_of_permit {policy : Policy} {header : Header} {e : Rejection}
    (h : permit policy header = .error e) :
    e = ⟨[], .tagOpcode header.name header.number⟩ ∨
      ∀ members, ShapeFault ["commandName", "commandType"] (.object members) e := by
  rw [permit.eq_def] at h
  split at h
  · split at h
    · cases h
    · cases h
      exact .inl rfl
  · split at h
    · cases h
      exact .inr fun members => .key members (by decide) _
    · split at h
      · cases h
        exact .inr fun members => .key members (by decide) _
      · cases h

/-- The other fields of a header are those of the object, whatever its parameters are. -/
theorem header_put_params {members : Members} {header : Header}
    (h : Header.check (.object members) = .ok header) (params : List Json) :
    Header.check (.object (Members.put "params" (.array params) members)) =
      .ok ⟨header.name, header.number, params⟩ := by
  obtain ⟨_, ⟨⟩, named, numbered, small, -⟩ := Header.check_eq_ok_iff.mp h
  refine Header.check_eq_ok_iff.mpr ⟨_, rfl, ?_, ?_, small, lookup_put_self _ _ _⟩
  · rw [lookup_put_of_ne members (by decide), named]
  · rw [lookup_put_of_ne members (by decide), numbered]

theorem outcome_classifyParam (position : ℕ) (raw : Json) :
    (classifyParam position raw).outcome =
      (Parameter.classify raw).under [.key "params", .index position] := by
  simp only [classifyParam, Traced.outcome_bind, Traced.outcome_lift]
  cases Parameter.classify raw with
  | error e => rfl
  | ok parameter =>
    simp only [Checked.under_ok, bind, Except.bind]
    split <;> rfl

theorem checkParam_v4Swap :
    checkParam CommandName.v4Swap.name = fun raw => (V4.Parameter.classify raw).verdict := by
  funext raw
  rw [checkParam, if_pos rfl]

theorem checkParam_of_ne {name : String} (h : name ≠ CommandName.v4Swap.name) :
    checkParam name = fun raw => (Parameter.classify raw).verdict := by
  funext raw
  rw [checkParam, if_neg h]

/-- Whatever the name of a command, its parameters are read by one of the two unions. -/
theorem exists_registry (name : String) : ∃ (π : Type) (registry : Registry π),
    registry.IsBuilt ∧ checkParam name = fun raw => (registry.classify raw).verdict := by
  by_cases versioned : name = CommandName.v4Swap.name
  · subst versioned
    exact ⟨_, V4.Parameter.registry, V4.Parameter.isBuilt_registry, checkParam_v4Swap⟩
  · exact ⟨_, Parameter.registry, Parameter.isBuilt_registry, checkParam_of_ne versioned⟩

theorem checkParams_eq_error_iff {name : String} {params : List Json} {e : Rejection} :
    checkParams name params = .error e ↔ ∃ position param inner,
      FirstFault (checkParam name) params position param inner ∧
        e = inner.under [.key "params", .index position] := by
  simp only [checkParams, under_eq_error_iff, verdict_eq_error_iff, eachItem_eq_error_iff]
  constructor
  · rintro ⟨_, ⟨position, param, inner, fault, rfl⟩, rfl⟩
    exact ⟨position, param, inner, fault, rfl⟩
  · rintro ⟨position, param, inner, fault, rfl⟩
    exact ⟨_, ⟨position, param, inner, fault, rfl⟩, rfl⟩

theorem checkParams_eq_ok_iff {name : String} {params : List Json} :
    checkParams name params = .ok () ↔ ∀ param ∈ params, ∃ a, checkParam name param = .ok a := by
  rw [checkParams, under_eq_ok_iff, verdict_eq_ok_iff, exists_eachItem_eq_ok_iff]

theorem verdict_classifyParams {name : String} (h : name ≠ CommandName.v4Swap.name)
    (params : List Json) :
    Checked.verdict (classifyParams params).outcome = checkParams name params := by
  rw [classifyParams, Traced.outcome_each Parameter.classify [.key "params"] outcome_classifyParam,
    verdict_under, verdict_eachItem, checkParams, checkParam_of_ne h]

theorem verdict_classifyV4Params (params : List Json) :
    Checked.verdict (classifyV4Params params).outcome =
      checkParams CommandName.v4Swap.name params := by
  rw [classifyV4Params, Traced.outcome_lift, verdict_under, verdict_eachItem, checkParams,
    checkParam_v4Swap]

theorem verdict_ofKnown (known : CommandName) (params : List Json) :
    Checked.verdict (ofKnown known params).outcome = checkParams known.name params := by
  by_cases versioned : known = .v4Swap
  · subst versioned
    rw [← verdict_classifyV4Params, ofKnown, Traced.outcome_map, verdict_map]
  · rw [← verdict_classifyParams fun same => versioned (CommandName.name_injective same),
      ofKnown_of_ne versioned, Traced.outcome_map, verdict_map]

theorem ofHeader_of_known {policy : Policy} {header : Header} {known : CommandName}
    (found : CommandName.ofName? header.name = some known) :
    ofHeader policy header =
      if known.opcode.toNat = header.number then ofKnown known header.params
      else Traced.fail ⟨[], .tagOpcode header.name header.number⟩ := by
  rw [ofHeader, found]

theorem ofHeader_of_unknown {policy : Policy} {header : Header}
    (absent : CommandName.ofName? header.name = none) :
    ofHeader policy header = ofUnknown policy header := by
  rw [ofHeader, absent]

theorem verdict_ofUnknown {policy : Policy} {header : Header}
    (absent : CommandName.ofName? header.name = none) :
    Checked.verdict (ofUnknown policy header).outcome = (do
      permit policy header
      checkParams header.name header.params) := by
  have other : header.name ≠ CommandName.v4Swap.name :=
    fun same => CommandName.ofName?_eq_none_iff.mp absent .v4Swap same.symm
  rw [ofUnknown, permit, absent]
  cases policy.unknownNames with
  | reject => rfl
  | acceptAsFallback =>
    cases CommandName.ofOpcode? header.number with
    | none => rfl
    | some known =>
      rw [← verdict_classifyParams other]
      show Checked.verdict ((classifyParams header.params >>= fun params =>
        (pure _ : Validation Command)).outcome) = _
      rw [Traced.outcome_bind, verdict_bind]
      rfl

theorem verdict_ofHeader (policy : Policy) (header : Header) :
    Checked.verdict (ofHeader policy header).outcome = (do
      permit policy header
      checkParams header.name header.params) := by
  cases found : CommandName.ofName? header.name with
  | none => rw [ofHeader_of_unknown found, verdict_ofUnknown found]
  | some known =>
    rw [ofHeader_of_known found, permit, found]
    dsimp only
    split
    · rw [verdict_ofKnown, CommandName.name_of_ofName? found]
      rfl
    · rfl

/-- **The checks of a command.** -/
theorem verdict_classify (policy : Policy) (raw : Json) :
    Checked.verdict (classify policy raw).outcome = (do
      let header ← Header.check raw
      permit policy header
      checkParams header.name header.params) := by
  simp only [classify, Traced.outcome_bind, Traced.outcome_lift, verdict_bind]
  refine bind_congr fun header => ?_
  rw [← verdict_ofHeader]
  cases (ofHeader policy header).outcome <;> rfl

/-- **What a raw command is refused for**: its header, its name and number, or its parameters, and
each of them only when the ones before are in order. -/
theorem classify_eq_error_iff {policy : Policy} {raw : Json} {e : Rejection} :
    (classify policy raw).outcome = .error e ↔ Header.check raw = .error e ∨
      ∃ header, Header.check raw = .ok header ∧ (permit policy header = .error e ∨
        permit policy header = .ok () ∧ checkParams header.name header.params = .error e) := by
  rw [← verdict_eq_error_iff, verdict_classify]
  simp only [bind_eq_error_iff]
  refine or_congr_right (exists_congr fun header => and_congr_right fun _ => or_congr_right ?_)
  exact ⟨fun ⟨_, permitted, h⟩ => ⟨permitted, h⟩, fun ⟨permitted, h⟩ => ⟨(), permitted, h⟩⟩

theorem exists_classify_eq_ok_iff {policy : Policy} {raw : Json} :
    (∃ command, (classify policy raw).outcome = .ok command) ↔ ∃ header,
      Header.check raw = .ok header ∧ permit policy header = .ok () ∧
        checkParams header.name header.params = .ok () := by
  rw [← verdict_eq_ok_iff, verdict_classify]
  simp only [bind_eq_ok_iff]
  refine exists_congr fun header => and_congr_right fun _ => ?_
  exact ⟨fun ⟨_, permitted, h⟩ => ⟨permitted, h⟩, fun ⟨permitted, h⟩ => ⟨(), permitted, h⟩⟩

end Command

/-! ### Calls -/

/-- **The checks of a call.** -/
theorem Call.verdict_validate (policy : Policy) (raw : Json) :
    Checked.verdict (validate policy raw).outcome = (do
      let raws ← rawCommands raw
      Checked.under (eachItem (fun raw => (Command.classify policy raw).outcome) raws).verdict
        [.key "commands"]) := by
  simp only [validate, Traced.outcome_bind, Traced.outcome_lift, Traced.outcome_recordFailure,
    verdict_bind]
  refine bind_congr fun raws => ?_
  rw [classifyCommands, Traced.outcome_each (fun raw => (Command.classify policy raw).outcome)
    [.key "commands"] fun _ _ => rfl, ← verdict_under]
  cases Checked.under (eachItem (fun raw => (Command.classify policy raw).outcome) raws)
    [.key "commands"] <;> rfl

/-- **What a raw call is refused for**: having no array of commands, or the first of its commands
that is refused. -/
theorem Call.validate_eq_error_iff {policy : Policy} {raw : Json} {e : Rejection} :
    (validate policy raw).outcome = .error e ↔ rawCommands raw = .error e ∨
      ∃ raws, rawCommands raw = .ok raws ∧ ∃ position command inner,
        FirstFault (fun raw => (Command.classify policy raw).outcome) raws position command inner ∧
          e = inner.under [.key "commands", .index position] := by
  rw [← verdict_eq_error_iff, verdict_validate]
  simp only [bind_eq_error_iff, under_eq_error_iff, verdict_eq_error_iff, eachItem_eq_error_iff]
  refine or_congr_right (exists_congr fun raws => and_congr_right fun _ => ⟨?_, ?_⟩)
  · rintro ⟨_, ⟨position, command, inner, fault, rfl⟩, rfl⟩
    exact ⟨position, command, inner, fault, rfl⟩
  · rintro ⟨position, command, inner, fault, rfl⟩
    exact ⟨_, ⟨position, command, inner, fault, rfl⟩, rfl⟩

end RouterCall
