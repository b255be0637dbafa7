import RouterCall.Proofs.FaultKind
import RouterCall.Proofs.Summary

/-!
# What a validation records

The events of a validation follow its run. A run over a list records what each item records, in
order, up to the first item that is refused, and of that item what was recorded before it was. This
holds of the parameters of a command and of the commands of a call, and it is shown once, in
`Traced.each_cases`.

What an accepted command records is a matter of the typed command: that its name was admitted, when
the table has not got it; each parameter that is kept opaque; and last that it is recognised. A
command that is refused leaves no typed command behind. It records nothing unless its header is in
order and admitted. If it is, the command is refused for a parameter, and records the admission and
the opaque ones among the parameters before, without the last event.

An admission is recorded when the parameters are about to be read, so a name outside the table is
not enough for it: the array of parameters has to be there as well.

## Main definitions

* `Parameter.trace`, `Command.trace`: what is recorded of an accepted parameter or command
* `Command.BreaksOff`, `Call.BreaksOff`: what is recorded of a refused command or call

## Main results

* `Command.events_of_classify`, `Command.breaksOff_of_classify`: the events of one command
* `Call.events_of_validate`, `Call.breaksOff_of_validate`: the events of a call
* `Call.validate_traces`: which events a validation records, with their number and their wording
-/

namespace RouterCall

/-! ### Runs over lists -/

namespace Traced

variable {ι ε α β : Type}

theorem events_map (f : α → β) (run : Traced ι ε α) : (f <$> run).events = run.events := by
  show (run >>= fun a => pure (f a)).events = _
  cases done : run.outcome with
  | error e => rw [bind_of_error done]
  | ok a => rw [bind_of_ok done, events_pure, List.append_nil]

/-- **A run over a list records what its items record, up to the first failure.** What an item
records may be read off its result; what the failing one records, it has recorded on its own. -/
theorem each_cases {relation : α → β → Prop} {trace : β → List ι} {run : ℕ → α → Traced ι ε β}
    (step : ∀ position a b, (run position a).outcome = .ok b →
      relation a b ∧ (run position a).events = trace b) (items : List α) :
    (∃ bs, List.Forall₂ relation items bs ∧ each run items = ⟨bs.flatMap trace, .ok bs⟩) ∨
    ∃ position item e bs, items[position]? = some item ∧
      (run position item).outcome = .error e ∧
      List.Forall₂ relation (items.take position) bs ∧
      each run items = ⟨bs.flatMap trace ++ (run position item).events, .error e⟩ := by
  -- the induction is on the items, from any first position
  suffices ∀ start,
      (∃ bs, List.Forall₂ relation items bs ∧
        eachFrom run start items = ⟨bs.flatMap trace, .ok bs⟩) ∨
      ∃ position item e bs, items[position]? = some item ∧
        (run (start + position) item).outcome = .error e ∧
        List.Forall₂ relation (items.take position) bs ∧
        eachFrom run start items =
          ⟨bs.flatMap trace ++ (run (start + position) item).events, .error e⟩ by
    simpa only [each, Nat.zero_add] using this 0
  induction items with
  | nil => exact fun start => .inl ⟨[], .nil, rfl⟩
  | cons a items ih =>
    intro start
    rw [eachFrom]
    cases done : (run start a).outcome with
    | error e =>
      refine .inr ⟨0, a, e, [], rfl, done, .nil, ?_⟩
      rw [bind_of_error done]
      rfl
    | ok b =>
      obtain ⟨related, recorded⟩ := step start a b done
      rw [bind_of_ok done, recorded]
      obtain ⟨bs, each, rest⟩ | ⟨position, item, e, bs, found, refused, each, rest⟩ :=
        ih (start + 1)
      · refine .inl ⟨b :: bs, .cons related each, ?_⟩
        rw [rest, List.flatMap_cons]
        show Traced.mk (trace b ++ (bs.flatMap trace ++ [])) _ = _
        rw [List.append_nil]
        rfl
      · rw [Nat.add_right_comm] at refused rest
        refine .inr ⟨position + 1, item, e, b :: bs, found, refused, .cons related each, ?_⟩
        rw [rest, List.flatMap_cons, List.append_assoc]
        rfl

end Traced

/-! ### Events -/

namespace ValidationEvent

/-- The event of a command that is recognised. -/
def isClassified : ValidationEvent → Bool
  | .classified _ _ _ => true
  | _ => false

/-- The event of a parameter that is kept without a meaning. -/
def isKeptOpaque : ValidationEvent → Bool
  | .keptOpaque _ => true
  | _ => false

/-- Only the acceptance of a call is news. -/
theorem level_eq_info_iff {event : ValidationEvent} :
    event.record.level = .info ↔ ∃ commands, event = .accepted commands := by
  cases event <;> simp [record]

end ValidationEvent

/-! ### Parameters -/

/-- What is recorded of a parameter: its name, when it is kept without a meaning. -/
def Parameter.trace (param : Parameter) : List ValidationEvent :=
  if param.isFallback then [.keptOpaque param.name] else []

namespace Command

open RouterCall.Wire (HasHeader)

theorem classifyParam_of_ok {raw : Json} {param : Parameter}
    (read : Parameter.classify raw = .ok param) (position : ℕ) :
    classifyParam position raw = ⟨param.trace, .ok param⟩ := by
  rw [classifyParam, read, Checked.under_ok, Traced.bind_of_ok (Traced.outcome_lift _),
    Parameter.trace]
  cases param.isFallback <;> rfl

theorem classifyParam_of_error {raw : Json} {e : Rejection}
    (refused : Parameter.classify raw = .error e) (position : ℕ) :
    classifyParam position raw = ⟨[], .error (e.under [.key "params", .index position])⟩ := by
  rw [classifyParam, refused]
  rfl

/-- **Reading parameters records the opaque ones**, up to the first that is refused. -/
theorem classifyParams_cases (params : List Json) :
    (∃ read, Parameter.registry.ReadsAll params read ∧
      classifyParams params = ⟨read.flatMap Parameter.trace, .ok read⟩) ∨
    ∃ position param inner read, FirstFault Parameter.classify params position param inner ∧
      Parameter.registry.ReadsAll (params.take position) read ∧
      classifyParams params = ⟨read.flatMap Parameter.trace,
        .error (inner.under [.key "params", .index position])⟩ := by
  have step (position : ℕ) (raw : Json) (param : Parameter)
      (h : (classifyParam position raw).outcome = .ok param) :
      Parameter.registry.classify raw = .ok param ∧
        (classifyParam position raw).events = param.trace := by
    have read := classifyParam_eq_ok_iff.mp h
    exact ⟨read, by rw [classifyParam_of_ok read]⟩
  obtain done | ⟨position, param, e, read, found, refused, each, run⟩ :=
    Traced.each_cases step params
  · exact .inl done
  · cases outcome : Parameter.classify param with
    | ok _ =>
      rw [classifyParam_of_ok outcome] at refused
      cases refused
    | error inner =>
      rw [classifyParam_of_error outcome] at refused run
      cases refused
      refine .inr ⟨position, param, inner, read, ⟨found, outcome, ?_⟩, each, ?_⟩
      · exact exists_forall₂_iff.mp ⟨read, each⟩
      · rw [List.append_nil] at run
        exact run

/-! ### Commands -/

/-- What is recorded of a name: that it is admitted, when the table has not got it. -/
def admissionTrace (name : String) (opcode : Opcode) : List ValidationEvent :=
  if CommandName.ofName? name = none then [.nameAdmitted name opcode] else []

/-- What is recorded of a command before it is recognised, if it has the given parameters. -/
def opening (name : String) (opcode : Opcode) (params : List Parameter) : List ValidationEvent :=
  admissionTrace name opcode ++ params.flatMap Parameter.trace

/-- What is recorded of a command that is recognised. -/
def trace (command : Command) : List ValidationEvent :=
  opening command.name command.opcode (command.params?.getD []) ++
    [.classified command.name command.opcode command.paramsJson.length]

/-- What is recorded of a raw command that is refused. -/
inductive BreaksOff (policy : Policy) (raw : Json) (e : Rejection) : List ValidationEvent → Prop
  /-- The parameters are not read, since the header is not in order or not admitted. -/
  | unread (refused : ∀ name number params, HasHeader raw name number params →
      ¬ Wire.Admitted policy name number) : BreaksOff policy raw e []
  /-- The versioned swap is refused for a parameter; none of them is ever opaque. -/
  | versioned {number position : ℕ} {params : List Json} {param : Json} {inner : Rejection}
      (header : HasHeader raw CommandName.v4Swap.name number params)
      (admitted : Wire.Admitted policy CommandName.v4Swap.name number)
      (fault : FirstFault V4.Parameter.classify params position param inner)
      (rejection : e = inner.under [.key "params", .index position]) : BreaksOff policy raw e []
  /-- Another command is refused for a parameter, when those before it have been read. -/
  | classic {name : String} {number position : ℕ} {params : List Json} {param : Json}
      {inner : Rejection} {opcode : Opcode} {read : List Parameter}
      (header : HasHeader raw name number params) (other : name ≠ CommandName.v4Swap.name)
      (admitted : Wire.Admitted policy name number) (numbered : opcode.toNat = number)
      (fault : FirstFault Parameter.classify params position param inner)
      (rejection : e = inner.under [.key "params", .index position])
      (each : Parameter.registry.ReadsAll (params.take position) read) :
      BreaksOff policy raw e (opening name opcode read)

theorem admissionTrace_of_known {name : String} {known : CommandName}
    (found : CommandName.ofName? name = some known) (opcode : Opcode) :
    admissionTrace name opcode = [] := by
  rw [admissionTrace, found, if_neg (Option.some_ne_none known)]

theorem admissionTrace_of_unknown {name : String} (absent : CommandName.ofName? name = none)
    (opcode : Opcode) : admissionTrace name opcode = [.nameAdmitted name opcode] := by
  rw [admissionTrace, if_pos absent]

section Header

variable {policy : Policy} {name : String} {number : ℕ}

/-- A header that is not admitted leaves no trace. -/
theorem events_ofHeader_of_not_admitted (refused : ¬ Wire.Admitted policy name number)
    (params : List Json) : (ofHeader policy ⟨name, number, params⟩).events = [] := by
  cases found : CommandName.ofName? name with
  | some known =>
    have other : known.opcode.toNat ≠ number := fun same =>
      refused (.inl ⟨known, CommandName.name_of_ofName? found, same⟩)
    rw [ofHeader_of_known found, if_neg other]
    rfl
  | none =>
    rw [ofHeader_of_unknown found, ofUnknown]
    cases treatment : policy.unknownNames with
    | reject => rfl
    | acceptAsFallback =>
      dsimp only
      cases numbered : CommandName.ofOpcode? number with
      | none => rfl
      | some known =>
        exact absurd (.inr ⟨treatment, CommandName.ofName?_eq_none_iff.mp found, known,
          CommandName.opcode_of_ofOpcode? numbered⟩) refused

/-- The versioned swap has its parameters read by its own union. -/
theorem ofHeader_v4Swap (admitted : Wire.Admitted policy CommandName.v4Swap.name number)
    (params : List Json) :
    ofHeader policy ⟨CommandName.v4Swap.name, number, params⟩ =
      .v4Swap <$> classifyV4Params params := by
  obtain ⟨known, named, numbered⟩ | ⟨-, unknown, -⟩ := admitted
  · obtain rfl := CommandName.name_injective named
    rw [ofHeader_of_known (CommandName.ofName?_name .v4Swap), if_pos numbered]
    rfl
  · exact absurd rfl (unknown .v4Swap)

/-- Any other command leaves the trace of its parameters, behind that of its name. -/
theorem ofHeader_of_classic (other : name ≠ CommandName.v4Swap.name)
    (admitted : Wire.Admitted policy name number) (params : List Json) :
    ∃ (opcode : Opcode) (make : List Parameter → Command), opcode.toNat = number ∧
      ofHeader policy ⟨name, number, params⟩ =
        ⟨admissionTrace name opcode ++ (classifyParams params).events,
          make <$> (classifyParams params).outcome⟩ := by
  obtain ⟨known, rfl, numbered⟩ | ⟨permissive, unknown, known, numbered⟩ := admitted
  · have found := CommandName.ofName?_name known
    refine ⟨known.opcode, ofParams known, numbered, ?_⟩
    rw [ofHeader_of_known found, if_pos numbered, admissionTrace_of_known found, List.nil_append,
      ofKnown_of_ne fun same => other (congrArg _ same), ← Traced.events_map (ofParams known),
      ← Traced.outcome_map]
  · have found := CommandName.ofName?_eq_none_iff.mpr unknown
    have opcode : CommandName.ofOpcode? number = some known := by
      rw [← numbered, CommandName.ofOpcode?_opcode]
    refine ⟨known.opcode, fun params => .fallback ⟨name, known.opcode, params⟩, numbered, ?_⟩
    rw [ofHeader_of_unknown found, ofUnknown, permissive, admissionTrace_of_unknown found]
    simp only [opcode]
    rw [← Traced.events_map, ← Traced.outcome_map]
    rfl

end Header

theorem events_classifyParams {raws : List Json} {params : List Parameter}
    (each : Parameter.registry.ReadsAll raws params) :
    (classifyParams raws).events = params.flatMap Parameter.trace := by
  have accepted := classifyParams_eq_ok_iff.mpr each
  obtain ⟨read, -, run⟩ | ⟨_, _, _, _, -, -, run⟩ := classifyParams_cases raws
  · rw [run] at accepted ⊢
    cases accepted
    rfl
  · rw [run] at accepted
    cases accepted

variable {policy : Policy} {raw : Json}

/-- **What a recognised command records.** -/
theorem events_of_classify {command : Command} (h : (classify policy raw).outcome = .ok command) :
    (classify policy raw).events = command.trace := by
  obtain ⟨raws, checked, admissible, reads⟩ := classify_eq_ok_iff.mp h
  have made : (ofHeader policy ⟨command.name, command.opcode.toNat, raws⟩).outcome = .ok command :=
    ofHeader_eq_ok_iff.mpr ⟨rfl, rfl, admissible, reads⟩
  have opened : (ofHeader policy ⟨command.name, command.opcode.toNat, raws⟩).events =
      opening command.name command.opcode (command.params?.getD []) := by
    cases reads with
    | classic held each =>
      obtain ⟨opcode, make, numbered, run⟩ :=
        ofHeader_of_classic (admissible.name_ne_of_params? held) admissible.admitted raws
      obtain rfl : opcode = command.opcode := UInt8.toNat_inj.mp numbered
      rw [run, events_classifyParams each, held]
      rfl
    | versioned held _ =>
      obtain rfl := v4Params?_eq_some_iff.mp held
      show (ofHeader policy ⟨CommandName.v4Swap.name, _, raws⟩).events =
        admissionTrace CommandName.v4Swap.name CommandName.v4Swap.opcode
      rw [ofHeader_v4Swap admissible.admitted, Traced.events_map,
        admissionTrace_of_known (CommandName.ofName?_name .v4Swap)]
      rfl
  rw [classify, checked, Traced.bind_of_ok (Traced.outcome_lift _), Traced.bind_of_ok made, opened,
    trace, reads.length_paramsJson]
  rfl

theorem check_of_hasHeader {name : String} {number : ℕ} {params : List Json}
    (h : HasHeader raw name number params) : Header.check raw = .ok ⟨name, number, params⟩ :=
  check_eq_ok_iff_hasHeader.mpr h

theorem hasHeader_unique {name name' : String} {number number' : ℕ} {params params' : List Json}
    (h : HasHeader raw name number params) (h' : HasHeader raw name' number' params') :
    name = name' ∧ number = number' ∧ params = params' := by
  cases (check_of_hasHeader h).symm.trans (check_of_hasHeader h')
  exact ⟨rfl, rfl, rfl⟩

/-- **What a refused command records.** -/
theorem breaksOff_of_classify {e : Rejection} (h : (classify policy raw).outcome = .error e) :
    BreaksOff policy raw e (classify policy raw).events := by
  cases checked : Header.check raw with
  | error e' =>
    have run : classify policy raw = ⟨[], .error e'⟩ := by
      rw [classify, checked]
      rfl
    rw [run]
    refine .unread fun name number params header => ?_
    cases checked.symm.trans (check_of_hasHeader header)
  | ok header =>
    obtain ⟨name, number, params⟩ := header
    have header : HasHeader raw name number params := check_eq_ok_iff_hasHeader.mp checked
    -- nothing is recorded of a command that is not made, besides what its making records
    cases made : (ofHeader policy ⟨name, number, params⟩).outcome with
    | ok command =>
      rw [classify, checked, Traced.bind_of_ok (Traced.outcome_lift _), Traced.bind_of_ok made] at h
      cases h
    | error e' =>
      rw [classify, checked, Traced.bind_of_ok (Traced.outcome_lift _), Traced.events_lift,
        List.nil_append, Traced.bind_of_error made] at h ⊢
      cases h
      by_cases admitted : Wire.Admitted policy name number
      · by_cases versioned : name = CommandName.v4Swap.name
        · subst versioned
          rw [ofHeader_v4Swap admitted] at made ⊢
          rw [Traced.outcome_map, map_eq_error_iff, classifyV4Params, Traced.outcome_lift,
            under_eq_error_iff] at made
          obtain ⟨_, refused, rfl⟩ := made
          obtain ⟨position, param, inner, fault, rfl⟩ := eachItem_eq_error_iff.mp refused
          rw [Traced.events_map]
          exact .versioned header admitted fault rfl
        · obtain ⟨opcode, make, numbered, run⟩ := ofHeader_of_classic versioned admitted params
          rw [run] at made ⊢
          obtain ⟨read, -, read'⟩ | ⟨position, param, inner, read, fault, each, read'⟩ :=
            classifyParams_cases params
          · rw [read'] at made
            cases made
          · rw [read'] at made ⊢
            cases made
            exact .classic header versioned admitted numbered fault rfl each
      · rw [events_ofHeader_of_not_admitted admitted]
        refine .unread fun name' number' params' header' => ?_
        obtain ⟨rfl, rfl, rfl⟩ := hasHeader_unique header header'
        exact admitted

theorem mem_opening_iff {name : String} {opcode : Opcode} {params : List Parameter}
    {event : ValidationEvent} :
    event ∈ opening name opcode params ↔
      (CommandName.ofName? name = none ∧ event = .nameAdmitted name opcode) ∨
      ∃ param ∈ params, param.isFallback = true ∧ event = .keptOpaque param.name := by
  have announced : event ∈ admissionTrace name opcode ↔
      CommandName.ofName? name = none ∧ event = .nameAdmitted name opcode := by
    rw [admissionTrace]
    split <;> simp_all
  have kept (param : Parameter) :
      event ∈ param.trace ↔ param.isFallback = true ∧ event = .keptOpaque param.name := by
    rw [Parameter.trace]
    split <;> simp_all
  simp only [opening, List.mem_append, announced, List.mem_flatMap, kept]

/-- **A refused command records that its name is admitted exactly when its header is in order and
admitted for a name outside the table.** -/
theorem BreaksOff.nameAdmitted_mem_iff {e : Rejection} {events : List ValidationEvent}
    (h : BreaksOff policy raw e events) {name : String} {opcode : Opcode} :
    .nameAdmitted name opcode ∈ events ↔
      (∃ params, HasHeader raw name opcode.toNat params) ∧
        (∀ entry : CommandName, entry.name ≠ name) ∧
        policy.unknownNames = .acceptAsFallback ∧
        ∃ entry : CommandName, entry.opcode.toNat = opcode.toNat := by
  cases h with
  | unread refused =>
    constructor
    · rintro ⟨⟩
    · rintro ⟨⟨params, header⟩, unknown, permissive, known⟩
      exact absurd (.inr ⟨permissive, unknown, known⟩) (refused _ _ _ header)
  | versioned header =>
    constructor
    · rintro ⟨⟩
    · rintro ⟨⟨params, header'⟩, unknown, -⟩
      exact absurd (hasHeader_unique header header').1 (unknown .v4Swap)
  | classic header _ admitted numbered =>
    rw [mem_opening_iff, CommandName.ofName?_eq_none_iff]
    constructor
    · rintro (⟨unknown, ⟨⟩⟩ | ⟨_, _, _, ⟨⟩⟩)
      obtain ⟨known, named, -⟩ | ⟨permissive, -, known, same⟩ := admitted
      · exact absurd named (unknown known)
      · exact ⟨⟨_, numbered ▸ header⟩, unknown, permissive, known, same.trans numbered.symm⟩
    · rintro ⟨⟨params, header'⟩, unknown, -⟩
      obtain ⟨rfl, same, rfl⟩ := hasHeader_unique header header'
      cases UInt8.toNat_inj.mp (numbered.trans same)
      exact .inl ⟨unknown, rfl⟩

/-- Only an accepted call is recorded as accepted. -/
theorem accepted_notMem_trace (command : Command) (n : ℕ) : .accepted n ∉ command.trace := by
  simp [trace, mem_opening_iff]

theorem BreaksOff.accepted_notMem {e : Rejection} {events : List ValidationEvent}
    (h : BreaksOff policy raw e events) (n : ℕ) : .accepted n ∉ events := by
  cases h with
  | unread => exact List.not_mem_nil
  | versioned => exact List.not_mem_nil
  | classic => simp [mem_opening_iff]

/-- A recognised command is recorded as recognised once. -/
theorem countP_isClassified_trace (command : Command) :
    command.trace.countP ValidationEvent.isClassified = 1 := by
  have none : (opening command.name command.opcode (command.params?.getD [])).countP
      ValidationEvent.isClassified = 0 := by
    simp only [List.countP_eq_zero, mem_opening_iff]
    rintro _ (⟨-, rfl⟩ | ⟨_, -, -, rfl⟩) ⟨⟩
  rw [trace, List.countP_append, none]
  rfl

/-- A recognised command is recorded with each of its opaque parameters. -/
theorem countP_isKeptOpaque_trace (command : Command) :
    command.trace.countP ValidationEvent.isKeptOpaque =
      (command.params?.getD []).countP Parameter.isFallback := by
  have announced : (admissionTrace command.name command.opcode).countP
      ValidationEvent.isKeptOpaque = 0 := by
    rw [admissionTrace]
    split <;> rfl
  have kept (params : List Parameter) :
      (params.flatMap Parameter.trace).countP ValidationEvent.isKeptOpaque =
        params.countP Parameter.isFallback := by
    induction params with
    | nil => rfl
    | cons param params ih =>
      rw [List.flatMap_cons, List.countP_append, ih, List.countP_cons, Nat.add_comm,
        Parameter.trace]
      split <;> rfl
  rw [trace, opening, List.countP_append, List.countP_append, announced, kept, Nat.zero_add]
  rfl

end Command

/-! ### Calls -/

namespace Call

variable {policy : Policy} {raw : Json}

theorem events_validate_of_unlisted
    (unlisted : ∀ raws, raw.member? "commands" ≠ some (.array raws)) :
    (validate policy raw).events = [] := by
  cases listed : rawCommands raw with
  | ok raws =>
    exact absurd (member?_eq_some_iff.mpr (rawCommands_eq_ok_iff.mp listed)) (unlisted raws)
  | error e =>
    rw [validate, listed]
    rfl

/-- **What a call records, when it has an array of commands.** -/
theorem validate_cases (policy : Policy) {raws : List Json}
    (listed : raw.member? "commands" = some (.array raws)) :
    (∃ commands,
      List.Forall₂ (fun raw command => (Command.classify policy raw).outcome = .ok command) raws
        commands ∧
      validate policy raw =
        ⟨commands.flatMap Command.trace ++ [.accepted commands.length], .ok ⟨commands⟩⟩) ∨
    ∃ position command inner earlier,
      FirstFault (fun raw => (Command.classify policy raw).outcome) raws position command inner ∧
      List.Forall₂ (fun raw command => (Command.classify policy raw).outcome = .ok command)
        (raws.take position) earlier ∧
      validate policy raw =
        ⟨earlier.flatMap Command.trace ++ (Command.classify policy command).events ++
            [.rejected (inner.under [.key "commands", .index position])],
          .error (inner.under [.key "commands", .index position])⟩ := by
  have read := rawCommands_eq_ok_iff.mpr (member?_eq_some_iff.mp listed)
  have step (position : ℕ) (raw : Json) (command : Command)
      (h : (Validation.under (Command.classify policy raw)
        [.key "commands", .index position]).outcome = .ok command) :
      (Command.classify policy raw).outcome = .ok command ∧
        (Validation.under (Command.classify policy raw)
          [.key "commands", .index position]).events = command.trace := by
    have accepted := under_eq_ok_iff.mp h
    exact ⟨accepted, Command.events_of_classify accepted⟩
  rw [validate, read, Traced.bind_of_ok (Traced.outcome_lift _), Traced.events_lift,
    List.nil_append]
  obtain ⟨commands, each, run⟩ | ⟨position, command, e, earlier, found, failed, each, run⟩ :=
    Traced.each_cases step raws
  · rw [← classifyCommands] at run
    refine .inl ⟨commands, each, ?_⟩
    rw [run]
    rfl
  · obtain ⟨inner, refused, rfl⟩ := under_eq_error_iff.mp failed
    rw [← classifyCommands] at run
    refine .inr ⟨position, command, inner, earlier, ⟨found, refused, ?_⟩, each, ?_⟩
    · exact exists_forall₂_iff.mp ⟨earlier, each⟩
    · rw [run]
      rfl

/-- The summary of an accepted call counts events. -/
theorem summary_eq_countP (call : Call) :
    (call.commands.flatMap Command.trace).countP ValidationEvent.isClassified =
        call.summary.commands ∧
      (call.commands.flatMap Command.trace).countP ValidationEvent.isKeptOpaque =
        call.summary.fallbackParams := by
  have classified : List.countP ValidationEvent.isClassified ∘ Command.trace = fun _ => 1 :=
    funext Command.countP_isClassified_trace
  have kept : List.countP ValidationEvent.isKeptOpaque ∘ Command.trace =
      List.countP Parameter.isFallback ∘ fun command => command.params?.getD [] :=
    funext Command.countP_isKeptOpaque_trace
  rw [call.summary_eq_counts, CallSummary.counts, List.countP_flatMap, List.countP_flatMap,
    List.countP_flatMap, classified, kept]
  simp

/-- What is recorded of a call that is refused for a command: everything of the commands before it,
of that command what is recorded until it breaks off, and the rejection. -/
structure BreaksOff (policy : Policy) (raw : Json) (raws : List Json) (e : Rejection)
    (position : ℕ) (command : Json) (inner : Rejection) (earlier : List Command)
    (last : List ValidationEvent) : Prop where
  fault : FirstFault (fun raw => (Command.classify policy raw).outcome) raws position command inner
  rejection : e = inner.under [.key "commands", .index position]
  before : List.Forall₂ (fun raw command => (Command.classify policy raw).outcome = .ok command)
    (raws.take position) earlier
  breaksOff : Command.BreaksOff policy command inner last
  admission : ∀ name opcode, .nameAdmitted name opcode ∈ last ↔
    (∃ params, Wire.HasHeader command name opcode.toNat params) ∧
      (∀ entry : CommandName, entry.name ≠ name) ∧ policy.unknownNames = .acceptAsFallback ∧
      ∃ entry : CommandName, entry.opcode.toNat = opcode.toNat
  events : (validate policy raw).events = earlier.flatMap Command.trace ++ last ++ [.rejected e]
  noNews : ∀ event ∈ (validate policy raw).events, event.record.level ≠ .info

/-- **What a refused call records.** -/
theorem breaksOff_of_validate {raws : List Json} {e : Rejection}
    (listed : raw.member? "commands" = some (.array raws))
    (h : (validate policy raw).outcome = .error e) :
    ∃ position command inner earlier last,
      BreaksOff policy raw raws e position command inner earlier last := by
  obtain ⟨_, -, run⟩ | ⟨position, command, inner, earlier, fault, each, run⟩ :=
    validate_cases policy listed
  · rw [run] at h
    cases h
  · have refused := Command.breaksOff_of_classify fault.refused
    rw [run] at h
    cases h
    refine ⟨position, command, inner, earlier, _,
      { fault := fault
        rejection := rfl
        before := each
        breaksOff := refused
        admission := fun name opcode => refused.nameAdmitted_mem_iff
        events := by rw [run]
        noNews := fun event mem news => ?_ }⟩
    obtain ⟨n, rfl⟩ := ValidationEvent.level_eq_info_iff.mp news
    rw [run] at mem
    simp only [List.mem_append, List.mem_flatMap, List.mem_singleton] at mem
    obtain (⟨command, -, mem⟩ | mem) | mem := mem
    · exact command.accepted_notMem_trace n mem
    · exact refused.accepted_notMem n mem
    · cases mem

/-- **What an accepted call records.** -/
theorem events_of_validate {call : Call} (h : (validate policy raw).outcome = .ok call) :
    (validate policy raw).events =
      call.commands.flatMap Command.trace ++ [.accepted call.commands.length] := by
  obtain ⟨members, raws, object, found, -⟩ := validate_eq_ok_iff.mp h
  obtain ⟨commands, -, run⟩ | ⟨_, _, _, _, -, -, run⟩ :=
    validate_cases policy (member?_eq_some_iff.mpr ⟨members, object, found⟩)
  · rw [run] at h ⊢
    cases h
    rfl
  · rw [run] at h
    cases h

/-- **Which events a validation records.** A raw value without an array of commands is refused
without a word. An accepted call records what its commands record, in order, and at the end that it
is accepted with so many commands; commands recognised and parameters kept opaque are counted by its
summary. A call that is refused for a command records what the commands before it record, then what
that command records until it breaks off, and at the end the rejection, with the whole path. It
records that the name of that command is admitted exactly when the header is in order and admitted
for a name outside the table. Nothing is recorded of the commands behind it, and only the acceptance
of a call is news. What an event is called in the log is said last. -/
theorem validate_traces (policy : Policy) (raw : Json) :
    ((∀ raws, raw.member? "commands" ≠ some (.array raws)) → (validate policy raw).events = []) ∧
    (∀ call, (validate policy raw).outcome = .ok call →
      (validate policy raw).events =
        call.commands.flatMap Command.trace ++ [.accepted call.commands.length] ∧
      (validate policy raw).events.countP ValidationEvent.isClassified = call.summary.commands ∧
      (validate policy raw).events.countP ValidationEvent.isKeptOpaque =
        call.summary.fallbackParams) ∧
    (∀ raws e, raw.member? "commands" = some (.array raws) →
      (validate policy raw).outcome = .error e → ∃ position command inner earlier last,
        BreaksOff policy raw raws e position command inner earlier last) ∧
    (∀ name opcode, (ValidationEvent.nameAdmitted name opcode).record =
      ⟨.warn, "router_validation::commands", "Admitting unknown command name '" ++ name ++
        "' with opcode " ++ opcode.hex ++ " as fallback"⟩) ∧
    (∀ name, (ValidationEvent.keptOpaque name).record =
      ⟨.debug, "router_validation::commands",
        "Parameter '" ++ name ++ "' is not modeled, keeping it opaque"⟩) ∧
    (∀ name opcode params, (ValidationEvent.classified name opcode params).record =
      ⟨.debug, "router_validation::commands", "Classified command " ++ name ++ " (opcode " ++
        opcode.hex ++ ") with " ++ toString params ++ " params"⟩) ∧
    (∀ e, (ValidationEvent.rejected e).record =
      ⟨.debug, "router_validation::call", "Rejected router call: " ++ e.message⟩) ∧
    (∀ n, (ValidationEvent.accepted n).record =
      ⟨.info, "router_validation::call", "Validated router call with " ++ toString n ++
        " commands"⟩) := by
  refine ⟨events_validate_of_unlisted, fun call h => ?_, fun raws e => breaksOff_of_validate,
    fun _ _ => rfl, fun _ => rfl, fun _ _ _ => rfl, fun _ => rfl, fun _ => rfl⟩
  obtain ⟨classified, kept⟩ := summary_eq_countP call
  rw [events_of_validate h, List.countP_append, List.countP_append, classified, kept]
  exact ⟨rfl, rfl, rfl⟩

/-- A call whose second command has a name outside the table and is refused for a parameter behind
an opaque one, in front of a third command. -/
def brokenOffRaw : Json := .object [("commands", .array [
  .object [("commandName", .string "WRAP_ETH"), ("commandType", .ofInt 11), ("params", .array [])],
  .object [("commandName", .string "NEW_COMMAND"), ("commandType", .ofInt 33), ("params", .array [
    .object [("name", .string "recipient"), ("value", .null)],
    .object [("name", .string "amountIn"), ("value", .string "-1")],
    .object [("name", .string "deadline"), ("value", .null)]])],
  .object [("commandName", .string "SWEEP"), ("commandType", .ofInt 4), ("params", .array [])]])]

/-- The rejection of `brokenOffRaw`. -/
def brokenOffRejection : Rejection := .value
  [.key "commands", .index 1, .key "params", .index 1, .key "value"] (.notAnAmount (.string "-1"))

theorem validate_traces_samples :
    (validate .permissive .null).events = [] ∧
    (validate .permissive sampleRaw).events.countP ValidationEvent.isKeptOpaque = 1 ∧
    (∃ (earlier : List Command) (last : List ValidationEvent),
      (validate .permissive brokenOffRaw).events =
        earlier.flatMap Command.trace ++ last ++ [.rejected brokenOffRejection]) ∧
    (validate .permissive brokenOffRaw).events = [.classified "WRAP_ETH" 11 0,
      .nameAdmitted "NEW_COMMAND" 33, .keptOpaque "recipient", .rejected brokenOffRejection] := by
  obtain ⟨unlisted, -⟩ := validate_traces .permissive .null
  obtain ⟨-, accepted, -⟩ := validate_traces .permissive sampleRaw
  obtain ⟨-, -, rejected, -⟩ := validate_traces .permissive brokenOffRaw
  obtain ⟨-, -, kept⟩ := accepted sampleCall rfl
  obtain ⟨_, _, _, earlier, last, refused⟩ := rejected _ brokenOffRejection rfl rfl
  exact ⟨unlisted (by rintro _ ⟨⟩), kept, ⟨earlier, last, refused.events⟩, rfl⟩

/-- A command with a name outside the table and a number of the table, and without parameters. -/
def bareCommand : Json :=
  .object [("commandName", .string "NEW_COMMAND"), ("commandType", .ofInt 33)]

/-- The rejection of `bareCommand`. -/
def bareRejection : Rejection := .shape [.key "params"] (.missing "command params")

/-- A name outside the table is not enough to be recorded as admitted, also where the policy admits
it and the number is one of the table: without parameters the command is refused before. -/
theorem not_nameAdmitted_mem_of_unknown :
    ¬ ∀ (policy : Policy) (raw command : Json) (raws : List Json) (position : ℕ)
        (inner e : Rejection) (name : String) (opcode : Opcode),
      raw.member? "commands" = some (.array raws) → (validate policy raw).outcome = .error e →
      FirstFault (fun raw => (Command.classify policy raw).outcome) raws position command inner →
      command.member? "commandName" = some (.string name) → CommandName.ofName? name = none →
      policy.unknownNames = .acceptAsFallback →
      command.member? "commandType" = some (.ofInt opcode.toNat) →
      (∃ entry : CommandName, entry.opcode = opcode) →
      .nameAdmitted name opcode ∈ (validate policy raw).events := by
  intro claimed
  have fault : FirstFault (fun raw => (Command.classify .permissive raw).outcome) [bareCommand] 0
      bareCommand bareRejection := ⟨rfl, rfl, nofun⟩
  have admitted := claimed .permissive (.object [("commands", .array [bareCommand])]) bareCommand
    [bareCommand] 0 bareRejection (bareRejection.under [.key "commands", .index 0]) "NEW_COMMAND" 33
    rfl rfl fault rfl rfl rfl rfl ⟨.executeSubPlan, rfl⟩
  have recorded : (validate .permissive (.object [("commands", .array [bareCommand])])).events =
      [.rejected (bareRejection.under [.key "commands", .index 0])] := rfl
  rw [recorded] at admitted
  cases List.mem_singleton.mp admitted

end Call

end RouterCall
