import RouterCall.Command.Classify
import RouterCall.Proofs.Parameter

/-!
# Commands under a policy

What a raw command becomes, as one equivalence. The header must read as the command's own name and
number, the two must be admissible under the policy, and the raw parameters must be read one by one
by the command's own union. Everything else about commands follows from that: which raw commands are
recognised, what they are written as, and which typed commands come back from the wire.

The events of a validation play no part in any of this. A `Traced` computation is replaced by its
outcome as soon as it is met.

## Main definitions

* `Command.IsEntry`: a command that stands for an entry of the table
* `Command.IsAdmissible`: a name and a number that the policy lets through
* `Command.union`, `Command.ReadsFrom`: where the parameters come from
* `Command.IsProper`: every parameter can be made by the reader

## Main results

* `Command.classify_eq_ok_iff`: what a raw command is recognised as
* `Command.isCommand_iff`: a raw command is recognised exactly when the grammar has it
* `Command.projects`: a recognised command is written as the projection of the raw one
* `Command.classify_toJson_iff`: a typed command is read back when it is proper and admissible
-/

namespace RouterCall

/-! ### Outcomes -/

namespace Traced

variable {ι ε α β : Type}

theorem outcome_map_eq_ok_iff {f : α → β} {run : Traced ι ε α} {b : β} :
    (f <$> run).outcome = .ok b ↔ ∃ a, run.outcome = .ok a ∧ f a = b := by
  show (run >>= fun a => pure (f a)).outcome = .ok b ↔ _
  simp only [outcome_bind, bind_eq_ok_iff, outcome_pure, Except.ok.injEq]

/-- A run over a list succeeds when it succeeds on each item; the positions only name the errors. -/
theorem outcome_each_eq_ok_iff {relation : α → β → Prop} {run : ℕ → α → Traced ι ε β}
    (step : ∀ position a b, (run position a).outcome = .ok b ↔ relation a b)
    {as : List α} {bs : List β} :
    (each run as).outcome = .ok bs ↔ List.Forall₂ relation as bs := by
  -- the induction is on the items, from any first position
  suffices ∀ start, (eachFrom run start as).outcome = .ok bs ↔ List.Forall₂ relation as bs from
    this 0
  induction as generalizing bs with
  | nil =>
    intro start
    rw [eachFrom, outcome_pure, List.forall₂_nil_left_iff]
    exact ⟨fun h => (Except.ok.inj h).symm, fun h => h ▸ rfl⟩
  | cons a as ih =>
    intro start
    simp only [eachFrom, outcome_bind, bind_eq_ok_iff, step, ih, outcome_pure, Except.ok.injEq,
      List.forall₂_cons_left_iff]
    constructor
    · rintro ⟨b, first, bs', rest, rfl⟩
      exact ⟨b, bs', first, rest, rfl⟩
    · rintro ⟨b, bs', first, rest, rfl⟩
      exact ⟨b, first, bs', rest, rfl⟩

end Traced

/-! ### The header -/

theorem Header.check_eq_ok_iff {raw : Json} {header : Header} :
    Header.check raw = .ok header ↔ ∃ members, raw = .object members ∧
      members.lookup "commandName" = some (.string header.name) ∧
      members.lookup "commandType" = some (.ofInt header.number) ∧ header.number < 2 ^ 64 ∧
      members.lookup "params" = some (.array header.params) := by
  rw [Header.check.eq_def]
  cases raw with
  | object members =>
    simp only [Json.asObject?, Json.object.injEq, exists_eq_left']
    constructor
    · -- the reader's tests in their order; each has one branch that goes on
      intro h
      split at h
      · cases h
      · next name named =>
        split at h
        · cases h
        · next value numbered =>
          split at h
          · next number fits =>
            split at h
            · cases h
            · next params listed =>
              cases h
              obtain ⟨rfl, small⟩ := Json.asNat?_eq_some_iff.mp fits
              exact ⟨named, numbered, small, listed⟩
            · cases h
          · cases h
      · cases h
    · rintro ⟨named, numbered, small, listed⟩
      rw [named, numbered, listed]
      simp only [Json.asNat?_eq_some_iff.mpr ⟨rfl, small⟩]
      rfl
  | _ => simp [Json.asObject?]

/-! ### Entries of the table -/

namespace CommandName

theorem name_injective : Function.Injective name := fun entry entry' same =>
  Option.some.inj (by rw [← ofName?_name entry, same, ofName?_name])

theorem ofName?_eq_none_iff {text : String} : ofName? text = none ↔ ∀ entry, name entry ≠ text := by
  simp only [ofName?, List.find?_eq_none, decide_eq_true_eq]
  exact ⟨fun absent entry => absent entry (mem_all entry), fun other entry _ => other entry⟩

end CommandName

namespace Command

/-- A command stands for an entry of the table: it has its name and number, and it is a swap when
the entry is one. -/
structure IsEntry (command : Command) (known : CommandName) : Prop where
  name : command.name = known.name
  opcode : command.opcode = known.opcode
  isSwap : command.isSwap = known.isSwap

/-- The name and the number of a command may be admitted under a policy. -/
def IsAdmissible (policy : Policy) (command : Command) : Prop :=
  (∃ known, command.IsEntry known) ∨
    (policy.unknownNames = .acceptAsFallback ∧ (∀ entry : CommandName, entry.name ≠ command.name) ∧
      ∃ entry : CommandName, entry.opcode = command.opcode)

/-- The union that the parameters of a command belong to. -/
def union : Command → String → Option Schema
  | .v4Swap _ => Wire.versioned
  | _ => Wire.classic

/-- The parameters of a command are what its raw parameters are recognised as. -/
inductive ReadsFrom (raws : List Json) (command : Command) : Prop
  | classic {params : List Parameter} (held : command.params? = some params)
      (each : Parameter.registry.ReadsAll raws params)
  | versioned {params : List V4.Parameter} (held : command.v4Params? = some params)
      (each : V4.Parameter.registry.ReadsAll raws params)

/-- No parameter of a command is opaque and has a modeled name. -/
def IsProper (command : Command) : Prop :=
  ∀ params, command.params? = some params → ∀ param ∈ params, param.IsProper

/-! ### Reading parameters -/

theorem classifyParam_eq_ok_iff {position : ℕ} {raw : Json} {param : Parameter} :
    (classifyParam position raw).outcome = .ok param ↔ Parameter.classify raw = .ok param := by
  simp only [classifyParam, Traced.outcome_bind, Traced.outcome_lift, bind_eq_ok_iff,
    under_eq_ok_iff]
  constructor
  · rintro ⟨found, read, h⟩
    split at h <;> cases h <;> exact read
  · intro read
    refine ⟨param, read, ?_⟩
    split <;> rfl

theorem classifyParams_eq_ok_iff {raws : List Json} {params : List Parameter} :
    (classifyParams raws).outcome = .ok params ↔ Parameter.registry.ReadsAll raws params :=
  Traced.outcome_each_eq_ok_iff fun position raw param =>
    @classifyParam_eq_ok_iff position raw param

theorem classifyV4Params_eq_ok_iff {raws : List Json} {params : List V4.Parameter} :
    (classifyV4Params raws).outcome = .ok params ↔ V4.Parameter.registry.ReadsAll raws params := by
  rw [classifyV4Params, Traced.outcome_lift, under_eq_ok_iff, eachItem_eq_ok_iff_forall₂]
  rfl

/-! ### Names and numbers -/

/-- The command of an entry with classic parameters. -/
def ofParams (known : CommandName) (params : List Parameter) : Command :=
  match known with
  | .v2SwapExactIn => .v2SwapExactIn params
  | .v2SwapExactOut => .v2SwapExactOut params
  | .v3SwapExactIn => .v3SwapExactIn params
  | .v3SwapExactOut => .v3SwapExactOut params
  | other => .fallback ⟨other.name, other.opcode, params⟩

theorem ofKnown_of_ne {known : CommandName} (h : known ≠ .v4Swap) (raws : List Json) :
    ofKnown known raws = ofParams known <$> classifyParams raws := by
  cases known <;> first | rfl | exact absurd rfl h

theorem ofParams_eq_iff {known : CommandName} (h : known ≠ .v4Swap) {params : List Parameter}
    {command : Command} :
    ofParams known params = command ↔ command.IsEntry known ∧ command.params? = some params := by
  constructor
  · rintro rfl
    cases known <;> first | exact ⟨⟨rfl, rfl, rfl⟩, rfl⟩ | exact absurd rfl h
  · rintro ⟨⟨named, numbered, swap⟩, held⟩
    cases command with
    | v2SwapExactIn _ =>
      obtain rfl : .v2SwapExactIn = known := CommandName.name_injective named
      cases held
      rfl
    | v2SwapExactOut _ =>
      obtain rfl : .v2SwapExactOut = known := CommandName.name_injective named
      cases held
      rfl
    | v3SwapExactIn _ =>
      obtain rfl : .v3SwapExactIn = known := CommandName.name_injective named
      cases held
      rfl
    | v3SwapExactOut _ =>
      obtain rfl : .v3SwapExactOut = known := CommandName.name_injective named
      cases held
      rfl
    | v4Swap _ => cases held
    | fallback kept =>
      cases kept
      cases named
      cases numbered
      cases held
      cases known <;> first | rfl | cases swap

theorem v4Params?_eq_some_iff {command : Command} {params : List V4.Parameter} :
    command.v4Params? = some params ↔ command = .v4Swap params := by
  cases command <;> simp [v4Params?]

/-- The versioned swap is the only command of its entry. -/
theorem IsEntry.params?_eq_none {command : Command} (h : command.IsEntry .v4Swap) :
    command.params? = none := by
  obtain ⟨named, -, swap⟩ := h
  cases command with
  | v4Swap _ => rfl
  | fallback _ => cases swap
  | _ => simp [Command.name, CommandName.name] at named

/-- **What an entry of the table and raw parameters make.** -/
theorem ofKnown_eq_ok_iff {known : CommandName} {raws : List Json} {command : Command} :
    (ofKnown known raws).outcome = .ok command ↔
      command.IsEntry known ∧ command.ReadsFrom raws := by
  by_cases versioned : known = .v4Swap
  · subst versioned
    rw [ofKnown, Traced.outcome_map_eq_ok_iff]
    constructor
    · rintro ⟨params, each, rfl⟩
      exact ⟨⟨rfl, rfl, rfl⟩, .versioned rfl (classifyV4Params_eq_ok_iff.mp each)⟩
    · rintro ⟨entry, reads⟩
      cases reads with
      | classic held _ =>
        rw [entry.params?_eq_none] at held
        cases held
      | @versioned params held each =>
        exact ⟨params, classifyV4Params_eq_ok_iff.mpr each, (v4Params?_eq_some_iff.mp held).symm⟩
  · rw [ofKnown_of_ne versioned, Traced.outcome_map_eq_ok_iff]
    simp only [classifyParams_eq_ok_iff, ofParams_eq_iff versioned]
    constructor
    · rintro ⟨params, each, entry, held⟩
      exact ⟨entry, .classic held each⟩
    · rintro ⟨entry, reads⟩
      cases reads with
      | @classic params held each => exact ⟨params, each, entry, held⟩
      | versioned held _ =>
        obtain rfl := v4Params?_eq_some_iff.mp held
        obtain rfl : .v4Swap = known := CommandName.name_injective entry.name
        exact absurd rfl versioned

/-- What the permissive policy makes of a name outside the table. -/
theorem ofUnknown_eq_ok_iff {policy : Policy} {header : Header} {command : Command} :
    (ofUnknown policy header).outcome = .ok command ↔
      policy.unknownNames = .acceptAsFallback ∧ ∃ entry params,
        CommandName.ofOpcode? header.number = some entry ∧
        Parameter.registry.ReadsAll header.params params ∧
        .fallback ⟨header.name, entry.opcode, params⟩ = command := by
  rw [ofUnknown]
  cases policy.unknownNames with
  | reject => exact ⟨nofun, fun h => nomatch h.1⟩
  | acceptAsFallback =>
    cases CommandName.ofOpcode? header.number with
    | none => exact ⟨nofun, fun ⟨_, _, _, absent, _⟩ => nomatch absent⟩
    | some entry =>
      simp only [Traced.outcome_bind, Traced.outcome_pure, bind_eq_ok_iff, classifyParams_eq_ok_iff,
        Except.ok.injEq, Option.some.injEq, true_and, ↓existsAndEq]
      exact ⟨fun ⟨_, _, h⟩ => h, fun h => ⟨(), rfl, h⟩⟩

theorem exists_isEntry_or_fallback (command : Command) :
    (∃ known, command.IsEntry known) ∨ ∃ kept, command = .fallback kept := by
  cases command with
  | v2SwapExactIn _ => exact .inl ⟨.v2SwapExactIn, rfl, rfl, rfl⟩
  | v2SwapExactOut _ => exact .inl ⟨.v2SwapExactOut, rfl, rfl, rfl⟩
  | v3SwapExactIn _ => exact .inl ⟨.v3SwapExactIn, rfl, rfl, rfl⟩
  | v3SwapExactOut _ => exact .inl ⟨.v3SwapExactOut, rfl, rfl, rfl⟩
  | v4Swap _ => exact .inl ⟨.v4Swap, rfl, rfl, rfl⟩
  | fallback kept => exact .inr ⟨kept, rfl⟩

theorem ofHeader_eq_ok_iff {policy : Policy} {header : Header} {command : Command} :
    (ofHeader policy header).outcome = .ok command ↔
      command.name = header.name ∧ command.opcode.toNat = header.number ∧
        command.IsAdmissible policy ∧ command.ReadsFrom header.params := by
  constructor
  · intro h
    rw [ofHeader.eq_def] at h
    split at h
    · next known found =>
      split at h
      · next same =>
        obtain ⟨entry, reads⟩ := ofKnown_eq_ok_iff.mp h
        refine ⟨?_, ?_, .inl ⟨known, entry⟩, reads⟩
        · rw [entry.name, CommandName.name_of_ofName? found]
        · rw [entry.opcode, same]
      · cases h
    · next unknown =>
      obtain ⟨permissive, entry, params, found, each, rfl⟩ := ofUnknown_eq_ok_iff.mp h
      refine ⟨rfl, CommandName.opcode_of_ofOpcode? found, .inr ?_, .classic rfl each⟩
      exact ⟨permissive, CommandName.ofName?_eq_none_iff.mp unknown, entry, rfl⟩
  · rintro ⟨named, numbered, admissible, reads⟩
    rw [ofHeader, ← named, ← numbered]
    obtain ⟨known, entry⟩ | ⟨permissive, unknown, entry, number⟩ := admissible
    · rw [entry.name, entry.opcode, CommandName.ofName?_name]
      show (if _ then ofKnown known header.params else _).outcome = _
      rw [if_pos rfl]
      exact ofKnown_eq_ok_iff.mpr ⟨entry, reads⟩
    · rw [CommandName.ofName?_eq_none_iff.mpr unknown]
      -- a swap would have a name of the table
      obtain ⟨known, entry'⟩ | ⟨⟨name, opcode, params⟩, rfl⟩ := command.exists_isEntry_or_fallback
      · exact absurd entry'.name.symm (unknown known)
      cases reads with
      | versioned held _ => cases held
      | classic held each =>
        cases held
        cases number
        refine ofUnknown_eq_ok_iff.mpr ⟨permissive, entry, params, ?_, each, ?_⟩
        · rw [← numbered]
          exact CommandName.ofOpcode?_opcode entry
        · rw [← named]
          rfl

/-- **What a raw command is recognised as.** The header is read as the command's own name and
number, the policy admits them, and the parameters are read from the raw ones. -/
theorem classify_eq_ok_iff {policy : Policy} {raw : Json} {command : Command} :
    (classify policy raw).outcome = .ok command ↔ ∃ raws,
      Header.check raw = .ok ⟨command.name, command.opcode.toNat, raws⟩ ∧
        command.IsAdmissible policy ∧ command.ReadsFrom raws := by
  simp only [classify, Traced.outcome_bind, Traced.outcome_lift, Traced.outcome_pure,
    bind_eq_ok_iff, ofHeader_eq_ok_iff, Except.ok.injEq]
  constructor
  · rintro ⟨⟨_, _, raws⟩, read, _, ⟨rfl, rfl, admissible, reads⟩, _, _, rfl⟩
    exact ⟨raws, read, admissible, reads⟩
  · rintro ⟨raws, read, admissible, reads⟩
    exact ⟨_, read, command, ⟨rfl, rfl, admissible, reads⟩, (), rfl, rfl⟩

/-- A recognised command has the name of the raw one. -/
theorem member_of_classify {policy : Policy} {raw : Json} {command : Command}
    (h : (classify policy raw).outcome = .ok command) :
    raw.member? "commandName" = some (.string command.name) := by
  obtain ⟨raws, header, -⟩ := classify_eq_ok_iff.mp h
  obtain ⟨members, rfl, named, -⟩ := Header.check_eq_ok_iff.mp header
  exact named

theorem isAdmissible_fallback_iff {policy : Policy} {kept : FallbackCommand} :
    (Command.fallback kept).IsAdmissible policy ↔
      (∃ known : CommandName, known.isSwap = false ∧ known.name = kept.name ∧
        known.opcode = kept.opcode) ∨
      (policy.unknownNames = .acceptAsFallback ∧ (∀ entry : CommandName, entry.name ≠ kept.name) ∧
        ∃ entry : CommandName, entry.opcode = kept.opcode) := by
  refine or_congr_left (exists_congr fun known => ?_)
  constructor
  · rintro ⟨named, numbered, swap⟩
    exact ⟨swap.symm, named.symm, numbered.symm⟩
  · rintro ⟨swap, named, numbered⟩
    exact ⟨named.symm, numbered.symm, swap.symm⟩

/-! ### The grammar of raw commands -/

/-- A name that is admitted decides the union: only the versioned swap goes by its name. -/
theorem IsAdmissible.unionOf_name {policy : Policy} {command : Command}
    (h : command.IsAdmissible policy) : Wire.unionOf command.name = command.union := by
  cases command with
  | v4Swap _ => rfl
  | fallback kept =>
    refine if_neg fun same => ?_
    obtain ⟨known, named, -, swap⟩ | ⟨-, unknown, -⟩ := h
    · obtain rfl : known = .v4Swap := CommandName.name_injective (named.symm.trans same)
      cases swap
    · exact unknown .v4Swap same.symm
  | _ => rfl

theorem union_of_params? {command : Command} {params : List Parameter}
    (held : command.params? = some params) : command.union = Wire.classic := by
  cases command with
  | v4Swap _ => cases held
  | _ => rfl

/-- A command that holds classic parameters is not called the versioned swap. -/
theorem IsAdmissible.name_ne_of_params? {policy : Policy} {command : Command}
    {params : List Parameter} (h : command.IsAdmissible policy)
    (held : command.params? = some params) : command.name ≠ CommandName.v4Swap.name := by
  intro versioned
  have union := h.unionOf_name
  rw [union_of_params? held, versioned] at union
  -- the two unions differ on every name that neither has
  cases congrFun union ""

theorem paramsJson_of_params? {command : Command} {params : List Parameter}
    (held : command.params? = some params) : command.paramsJson = params.map Parameter.toJson := by
  cases command with
  | v4Swap _ => cases held
  | _ => cases held; rfl

/-- A command has as many parameters as there were raw ones. -/
theorem ReadsFrom.length_paramsJson {raws : List Json} {command : Command}
    (h : command.ReadsFrom raws) : command.paramsJson.length = raws.length := by
  cases h with
  | classic held each => rw [paramsJson_of_params? held, List.length_map, each.length_eq]
  | versioned held each =>
    obtain rfl := v4Params?_eq_some_iff.mp held
    rw [paramsJson, List.length_map, each.length_eq]

theorem ReadsFrom.isParameter {raws : List Json} {command : Command} (h : command.ReadsFrom raws) :
    ∀ raw ∈ raws, Wire.IsParameter command.union raw := by
  cases h with
  | classic held each =>
    rw [union_of_params? held]
    exact Parameter.registry.exists_readsAll_iff.mp ⟨_, each⟩
  | versioned held each =>
    obtain rfl := v4Params?_eq_some_iff.mp held
    exact V4.Parameter.registry.exists_readsAll_iff.mp ⟨_, each⟩

/-- A name and a number that are admitted have a command, whatever the parameters. -/
theorem exists_of_admitted {policy : Policy} {key : String} {number : ℕ} {raws : List Json}
    (admitted : Wire.Admitted policy key number)
    (each : ∀ raw ∈ raws, Wire.IsParameter (Wire.unionOf key) raw) :
    ∃ command : Command, command.name = key ∧ command.opcode.toNat = number ∧
      command.IsAdmissible policy ∧ command.ReadsFrom raws := by
  obtain ⟨known, rfl, rfl⟩ | ⟨permissive, unknown, known, rfl⟩ := admitted
  · by_cases versioned : known = .v4Swap
    · subst versioned
      obtain ⟨params, all⟩ := V4.Parameter.registry.exists_readsAll_iff.mpr each
      exact ⟨.v4Swap params, rfl, rfl, .inl ⟨.v4Swap, rfl, rfl, rfl⟩, .versioned rfl all⟩
    · rw [Wire.unionOf, if_neg fun same => versioned (CommandName.name_injective same)] at each
      obtain ⟨params, all⟩ := Parameter.registry.exists_readsAll_iff.mpr each
      obtain ⟨entry, held⟩ := (@ofParams_eq_iff _ versioned params _).mp rfl
      exact ⟨ofParams known params, entry.name, by rw [entry.opcode], .inl ⟨known, entry⟩,
        .classic held all⟩
  · rw [Wire.unionOf, if_neg fun same => unknown .v4Swap same.symm] at each
    obtain ⟨params, all⟩ := Parameter.registry.exists_readsAll_iff.mpr each
    exact ⟨.fallback ⟨key, known.opcode, params⟩, rfl, rfl, .inr ⟨permissive, unknown, known, rfl⟩,
      .classic rfl all⟩

theorem IsAdmissible.admitted {policy : Policy} {command : Command}
    (h : command.IsAdmissible policy) :
    Wire.Admitted policy command.name command.opcode.toNat := by
  obtain ⟨known, entry⟩ | ⟨permissive, unknown, known, number⟩ := h
  · exact .inl ⟨known, entry.name.symm, by rw [entry.opcode]⟩
  · exact .inr ⟨permissive, unknown, known, by rw [number]⟩

/-- **A raw command is recognised exactly when the grammar has it.** -/
theorem isCommand_iff {policy : Policy} {raw : Json} :
    Wire.IsCommand policy raw ↔ ∃ command, (classify policy raw).outcome = .ok command := by
  simp only [classify_eq_ok_iff, Header.check_eq_ok_iff]
  constructor
  · rintro ⟨members, key, number, raws, rfl, named, numbered, small, listed, admitted, each⟩
    obtain ⟨command, rfl, rfl, admissible, reads⟩ := exists_of_admitted admitted each
    exact ⟨command, raws, ⟨members, rfl, named, numbered, small, listed⟩, admissible, reads⟩
  · rintro ⟨command, raws, ⟨members, rfl, named, numbered, small, listed⟩, admissible, reads⟩
    refine ⟨members, command.name, command.opcode.toNat, raws, rfl, named, numbered, small, listed,
      admissible.admitted, ?_⟩
    rw [admissible.unionOf_name]
    exact reads.isParameter

/-! ### Commands written out -/

theorem ReadsFrom.projects {raws : List Json} {command : Command} (h : command.ReadsFrom raws) :
    List.Forall₂ (Wire.ParameterProjects command.union) raws command.paramsJson := by
  cases h with
  | classic held each =>
    rw [union_of_params? held, paramsJson_of_params? held]
    exact Parameter.registry.projects_all each
  | versioned held each =>
    obtain rfl := v4Params?_eq_some_iff.mp held
    exact V4.Parameter.registry.projects_all each

/-- **A recognised command is written as the projection of the raw one.** -/
theorem projects {policy : Policy} {raw : Json} {command : Command}
    (h : (classify policy raw).outcome = .ok command) :
    Wire.CommandProjects raw command.toJson := by
  obtain ⟨raws, header, admissible, reads⟩ := classify_eq_ok_iff.mp h
  obtain ⟨members, rfl, named, numbered, -, listed⟩ := Header.check_eq_ok_iff.mp header
  refine ⟨members, command.name, _, raws, command.paramsJson, rfl, named, numbered, listed, ?_, rfl⟩
  rw [admissible.unionOf_name]
  exact reads.projects

theorem header_toJson (command : Command) :
    Header.check command.toJson = .ok ⟨command.name, command.opcode.toNat, command.paramsJson⟩ :=
  Header.check_eq_ok_iff.mpr
    ⟨_, rfl, rfl, rfl, command.opcode.toNat_lt.trans (by decide), rfl⟩

theorem ReadsFrom.isProper {raws : List Json} {command : Command} (h : command.ReadsFrom raws) :
    command.IsProper := by
  intro params held
  cases h with
  | classic held' each =>
    cases held.symm.trans held'
    exact Parameter.registry.isProper_of_readsAll each
  | versioned held' _ =>
    obtain rfl := v4Params?_eq_some_iff.mp held'
    cases held

theorem readsFrom_paramsJson {command : Command} (proper : command.IsProper) :
    command.ReadsFrom command.paramsJson := by
  cases held : command.params? with
  | some params =>
    refine .classic held ?_
    rw [paramsJson_of_params? held]
    exact Parameter.registry.readsAll_map_toJson_iff.mpr (proper params held)
  | none =>
    cases command with
    | v4Swap params =>
      exact .versioned rfl (V4.Parameter.registry.readsAll_map_toJson_iff.mpr fun _ _ => trivial)
    | _ => cases held

/-- **A typed command is read back exactly when it is proper and admissible.** -/
theorem classify_toJson_iff {policy : Policy} {command : Command} :
    (classify policy command.toJson).outcome = .ok command ↔
      command.IsAdmissible policy ∧ command.IsProper := by
  rw [classify_eq_ok_iff, header_toJson]
  constructor
  · rintro ⟨raws, -, admissible, reads⟩
    exact ⟨admissible, reads.isProper⟩
  · rintro ⟨admissible, proper⟩
    exact ⟨command.paramsJson, rfl, admissible, readsFrom_paramsJson proper⟩

/-- A recognised command is read back from what it is written as. -/
theorem classify_toJson_of_classify {policy : Policy} {raw : Json} {command : Command}
    (h : (classify policy raw).outcome = .ok command) :
    (classify policy command.toJson).outcome = .ok command := by
  obtain ⟨raws, -, admissible, reads⟩ := classify_eq_ok_iff.mp h
  exact classify_toJson_iff.mpr ⟨admissible, reads.isProper⟩

end Command

end RouterCall
