import RouterCall.Proofs.Assembly
import RouterCall.Proofs.Checks

/-!
# What is not modeled does not matter

An object on the wire may have members under other keys than its own, and nothing comes of them. Two
raw calls that differ in such members only are validated with the same result and the same events:
they are the same call, or they are refused at the same field and in the same words.

The relation between the two raw calls follows the grammar. Where the grammar has an object, each of
its keys is absent on both sides or has related values, and other keys are not mentioned. Where it
has an array, the items are related one by one. Everything else is equal, and so is a value of
another kind than the grammar has in its place: an amount is not looked into, and neither is the
value of an opaque parameter. As in the grammar, the name of a command decides on the union of its
parameters, and the name of a parameter on the shape of its value.

## Main definitions

* `Schema.Agrees`: two values differ under keys outside a shape only
* `Wire.ParametersAgree`, `Wire.CommandsAgree`, `Wire.CallsAgree`: the levels above

## Main results

* `Schema.agrees_of_lookup_eq`: other keys may have any members
* `Codec.Built.read_eq`, `Registry.IsBuilt.classify_eq`, `Command.classify_eq_of_agree`: no reader
  sees the difference
* `Call.validate_eq_of_agree`: neither does a validation
-/

namespace RouterCall

/-! ### Agreement -/

/-- Two values are the same, or they are arrays with related items. -/
inductive ArraysAgree (related : Json → Json → Prop) : Json → Json → Prop
  | refl (value : Json) : ArraysAgree related value value
  | arrays {items items' : List Json} (each : List.Forall₂ related items items') :
      ArraysAgree related (.array items) (.array items')

/-- Two values are the same, or they are objects with related members. -/
inductive ObjectsAgree (related : Members → Members → Prop) : Json → Json → Prop
  | refl (value : Json) : ObjectsAgree related value value
  | objects {members members' : Members} (same : related members members') :
      ObjectsAgree related (.object members) (.object members')

namespace Schema

mutual

/-- Two values differ in members under keys outside a shape only. -/
def Agrees : Schema → Json → Json → Prop
  | .list item, value, value' => ArraysAgree item.Agrees value value'
  | .object fields, value, value' => ObjectsAgree (AgreeAll fields) value value'
  | _, value, value' => value = value'

/-- The keys of a shape are absent in both or have values that agree. -/
def AgreeAll : List (String × Schema) → Members → Members → Prop
  | [], _, _ => True
  | (key, schema) :: fields, members, members' =>
    Option.Rel schema.Agrees (members.lookup key) (members'.lookup key) ∧
      AgreeAll fields members members'

end

theorem agreeAll_iff {fields : List (String × Schema)} {members members' : Members} :
    AgreeAll fields members members' ↔ ∀ entry ∈ fields,
      Option.Rel entry.2.Agrees (members.lookup entry.1) (members'.lookup entry.1) := by
  induction fields with
  | nil => simp [AgreeAll]
  | cons entry fields ih => simp [AgreeAll, ih]

theorem Agrees.refl (schema : Schema) (value : Json) : schema.Agrees value value := by
  cases schema with
  | list => exact ArraysAgree.refl value
  | object => exact ObjectsAgree.refl value
  | _ => rfl

/-- Objects agree when they have the same values under the keys of a shape, whatever members they
have under other keys. -/
theorem agrees_of_lookup_eq {fields : List (String × Schema)} {members members' : Members}
    (same : ∀ entry ∈ fields, members.lookup entry.1 = members'.lookup entry.1) :
    (Schema.object fields).Agrees (.object members) (.object members') := by
  refine .objects (agreeAll_iff.mpr fun entry mem => ?_)
  rw [same entry mem]
  cases members'.lookup entry.1 with
  | none => exact .none
  | some value => exact .some (.refl entry.2 value)

theorem IsLeaf.eq_of_agrees {schema : Schema} (h : schema.IsLeaf) {value value' : Json}
    (agree : schema.Agrees value value') : value = value' := by
  cases schema with
  | list => exact h.elim
  | object => exact h.elim
  | _ => exact agree

end Schema

namespace Wire

/-- Two raw parameters of a union agree: they have the same name and values of the shape that the
name demands. -/
def ParametersAgree (union : String → Option Schema) : Json → Json → Prop :=
  ObjectsAgree fun members members' =>
    members.lookup "name" = members'.lookup "name" ∧
    Option.Rel
      (fun value value' => ∀ name schema, members.lookup "name" = some (.string name) →
        union name = some schema → schema.Agrees value value')
      (members.lookup "value") (members'.lookup "value")

/-- Two raw commands agree: they have the same name and number, and parameters that agree. -/
def CommandsAgree : Json → Json → Prop :=
  ObjectsAgree fun members members' =>
    members.lookup "commandName" = members'.lookup "commandName" ∧
    members.lookup "commandType" = members'.lookup "commandType" ∧
    Option.Rel
      (ArraysAgree fun param param' => ∀ name, members.lookup "commandName" = some (.string name) →
        ParametersAgree (unionOf name) param param')
      (members.lookup "params") (members'.lookup "params")

/-- Two raw calls agree: they have commands that agree. -/
def CallsAgree : Json → Json → Prop :=
  ObjectsAgree fun members members' =>
    Option.Rel (ArraysAgree CommandsAgree) (members.lookup "commands") (members'.lookup "commands")

end Wire

/-! ### Readers of values -/

section Readers

variable {α : Type} {read : Json → Checked α}

theorem field_eq_of_rel {related : Json → Json → Prop} {key : String} {members members' : Members}
    (blind : ∀ value value', related value value' → read value = read value')
    (h : Option.Rel related (members.lookup key) (members'.lookup key)) :
    field members key read = field members' key read := by
  rw [field, field]
  generalize members.lookup key = found at h ⊢
  generalize members'.lookup key = found' at h ⊢
  cases h with
  | none => rfl
  | some related =>
    dsimp only
    rw [blind _ _ related]

theorem eachItem_eq_of_forall₂ {items items' : List Json}
    (h : List.Forall₂ (fun item item' => read item = read item') items items') :
    eachItem read items = eachItem read items' := by
  suffices ∀ start, eachItemFrom read start items = eachItemFrom read start items' from this 0
  induction h with
  | nil => exact fun _ => rfl
  | cons head _ ih =>
    intro start
    rw [eachItemFrom_cons, eachItemFrom_cons, head, ih]

theorem Traced.each_eq_of_forall₂ {ι ε β : Type} {run : ℕ → Json → Traced ι ε β}
    {items items' : List Json}
    (h : List.Forall₂ (fun item item' => ∀ position, run position item = run position item') items
      items') : each run items = each run items' := by
  suffices ∀ start, eachFrom run start items = eachFrom run start items' from this 0
  induction h with
  | nil => exact fun _ => rfl
  | cons head _ ih =>
    intro start
    rw [eachFrom, eachFrom, head, ih]

end Readers

namespace Codec

variable {α : Type}

theorem readAll_eq_of_fields {members members' : Members} {slots : List (Slot α)}
    (each : ∀ slot ∈ slots, field members slot.key slot.codec.read =
      field members' slot.key slot.codec.read) :
    Slot.readAll members slots = Slot.readAll members' slots := by
  induction slots with
  | nil => rfl
  | cons slot slots ih =>
    obtain ⟨head, rest⟩ := List.forall_mem_cons.mp each
    rw [Slot.readAll, Slot.readAll, head, ih rest]

/-- A record sees of an object what its slots see. -/
theorem IsRecord.read_eq {codec : Codec α} {slots : List (Slot α)} (h : codec.IsRecord slots)
    {members members' : Members}
    (each : ∀ slot ∈ slots, field members slot.key slot.codec.read =
      field members' slot.key slot.codec.read) :
    codec.read (.object members) = codec.read (.object members') := by
  have verdicts : (codec.read (.object members)).verdict =
      (codec.read (.object members')).verdict := by
    rw [h.verdict_read, h.verdict_read]
    exact readAll_eq_of_fields each
  symm
  cases read : codec.read (.object members) with
  | error e => rw [← verdict_eq_error_iff, ← verdicts, verdict_eq_error_iff, read]
  | ok a =>
    obtain ⟨_, ⟨⟩, reads⟩ := h.read_eq_ok_iff.mp read
    refine h.read_eq_ok_iff.mpr ⟨members', rfl, fun slot mem => ?_⟩
    rw [Slot.Reads, ← each slot mem]
    exact reads slot mem

/-- **The reader of a value sees the keys of its shape only.** -/
theorem Built.read_eq {codec : Codec α} (h : codec.Built) :
    ∀ {value value' : Json}, codec.schema.Agrees value value' →
      codec.read value = codec.read value' := by
  induction h with
  | leaf isLeaf =>
    intro value value' agree
    rw [isLeaf.schema.eq_of_agrees agree]
  | @list _ codec _ ih =>
    intro value value' agree
    cases show ArraysAgree codec.schema.Agrees value value' from agree with
    | refl => rfl
    | arrays each => exact eachItem_eq_of_forall₂ (each.imp fun _ _ => ih)
  | @record _ codec slots isRecord _ ih =>
    intro value value' agree
    rw [isRecord.schema] at agree
    cases show ObjectsAgree (Schema.AgreeAll (slots.map Slot.entry)) value value' from agree with
    | refl => rfl
    | objects same =>
      rw [Schema.agreeAll_iff, List.forall_mem_map] at same
      exact isRecord.read_eq fun slot mem =>
        field_eq_of_rel (fun _ _ => ih slot mem) (same slot mem)
  | @step _ codec _ ih =>
    intro entry entry' agree
    cases show ObjectsAgree (Schema.AgreeAll [("name", .constant "swap"), ("value", codec.schema)])
      entry entry' from agree with
    | refl => rfl
    | @objects members members' same =>
      obtain ⟨named, described, -⟩ := same
      have named : members.lookup "name" = members'.lookup "name" := by
        generalize members.lookup "name" = found at named ⊢
        generalize members'.lookup "name" = found' at named ⊢
        cases named with
        | none => rfl
        | some same => exact congrArg some same
      have described : field members "value" codec.read = field members' "value" codec.read :=
        field_eq_of_rel (fun _ _ => ih) described
      show V4.checkStep codec.read (.object members) = V4.checkStep codec.read (.object members')
      rw [V4.checkStep, V4.checkStep]
      show (if members.lookup "name" >>= Json.asString? = some V4.stepName then _ else _) =
        if members'.lookup "name" >>= Json.asString? = some V4.stepName then _ else _
      rw [named, described]

end Codec

/-! ### Parameters -/

/-- The reader of a parameter sees its name and what the name demands of its value. -/
theorem Registry.IsBuilt.classify_eq {π : Type} {registry : Registry π} (h : registry.IsBuilt)
    {raw raw' : Json} (agree : Wire.ParametersAgree registry.union raw raw') :
    registry.classify raw = registry.classify raw' := by
  cases agree with
  | refl => rfl
  | @objects members members' same =>
    obtain ⟨named, values⟩ := same
    rw [classify, classify, Parameter.split.eq_def, Parameter.split.eq_def]
    simp only [Json.asObject?, ← named]
    cases found : members.lookup "name" with
    | none => rfl
    | some name =>
      cases name with
      | string key =>
        generalize members.lookup "value" = value at values ⊢
        generalize members'.lookup "value" = value' at values ⊢
        cases values with
        | none => rfl
        | @some value value' agree =>
          show registry.ofNamed key value = registry.ofNamed key value'
          rw [registry.ofNamed_eq, registry.ofNamed_eq]
          cases chosen : registry.arm? key with
          | none => rfl
          | some arm =>
            have shape : registry.union key = some arm.codec.schema := by
              rw [registry.union_eq, chosen]
              rfl
            dsimp only
            rw [(h key arm chosen).read_eq (agree key _ found shape)]
      | _ => rfl

/-! ### Commands -/

namespace Command

/-- Two headers are refused for the same fault, or they are read with the same name and number and
with parameters that agree. -/
theorem header_of_agree {members members' : Members}
    (named : members.lookup "commandName" = members'.lookup "commandName")
    (numbered : members.lookup "commandType" = members'.lookup "commandType")
    (listed : Option.Rel
      (ArraysAgree fun param param' => ∀ name, members.lookup "commandName" = some (.string name) →
        Wire.ParametersAgree (Wire.unionOf name) param param')
      (members.lookup "params") (members'.lookup "params")) :
    (∃ e, Header.check (.object members) = .error e ∧ Header.check (.object members') = .error e) ∨
      ∃ name number params params', Header.check (.object members) = .ok ⟨name, number, params⟩ ∧
        Header.check (.object members') = .ok ⟨name, number, params'⟩ ∧
        List.Forall₂ (Wire.ParametersAgree (Wire.unionOf name)) params params' := by
  rw [Header.check.eq_def, Header.check.eq_def]
  simp only [Json.asObject?, ← named, ← numbered]
  -- the reader's questions in their order; only the last one has different answers
  cases found : members.lookup "commandName" with
  | none => exact .inl ⟨_, rfl, rfl⟩
  | some value =>
    cases value with
    | string name =>
      cases members.lookup "commandType" with
      | none => exact .inl ⟨_, rfl, rfl⟩
      | some number =>
        dsimp only
        cases number.asNat? with
        | none => exact .inl ⟨_, rfl, rfl⟩
        | some number =>
          generalize members.lookup "params" = params at listed ⊢
          generalize members'.lookup "params" = params' at listed ⊢
          cases listed with
          | none => exact .inl ⟨_, rfl, rfl⟩
          | @some params params' agree =>
            cases agree with
            | refl =>
              cases params with
              | array params =>
                exact .inr ⟨name, number, params, params, rfl, rfl,
                  List.forall₂_same.mpr fun param _ => .refl param⟩
              | _ => exact .inl ⟨_, rfl, rfl⟩
            | arrays each =>
              exact .inr ⟨name, number, _, _, rfl, rfl, each.imp fun _ _ agree => agree name found⟩
    | _ => exact .inl ⟨_, rfl, rfl⟩

theorem classifyParams_eq {params params' : List Json}
    (each : List.Forall₂ (Wire.ParametersAgree Wire.classic) params params') :
    classifyParams params = classifyParams params' := by
  refine Traced.each_eq_of_forall₂ (each.imp fun param param' agree position => ?_)
  have same : Parameter.classify param = Parameter.classify param' :=
    Parameter.isBuilt_registry.classify_eq agree
  rw [classifyParam, classifyParam, same]

theorem classifyV4Params_eq {params params' : List Json}
    (each : List.Forall₂ (Wire.ParametersAgree Wire.versioned) params params') :
    classifyV4Params params = classifyV4Params params' := by
  have same : eachItem V4.Parameter.classify params = eachItem V4.Parameter.classify params' :=
    eachItem_eq_of_forall₂ (each.imp fun _ _ => V4.Parameter.isBuilt_registry.classify_eq)
  rw [classifyV4Params, classifyV4Params, same]

theorem ofKnown_eq {known : CommandName} {params params' : List Json}
    (each : List.Forall₂ (Wire.ParametersAgree (Wire.unionOf known.name)) params params') :
    ofKnown known params = ofKnown known params' := by
  by_cases versioned : known = .v4Swap
  · subst versioned
    rw [ofKnown, ofKnown, classifyV4Params_eq each]
  · have other : known.name ≠ CommandName.v4Swap.name :=
      fun same => versioned (CommandName.name_injective same)
    rw [Wire.unionOf, if_neg other] at each
    rw [ofKnown_of_ne versioned, ofKnown_of_ne versioned, classifyParams_eq each]

theorem ofHeader_eq (policy : Policy) {name : String} {number : ℕ} {params params' : List Json}
    (each : List.Forall₂ (Wire.ParametersAgree (Wire.unionOf name)) params params') :
    ofHeader policy ⟨name, number, params⟩ = ofHeader policy ⟨name, number, params'⟩ := by
  rw [ofHeader, ofHeader]
  cases found : CommandName.ofName? name with
  | some known =>
    rw [← CommandName.name_of_ofName? found] at each
    dsimp only
    rw [ofKnown_eq each]
  | none =>
    have other : name ≠ CommandName.v4Swap.name :=
      fun same => CommandName.ofName?_eq_none_iff.mp found .v4Swap same.symm
    rw [Wire.unionOf, if_neg other] at each
    dsimp only
    rw [ofUnknown, ofUnknown, classifyParams_eq each]

/-- **Commands that agree are recognised as the same command, or refused for the same fault.** -/
theorem classify_eq_of_agree (policy : Policy) {raw raw' : Json}
    (agree : Wire.CommandsAgree raw raw') : classify policy raw = classify policy raw' := by
  cases agree with
  | refl => rfl
  | objects same =>
    obtain ⟨named, numbered, listed⟩ := same
    rw [classify, classify]
    obtain ⟨e, check, check'⟩ | ⟨name, number, params, params', check, check', each⟩ :=
      header_of_agree named numbered listed
    · rw [check, check']
    · rw [check, check']
      show (ofHeader policy ⟨name, number, params⟩ >>= _) =
        ofHeader policy ⟨name, number, params'⟩ >>= _
      rw [ofHeader_eq policy each, each.length_eq]

end Command

/-! ### Calls -/

namespace Call

theorem rawCommands_of_agree {members members' : Members}
    (listed : Option.Rel (ArraysAgree Wire.CommandsAgree) (members.lookup "commands")
      (members'.lookup "commands")) :
    (∃ e, rawCommands (.object members) = .error e ∧ rawCommands (.object members') = .error e) ∨
      ∃ raws raws', rawCommands (.object members) = .ok raws ∧
        rawCommands (.object members') = .ok raws' ∧
        List.Forall₂ Wire.CommandsAgree raws raws' := by
  rw [rawCommands.eq_def, rawCommands.eq_def]
  simp only [Json.asObject?]
  generalize members.lookup "commands" = found at listed ⊢
  generalize members'.lookup "commands" = found' at listed ⊢
  cases listed with
  | none => exact .inl ⟨_, rfl, rfl⟩
  | @some value value' agree =>
    cases agree with
    | refl =>
      cases value with
      | array raws =>
        exact .inr ⟨raws, raws, rfl, rfl, List.forall₂_same.mpr fun command _ => .refl command⟩
      | _ => exact .inl ⟨_, rfl, rfl⟩
    | arrays each => exact .inr ⟨_, _, rfl, rfl, each⟩

/-- `sampleRaw` with other members of no meaning, at every level. -/
def annotatedRaw : Json := .object [
  ("commands", .array [
    .object [
      ("gas", .ofInt 21000),
      ("commandName", .string "V3_SWAP_EXACT_IN"),
      ("commandType", .ofInt 0),
      ("params", .array [
        .object [("name", .string "amountIn"), ("value", .string "0x00Ff")],
        .object [("name", .string "path"), ("value", .array [
          .object [("tokenIn", .string "0xaa"), ("tokenOut", .string "0xBB"), ("fee", .ofInt 500),
            ("label", .string "low")]])],
        .object [("name", .string "recipient"), ("value", .object [("kept", .array [.null])])]])],
    .object [
      ("commandName", .string "V4_SWAP"),
      ("commandType", .ofInt 16),
      ("params", .array [
        .object [("note", .null), ("name", .string "SWAP_EXACT_IN"), ("value", .array [
          .object [("id", .ofInt 7), ("name", .string "swap"), ("value", .object [
            ("currencyIn", .string "0x01"),
            ("path", .array [.object [
              ("pool", .null), ("intermediateCurrency", .string "0x02"), ("fee", .ofInt 3000),
              ("tickSpacing", .ofInt (-60)), ("hooks", .string "0x"), ("hookData", .string "")]]),
            ("amountIn", .object [("hex", .string "0x0a"), ("type", .string "BigNumber")]),
            ("amountOutMinimum", .string "007"),
            ("comment", .string "")])]])]])],
    .object [
      ("commandName", .string "NEW_COMMAND"),
      ("commandType", .ofInt 33),
      ("params", .array [.object [("name", .string "payerIsUser"), ("value", .bool false)]])]])]

theorem callsAgree_annotated : Wire.CallsAgree sampleRaw annotatedRaw := by
  refine .objects (.some (.arrays (.cons (.objects ⟨rfl, rfl, .some (.arrays ?classic)⟩)
    (.cons (.objects ⟨rfl, rfl, .some (.arrays ?versioned)⟩) (.cons (.refl _) .nil)))))
  case classic =>
    refine .cons (fun _ named => ?amount) (.cons (fun _ named => ?path)
      (.cons (fun _ _ => .refl _) .nil)) <;> cases named
    case amount => exact .objects ⟨rfl, .some fun _ _ _ _ => Schema.Agrees.refl _ _⟩
    case path =>
      refine .objects ⟨rfl, .some fun _ _ named chosen => ?_⟩
      cases named
      cases chosen
      refine ArraysAgree.arrays (.cons (Schema.agrees_of_lookup_eq ?_) .nil)
      simp only [List.forall_mem_cons]
      exact ⟨rfl, rfl, rfl, List.forall_mem_nil _⟩
  case versioned =>
    refine .cons (fun _ named => ?_) .nil
    cases named
    refine .objects ⟨rfl, .some fun _ _ named chosen => ?_⟩
    cases named
    cases chosen
    refine ArraysAgree.arrays (.cons (.objects ⟨.some rfl, .some (ObjectsAgree.objects
      ⟨.some rfl, .some (ArraysAgree.arrays (.cons (Schema.agrees_of_lookup_eq ?_) .nil)),
        .some rfl, .some rfl, trivial⟩), trivial⟩) .nil)
    simp only [List.forall_mem_cons]
    exact ⟨rfl, rfl, rfl, rfl, rfl, List.forall_mem_nil _⟩

/-- **Calls that agree are validated in the same way.** Members under keys that are not modeled
change neither the result, be it a call or a rejection, nor the events on the way. -/
theorem validate_eq_of_agree (policy : Policy) {raw raw' : Json}
    (agree : Wire.CallsAgree raw raw') : validate policy raw = validate policy raw' := by
  cases agree with
  | refl => rfl
  | objects listed =>
    rw [validate, validate]
    obtain ⟨e, found, found'⟩ | ⟨raws, raws', found, found', each⟩ := rawCommands_of_agree listed
    · rw [found, found']
    · have same : classifyCommands policy raws = classifyCommands policy raws' := by
        refine Traced.each_eq_of_forall₂ (each.imp fun command command' agree position => ?_)
        rw [Command.classify_eq_of_agree policy agree]
      rw [found, found']
      show ((classifyCommands policy raws).recordFailure _ >>= _) =
        (classifyCommands policy raws').recordFailure _ >>= _
      rw [same]

theorem validate_eq_of_agree_annotated :
    Wire.CallsAgree sampleRaw annotatedRaw ∧
      validate .permissive sampleRaw = validate .permissive annotatedRaw :=
  ⟨callsAgree_annotated, validate_eq_of_agree .permissive callsAgree_annotated⟩

end Call

end RouterCall
