import RouterCall.Proofs.Location

/-!
# What the kind of a rejection says

A rejection of a raw command is of one of three kinds, and callers act on the kind. The kinds answer
to three stages. The header is read and the policy is asked about the name and the number; a name of
the table that comes with another number ends the matter there, whatever the parameters hold, and
that fault has a kind of its own. Then the parameters are read, and once a parameter is known by its
name and has a value, whatever is wrong with the value is a value fault, at any depth. Everything
else that can be wrong is a matter of shape.

So the kind is decided without looking into values: by the header, by the table, and by the name of
the first parameter that is refused.

## Main definitions

* `Wire.HasHeader`, `Wire.Mismatched`: the header of a raw command, and a name with a wrong number
* `Wire.IsModeled`: a raw parameter that its union knows by name, with a value
* `Command.StopsAtValue`: the first parameter that is refused is modeled
* `Wire.ShapeField`: the fields of shape faults

## Main results

* `Codec.Built.kind_eq`: whatever is wrong with a value is a value fault
* `Command.checkParam_cases`: the kind of fault of a parameter
* `Command.classify_cases`: the three kinds of rejection of a command
* `Command.classify_eq_tagOpcode_iff`, `Command.exists_valueFault_iff`,
  `Command.kind_eq_shapeMismatch_iff`: when a rejection is of which kind
* `Command.classify_error_kinds`: which raw commands are rejected with which kind
-/

namespace RouterCall

theorem FieldPath.exists_join_eq_append {outer : String} (nonempty : outer ≠ "") (inner : String) :
    ∃ text, join outer inner = outer ++ text := by
  rw [join, if_neg nonempty]
  split
  · exact ⟨"", String.append_empty.symm⟩
  · split
    · exact ⟨inner, rfl⟩
    · exact ⟨"." ++ inner, String.append_assoc⟩

/-! ### Headers and parameters of the wire format -/

namespace Wire

/-- A raw command has a header: a string `commandName`, an unsigned 64-bit integer `commandType` and
an array `params`. -/
structure HasHeader (raw : Json) (name : String) (number : ℕ) (params : List Json) : Prop where
  named : raw.member? "commandName" = some (.string name)
  numbered : raw.member? "commandType" = some (.ofInt number)
  small : number < 2 ^ 64
  listed : raw.member? "params" = some (.array params)

/-- A name of the table comes with a number that is not its own. -/
def Mismatched (name : String) (number : ℕ) : Prop :=
  ∃ entry : CommandName, entry.name = name ∧ entry.opcode.toNat ≠ number

/-- The names that the union of a command makes demands under: the six modeled ones, or the four of
the versioned swap. -/
def demandingNames (commandName : String) : List String :=
  (if commandName = CommandName.v4Swap.name then versionedUnion else classicUnion).map Prod.fst

/-- A raw parameter of a command is known by its name, and has a value. -/
def IsModeled (commandName : String) (raw : Json) : Prop :=
  ∃ name ∈ demandingNames commandName, raw.member? "name" = some (.string name) ∧
    ∃ value, raw.member? "value" = some value

/-- The text of the place of a parameter. -/
def paramField (position : ℕ) : String := "params[" ++ toString position ++ "]"

/-- The fields at which a raw command has shape faults: the command itself, its three keys, and one
of its parameters, the name of it, or the value of it where there is none. -/
inductive ShapeField (raw : Json) : String → Prop
  | whole : ShapeField raw ""
  | name : ShapeField raw "commandName"
  | number : ShapeField raw "commandType"
  | params : ShapeField raw "params"
  | param {params : List Json} {position : ℕ} {param : Json}
      (listed : raw.member? "params" = some (.array params))
      (found : params[position]? = some param) : ShapeField raw (paramField position)
  | paramName {params : List Json} {position : ℕ} {param : Json}
      (listed : raw.member? "params" = some (.array params))
      (found : params[position]? = some param) : ShapeField raw (paramField position ++ ".name")
  | paramValue {params : List Json} {position : ℕ} {param : Json}
      (listed : raw.member? "params" = some (.array params))
      (found : params[position]? = some param) (absent : param.member? "value" = none) :
      ShapeField raw (paramField position ++ ".value")

theorem paramField_ne_empty (position : ℕ) : paramField position ≠ "" := by
  intro empty
  have := congrArg String.toList empty
  simp [paramField, String.toList_append] at this

theorem render_param (position : ℕ) (path : FieldPath) :
    FieldPath.render (.key "params" :: .index position :: path) =
      FieldPath.join (paramField position) path.render := by
  have index : FieldPath.startsWithIndex (FieldStep.index position).render = true := by
    rw [FieldPath.startsWithIndex, FieldPath.toList_render_index]
    rfl
  have nonempty : (FieldStep.index position).render ≠ "" := by
    intro empty
    rw [empty] at index
    cases index
  have place : FieldPath.render [.key "params", .index position] = paramField position := by
    rw [FieldPath.render_cons, FieldPath.render_cons, FieldPath.render_nil, FieldPath.join_empty,
      FieldPath.join, if_neg (by decide), if_neg nonempty, if_pos index, paramField,
      String.append_assoc]
    rfl
  rw [← place, ← FieldPath.render_append]
  rfl

theorem join_paramField_key {position : ℕ} {key : String} (nonempty : key ≠ "")
    (noIndex : FieldPath.startsWithIndex key = false) :
    FieldPath.join (paramField position) (FieldPath.render [.key key]) =
      paramField position ++ ("." ++ key) := by
  rw [FieldPath.render_cons, FieldPath.render_nil, FieldPath.join_empty, FieldStep.render,
    FieldPath.join, if_neg (paramField_ne_empty position), if_neg nonempty, noIndex,
    if_neg Bool.false_ne_true, String.append_assoc]

/-- What lies below the value of a parameter has a text that starts with that of the value. -/
theorem render_paramValue (position : ℕ) (path : FieldPath) : ∃ text,
    FieldPath.render (.key "params" :: .index position :: .key "value" :: path) =
      paramField position ++ ".value" ++ text := by
  have outer : FieldPath.render [.key "params", .index position, .key "value"] =
      paramField position ++ ".value" := by
    rw [render_param, join_paramField_key (by decide) (by decide)]
    rfl
  have nonempty : paramField position ++ ".value" ≠ "" := fun empty =>
    paramField_ne_empty position (String.append_eq_empty_iff.mp empty).1
  obtain ⟨text, joined⟩ := FieldPath.exists_join_eq_append nonempty path.render
  refine ⟨text, ?_⟩
  rw [← joined, ← outer, ← FieldPath.render_append]
  rfl

/-- The union of a command has a shape for every name that it makes demands under. -/
theorem exists_of_mem_demandingNames {commandName name : String}
    (mem : name ∈ demandingNames commandName) :
    ∃ schema, unionOf commandName name = some schema := by
  rw [demandingNames] at mem
  rw [unionOf]
  split
  · next versionedName =>
    rw [if_pos versionedName] at mem
    obtain ⟨entry, listed, rfl⟩ := List.mem_map.mp mem
    exact Option.ne_none_iff_exists'.mp fun absent =>
      absurd (List.lookup_eq_none_iff.mp absent entry listed) (by simp)
  · exact ⟨_, rfl⟩

/-- Only under a name that it makes demands under, a union has values that do not conform. -/
theorem mem_demandingNames {commandName name : String} {schema : Schema} {value : Json}
    (chosen : unionOf commandName name = some schema) (bad : ¬ schema.Conforms value) :
    name ∈ demandingNames commandName := by
  rw [unionOf] at chosen
  rw [demandingNames]
  split at chosen
  · next versionedName =>
    rw [if_pos versionedName]
    exact List.mem_map_of_mem (mem_of_lookup chosen)
  · next classicName =>
    rw [if_neg classicName]
    rw [classic, Option.some_inj] at chosen
    cases found : classicUnion.lookup name with
    | none =>
      -- a name that is not modeled takes any value
      rw [found] at chosen
      subst chosen
      exact absurd trivial bad
    | some shape => exact List.mem_map_of_mem (mem_of_lookup found)

end Wire

/-! ### Values -/

/-- **Whatever is wrong with a value is a value fault**, at any depth. -/
theorem Codec.Built.kind_eq {α : Type} {codec : Codec α} (h : codec.Built) {value : Json}
    {e : Rejection} (refused : codec.read value = .error e) :
    e.kind = .valueConstraintViolation := by
  induction h generalizing value e with
  | leaf isLeaf =>
    obtain ⟨reason, rfl⟩ := isLeaf.flat refused
    rfl
  | list _ ih =>
    obtain refused | ⟨items, -, refused⟩ := bind_eq_error_iff.mp refused
    · obtain ⟨-, rfl⟩ := array_eq_error_iff.mp refused
      rfl
    · obtain ⟨position, item, inner, fault, rfl⟩ := eachItem_eq_error_iff.mp refused
      rw [Rejection.kind_under]
      exact ih fault.refused
  | record isRecord _ ih =>
    rw [← verdict_eq_error_iff, isRecord.verdict_read] at refused
    obtain refused | ⟨members, -, refused⟩ := bind_eq_error_iff.mp refused
    · obtain ⟨-, rfl⟩ := object_eq_error_iff.mp refused
      rfl
    · obtain ⟨slot, mem, refused⟩ := exists_field_of_readAll refused
      obtain ⟨-, rfl⟩ | ⟨found, inner, -, atValue, rfl⟩ := field_eq_error_iff.mp refused
      · rfl
      · rw [Rejection.kind_under]
        exact ih slot mem atValue
  | step _ ih =>
    obtain refused | ⟨members, -, refused⟩ := bind_eq_error_iff.mp refused
    · obtain ⟨-, rfl⟩ := object_eq_error_iff.mp refused
      rfl
    · split at refused
      · obtain ⟨-, rfl⟩ | ⟨found, inner, -, atValue, rfl⟩ := field_eq_error_iff.mp refused
        · rfl
        · rw [Rejection.kind_under]
          exact ih atValue
      · cases refused
        rfl

/-! ### Parameters -/

theorem ShapeFault.mono {keys keys' : List String} {raw : Json} {e : Rejection}
    (h : ShapeFault keys raw e) (sub : keys ⊆ keys') : ShapeFault keys' raw e := by
  cases h with
  | whole => exact .whole _ _
  | key members mem reason => exact .key members (sub mem) reason

/-- A raw value that is no pair of a name and a value is a shape fault: as a whole, for its name, or
for having no value. -/
theorem Parameter.split_eq_error {raw : Json} {e : Rejection} (h : split raw = .error e) :
    e.kind = .shapeMismatch ∧ (e.path = [] ∨ e.path = [.key "name"] ∨
      e.path = [.key "value"] ∧ raw.member? "value" = none) := by
  rw [split.eq_def] at h
  cases raw with
  | object members =>
    simp only [Json.asObject?] at h
    split at h
    · cases h
      exact ⟨rfl, .inr (.inl rfl)⟩
    · split at h
      · next absent =>
        cases h
        exact ⟨rfl, .inr (.inr ⟨rfl, absent⟩)⟩
      · cases h
    · cases h
      exact ⟨rfl, .inr (.inl rfl)⟩
  | _ =>
    cases h
    exact ⟨rfl, .inl rfl⟩

/-- A raw parameter becomes an opaque one exactly when its name is not modeled. -/
theorem Parameter.isFallback_iff_of_classify {raw : Json} {p : Parameter} {key : String}
    (h : classify raw = .ok p) (named : raw.member? "name" = some (.string key)) :
    p.isFallback = true ↔ key ∉ Wire.modeledNames := by
  obtain ⟨⟨key', value⟩, parts, made⟩ := bind_eq_ok_iff.mp h
  obtain ⟨members, rfl, named', -⟩ := split_eq_ok_iff.mp parts
  obtain rfl : key = key' := by simpa [Json.member?, Json.asObject?, named'] using named.symm
  dsimp only at made
  rw [ofNamed_eq_arm, under_eq_ok_iff, map_eq_ok_iff] at made
  obtain ⟨b, -, rfl⟩ := made
  constructor
  · intro kept modeled
    rw [isFallback_arm_make modeled b] at kept
    cases kept
  · intro other
    revert b
    rw [arm_of_notMem other]
    exact fun _ _ => rfl

namespace Command

open RouterCall.Wire (HasHeader Mismatched IsModeled ShapeField paramField)

/-- The union of a command, as what its parameters are read by. -/
theorem exists_registry_unionOf (name : String) : ∃ (π : Type) (registry : Registry π),
    registry.IsBuilt ∧ registry.union = Wire.unionOf name ∧
      checkParam name = fun raw => (registry.classify raw).verdict := by
  by_cases versioned : name = CommandName.v4Swap.name
  · subst versioned
    exact ⟨_, V4.Parameter.registry, V4.Parameter.isBuilt_registry, rfl, checkParam_v4Swap⟩
  · refine ⟨_, Parameter.registry, Parameter.isBuilt_registry, ?_, checkParam_of_ne versioned⟩
    rw [Wire.unionOf, if_neg versioned]
    rfl

/-- **The kind of fault of a parameter.** A parameter that is known by its name and has a value is
refused for that value, and any other one for its shape. -/
theorem checkParam_cases {name : String} {raw : Json} {e : Rejection}
    (h : checkParam name raw = .error e) :
    (IsModeled name raw ∧ e.kind = .valueConstraintViolation ∧
      ∃ rest, e.path = .key "value" :: rest) ∨
    (¬ IsModeled name raw ∧ e.kind = .shapeMismatch ∧ (e.path = [] ∨ e.path = [.key "name"] ∨
      e.path = [.key "value"] ∧ raw.member? "value" = none)) := by
  obtain ⟨π, registry, built, union, same⟩ := exists_registry_unionOf name
  rw [same] at h
  obtain refused | ⟨members, key, value, rfl, named, found, refused⟩ :=
    registry.classify_eq_error_iff.mp (verdict_eq_error_iff.mp h)
  · refine .inr ⟨?_, Parameter.split_eq_error refused⟩
    rintro ⟨key, -, named, value, found⟩
    obtain ⟨members, rfl, named⟩ := member?_eq_some_iff.mp named
    rw [split_eq_ok_iff.mpr ⟨members, rfl, named, found⟩] at refused
    cases refused
  · obtain ⟨noArm, rfl⟩ | ⟨arm, inner, chosen, atValue, rfl⟩ :=
      registry.ofNamed_eq_error_iff.mp refused
    · refine .inr ⟨?_, rfl, .inr (.inl rfl)⟩
      rintro ⟨key', mem, named', -⟩
      obtain rfl : key = key' := by simpa [Json.member?, Json.asObject?, named] using named'
      obtain ⟨schema, shape⟩ := Wire.exists_of_mem_demandingNames mem
      rw [← union, registry.union_eq, noArm] at shape
      cases shape
    · have kind : inner.kind = .valueConstraintViolation := (built key arm chosen).kind_eq atValue
      refine .inl ⟨⟨key, ?_, named, value, found⟩, kind, inner.path, rfl⟩
      refine @Wire.mem_demandingNames name key arm.codec.schema value ?_ ?_
      · rw [← union, registry.union_eq, chosen]
        rfl
      · intro conforms
        obtain ⟨b, read⟩ := (arm.codec.conforms_iff value).mp conforms
        rw [atValue] at read
        cases read

/-! ### Names and numbers -/

theorem check_eq_ok_iff_hasHeader {raw : Json} {header : Header} :
    Header.check raw = .ok header ↔ HasHeader raw header.name header.number header.params := by
  rw [Header.check_eq_ok_iff]
  constructor
  · rintro ⟨members, rfl, named, numbered, small, listed⟩
    exact ⟨named, numbered, small, listed⟩
  · rintro ⟨named, numbered, small, listed⟩
    obtain ⟨members, rfl, named⟩ := member?_eq_some_iff.mp named
    exact ⟨members, rfl, named, numbered, small, listed⟩

/-- A name and a number are admitted, or they are the name of an entry and another number, which no
policy has a say in, or the policy refuses them for their shape. -/
theorem permit_cases (policy : Policy) (header : Header) :
    (permit policy header = .ok () ∧ Wire.Admitted policy header.name header.number ∧
      ¬ Mismatched header.name header.number) ∨
    (permit policy header = .error ⟨[], .tagOpcode header.name header.number⟩ ∧
      ¬ Wire.Admitted policy header.name header.number ∧
      Mismatched header.name header.number) ∨
    (∃ e, permit policy header = .error e ∧ e.kind = .shapeMismatch ∧
      ¬ Wire.Admitted policy header.name header.number ∧
      ¬ Mismatched header.name header.number) := by
  rw [permit]
  cases found : CommandName.ofName? header.name with
  | some known =>
    have named := CommandName.name_of_ofName? found
    have only (entry : CommandName) (named' : entry.name = header.name) : entry = known :=
      CommandName.name_injective (named'.trans named.symm)
    dsimp only
    by_cases same : known.opcode.toNat = header.number
    · refine .inl ⟨if_pos same, .inl ⟨known, named, same⟩, ?_⟩
      rintro ⟨entry, named', other⟩
      rw [only entry named'] at other
      exact other same
    · refine .inr (.inl ⟨if_neg same, ?_, known, named, same⟩)
      rintro (⟨entry, named', same'⟩ | ⟨-, unknown, -⟩)
      · rw [only entry named'] at same'
        exact same same'
      · exact unknown known named
  | none =>
    have unknown := CommandName.ofName?_eq_none_iff.mp found
    have matched : ¬ Mismatched header.name header.number := by
      rintro ⟨entry, named, -⟩
      exact unknown entry named
    cases treatment : policy.unknownNames with
    | reject =>
      refine .inr (.inr ⟨_, rfl, rfl, ?_, matched⟩)
      rintro (⟨entry, named, -⟩ | ⟨permissive, -⟩)
      · exact unknown entry named
      · rw [treatment] at permissive
        cases permissive
    | acceptAsFallback =>
      cases numbered : CommandName.ofOpcode? header.number with
      | some known =>
        have same := CommandName.opcode_of_ofOpcode? numbered
        exact .inl ⟨rfl, .inr ⟨treatment, unknown, known, same⟩, matched⟩
      | none =>
        refine .inr (.inr ⟨_, rfl, rfl, ?_, matched⟩)
        rintro (⟨entry, named, -⟩ | ⟨-, -, entry, same⟩)
        · exact unknown entry named
        · rw [← same, CommandName.ofOpcode?_opcode] at numbered
          cases numbered

theorem permit_eq_ok_iff {policy : Policy} {header : Header} :
    permit policy header = .ok () ↔ Wire.Admitted policy header.name header.number := by
  obtain ⟨h, admitted, -⟩ | ⟨h, refused, -⟩ | ⟨e, h, -, refused, -⟩ := permit_cases policy header
  · simp [h, admitted]
  · simp [h, refused]
  · simp [h, refused]

theorem permit_eq_tagOpcode_iff {policy : Policy} {header : Header} :
    permit policy header = .error ⟨[], .tagOpcode header.name header.number⟩ ↔
      Mismatched header.name header.number := by
  obtain ⟨h, -, matched⟩ | ⟨h, -, other⟩ | ⟨e, h, shape, -, matched⟩ := permit_cases policy header
  · simp [h, matched]
  · simp [h, other]
  · rw [h, Except.error.injEq, iff_false_right matched]
    rintro rfl
    cases shape

/-! ### Fields of shape faults -/

theorem shapeField_of_shapeFault {raw : Json} {e : Rejection}
    (h : ShapeFault ["commandName", "commandType", "params"] raw e) :
    e.kind = .shapeMismatch ∧ ShapeField raw e.field := by
  refine ⟨by cases h <;> rfl, ?_⟩
  cases h with
  | whole => exact .whole
  | @key members key mem reason =>
    have field : (Rejection.shape [.key key] reason).field = key := FieldPath.join_empty key
    rw [field]
    simp only [List.mem_cons, List.not_mem_nil, or_false] at mem
    obtain rfl | rfl | rfl := mem
    exacts [.name, .number, .params]

/-- A parameter is refused for its shape as a whole, for its name, or for having no value. -/
theorem shapeField_of_param {raw param : Json} {params : List Json} {position : ℕ}
    {inner : Rejection} (listed : raw.member? "params" = some (.array params))
    (found : params[position]? = some param)
    (place : inner.path = [] ∨ inner.path = [.key "name"] ∨
      inner.path = [.key "value"] ∧ param.member? "value" = none) :
    ShapeField raw (inner.under [.key "params", .index position]).field := by
  rw [Rejection.field, Rejection.path_under, List.cons_append, List.singleton_append,
    Wire.render_param]
  obtain whole | name | ⟨value, absent⟩ := place
  · rw [whole, FieldPath.render_nil, FieldPath.join_empty]
    exact .param listed found
  · rw [name, Wire.join_paramField_key (by decide) (by decide)]
    exact .paramName listed found
  · rw [value, Wire.join_paramField_key (by decide) (by decide)]
    exact .paramValue listed found absent

/-! ### Commands -/

/-- A raw command whose header is in order and admitted, and the first of whose parameters that is
refused is known by its name and has a value. -/
def StopsAtValue (policy : Policy) (raw : Json) (position : ℕ) : Prop :=
  ∃ name number params param inner, HasHeader raw name number params ∧
    Wire.Admitted policy name number ∧
    FirstFault (checkParam name) params position param inner ∧ IsModeled name param

theorem classify_of_mismatched {raw : Json} {name : String} {number : ℕ} {params : List Json}
    (header : HasHeader raw name number params) (other : Mismatched name number)
    (policy : Policy) : (classify policy raw).outcome = .error ⟨[], .tagOpcode name number⟩ :=
  classify_eq_error_iff.mpr (.inr ⟨⟨name, number, params⟩, check_eq_ok_iff_hasHeader.mpr header,
    .inl (permit_eq_tagOpcode_iff.mpr other)⟩)

theorem classify_of_stopsAtValue {policy : Policy} {raw : Json} {position : ℕ}
    (h : StopsAtValue policy raw position) : ∃ e, (classify policy raw).outcome = .error e ∧
      e.kind = .valueConstraintViolation ∧
      ∃ rest, e.path = .key "params" :: .index position :: .key "value" :: rest := by
  obtain ⟨name, number, params, param, inner, header, admitted, fault, modeled⟩ := h
  refine ⟨inner.under [.key "params", .index position], ?_, ?_⟩
  · exact classify_eq_error_iff.mpr (.inr ⟨⟨name, number, params⟩,
      check_eq_ok_iff_hasHeader.mpr header, .inr ⟨permit_eq_ok_iff.mpr admitted,
        checkParams_eq_error_iff.mpr ⟨position, param, inner, fault, rfl⟩⟩⟩)
  · obtain ⟨-, kind, rest, path⟩ | ⟨other, -⟩ := checkParam_cases fault.refused
    · exact ⟨kind, rest, by rw [Rejection.path_under, path]; rfl⟩
    · exact absurd modeled other

/-- **The three kinds of rejection of a command.** -/
theorem classify_cases {policy : Policy} {raw : Json} {e : Rejection}
    (h : (classify policy raw).outcome = .error e) :
    (∃ name number params, HasHeader raw name number params ∧ Mismatched name number ∧
      e = ⟨[], .tagOpcode name number⟩) ∨
    (∃ position, StopsAtValue policy raw position ∧ e.kind = .valueConstraintViolation) ∨
    (e.kind = .shapeMismatch ∧ ShapeField raw e.field) := by
  obtain refused | ⟨header, checked, refused⟩ := classify_eq_error_iff.mp h
  · exact .inr (.inr (shapeField_of_shapeFault (shapeFault_of_header refused)))
  · have hasHeader := check_eq_ok_iff_hasHeader.mp checked
    obtain refused | ⟨permitted, refused⟩ := refused
    · obtain rfl | shape := shapeFault_of_permit refused
      · exact .inl ⟨header.name, header.number, header.params, hasHeader,
          permit_eq_tagOpcode_iff.mp refused, rfl⟩
      · obtain ⟨members, rfl, -⟩ := member?_eq_some_iff.mp hasHeader.named
        exact .inr (.inr (shapeField_of_shapeFault ((shape members).mono (by decide))))
    · obtain ⟨position, param, inner, fault, rfl⟩ := checkParams_eq_error_iff.mp refused
      obtain ⟨modeled, kind, -⟩ | ⟨-, kind, place⟩ := checkParam_cases fault.refused
      · exact .inr (.inl ⟨position, ⟨header.name, header.number, header.params, param, inner,
          hasHeader, permit_eq_ok_iff.mp permitted, fault, modeled⟩, kind⟩)
      · exact .inr (.inr ⟨kind, shapeField_of_param hasHeader.listed fault.found place⟩)

/-! ### Each kind of rejection -/

variable {policy : Policy} {raw : Json}

theorem classify_eq_tagOpcode_iff {name : String} {number : ℕ} :
    (classify policy raw).outcome = .error ⟨[], .tagOpcode name number⟩ ↔
      (∃ params, HasHeader raw name number params) ∧ Mismatched name number := by
  constructor
  · intro h
    obtain ⟨name', number', params, header, other, same⟩ | ⟨_, -, kind⟩ | ⟨kind, -⟩ :=
      classify_cases h
    · cases same
      exact ⟨⟨params, header⟩, other⟩
    · cases kind
    · cases kind
  · rintro ⟨⟨params, header⟩, other⟩
    exact classify_of_mismatched header other policy

theorem exists_valueFault_iff :
    (∃ e, (classify policy raw).outcome = .error e ∧ e.kind = .valueConstraintViolation) ↔
      ∃ position, StopsAtValue policy raw position := by
  constructor
  · rintro ⟨e, h, kind⟩
    obtain ⟨_, _, _, -, -, rfl⟩ | ⟨position, stops, -⟩ | ⟨shape, -⟩ := classify_cases h
    · cases kind
    · exact ⟨position, stops⟩
    · rw [shape] at kind
      cases kind
  · rintro ⟨position, stops⟩
    obtain ⟨e, h, kind, -⟩ := classify_of_stopsAtValue stops
    exact ⟨e, h, kind⟩

section Rejected

variable {e : Rejection} (h : (classify policy raw).outcome = .error e)

include h

/-- A mismatch says nothing but the name and the number. -/
theorem eq_tagOpcode_of_kind (kind : e.kind = .tagOpcodeInconsistency) :
    ∃ name number, e = ⟨[], .tagOpcode name number⟩ := by
  obtain ⟨name, number, -, -, -, same⟩ | ⟨_, -, other⟩ | ⟨other, -⟩ := classify_cases h
  · exact ⟨name, number, same⟩
  · rw [other] at kind
    cases kind
  · rw [other] at kind
    cases kind

/-- A value fault lies in the value. -/
theorem field_of_stopsAtValue {position : ℕ} (stops : StopsAtValue policy raw position) :
    ∃ text, e.field = paramField position ++ ".value" ++ text := by
  obtain ⟨_, h', -, rest, path⟩ := classify_of_stopsAtValue stops
  cases h.symm.trans h'
  rw [Rejection.field, path]
  exact Wire.render_paramValue position rest

/-- What is neither of the other two is a shape fault. -/
theorem kind_eq_shapeMismatch_iff :
    e.kind = .shapeMismatch ↔
      (∀ name number params, HasHeader raw name number params → ¬ Mismatched name number) ∧
        ∀ position, ¬ StopsAtValue policy raw position := by
  constructor
  · refine fun kind => ⟨fun name number params header other => ?_, fun position stops => ?_⟩
    · cases h.symm.trans (classify_of_mismatched header other policy)
      cases kind
    · obtain ⟨_, h', value, -⟩ := classify_of_stopsAtValue stops
      cases h.symm.trans h'
      rw [value] at kind
      cases kind
  · rintro ⟨matched, accepted⟩
    obtain ⟨name, number, params, header, other, -⟩ | ⟨position, stops, -⟩ | ⟨shape, -⟩ :=
      classify_cases h
    · exact absurd other (matched name number params header)
    · exact absurd stops (accepted position)
    · exact shape

theorem shapeField_of_kind (kind : e.kind = .shapeMismatch) : ShapeField raw e.field := by
  obtain ⟨_, _, _, -, -, rfl⟩ | ⟨_, -, other⟩ | ⟨-, field⟩ := classify_cases h
  · cases kind
  · rw [other] at kind
    cases kind
  · exact field

end Rejected

theorem checkParam_kind_iff {name : String} {param : Json} {e : Rejection}
    (h : checkParam name param = .error e) :
    e.kind = .valueConstraintViolation ↔ IsModeled name param := by
  obtain ⟨modeled, kind, -⟩ | ⟨other, kind, -⟩ := checkParam_cases h
  · simp [modeled, kind]
  · simp [other, kind]

/-- **The kind of a rejection says which stage failed.** A command is a mismatch of name and number
exactly when its header is in order and its name belongs to another number. It has a value fault
exactly when its header is in order and admitted and the first parameter that is refused is known by
its name and has a value; the fault then lies in that value. Every other rejection is a shape fault,
at one of the fields that are listed. The same holds of one parameter, and a name that is modeled is
never kept opaque, whatever its value. -/
theorem classify_error_kinds :
    (∀ policy raw name number,
      (classify policy raw).outcome = .error ⟨[], .tagOpcode name number⟩ ↔
        (∃ params, HasHeader raw name number params) ∧ Mismatched name number) ∧
    (∀ policy raw,
      (∃ e, (classify policy raw).outcome = .error e ∧ e.kind = .valueConstraintViolation) ↔
        ∃ position, StopsAtValue policy raw position) ∧
    (∀ policy raw e, (classify policy raw).outcome = .error e →
      (e.kind = .tagOpcodeInconsistency → ∃ name number, e = ⟨[], .tagOpcode name number⟩) ∧
      (∀ position, StopsAtValue policy raw position →
        ∃ text, e.field = paramField position ++ ".value" ++ text) ∧
      (e.kind = .shapeMismatch ↔
        (∀ name number params, HasHeader raw name number params → ¬ Mismatched name number) ∧
          ∀ position, ¬ StopsAtValue policy raw position) ∧
      (e.kind = .shapeMismatch → ShapeField raw e.field)) ∧
    (∀ name raw e, checkParam name raw = .error e →
      (e.kind = .valueConstraintViolation ↔ IsModeled name raw)) ∧
    (∀ raw p key, Parameter.classify raw = .ok p → raw.member? "name" = some (.string key) →
      (p.isFallback = true ↔ key ∉ Wire.modeledNames)) :=
  ⟨fun _ _ _ _ => classify_eq_tagOpcode_iff, fun _ _ => exists_valueFault_iff,
    fun _ _ _ h => ⟨eq_tagOpcode_of_kind h, fun _ stops => field_of_stopsAtValue h stops,
      kind_eq_shapeMismatch_iff h, shapeField_of_kind h⟩,
    fun _ _ _ h => checkParam_kind_iff h, fun _ _ _ => Parameter.isFallback_iff_of_classify⟩

/-- The versioned swap under a number of another command, with no parameter in it. -/
def mismatchedRaw : Json := .object [
  ("commandName", .string "V4_SWAP"), ("commandType", .ofInt 0), ("params", .array [.null])]

/-- A command outside the table whose second parameter is an amount of the wrong kind, in front of
one that has no name. -/
def negativeRaw : Json := .object [
  ("commandName", .string "NEW_COMMAND"), ("commandType", .ofInt 33), ("params", .array [
    .object [("name", .string "recipient"), ("value", .null)],
    .object [("name", .string "amountIn"), ("value", .string "-1")],
    .object []])]

theorem classify_error_kinds_samples :
    (classify {} mismatchedRaw).outcome = .error ⟨[], .tagOpcode "V4_SWAP" 0⟩ ∧
      (∃ position, StopsAtValue .permissive negativeRaw position) ∧
      ∃ e, (classify {} negativeRaw).outcome = .error e ∧ e.kind = .shapeMismatch ∧
        ShapeField negativeRaw e.field := by
  obtain ⟨mismatch, value, rejected, -, -⟩ := classify_error_kinds
  have header : HasHeader mismatchedRaw "V4_SWAP" 0 [.null] := ⟨rfl, rfl, by decide, rfl⟩
  have refused : (classify {} negativeRaw).outcome =
      .error (.shape [.key "commandName"] (.unknownCommand "NEW_COMMAND")) := rfl
  refine ⟨(mismatch _ _ _ _).mpr ⟨⟨_, header⟩, .v4Swap, rfl, by decide⟩,
    (value _ _).mp ⟨.value [.key "params", .index 1, .key "value"] (.notAnAmount (.string "-1")),
      rfl, rfl⟩, _, refused, rfl, ?_⟩
  exact (rejected _ _ _ refused).2.2.2 rfl

end Command

end RouterCall
