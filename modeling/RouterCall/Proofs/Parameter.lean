import RouterCall.Proofs.Descriptor

/-!
# The two unions of parameters

In either union the name of a raw parameter picks an `Arm`, which is the codec of the value and the
constructor that the value is put under; the rest is the same for both. A `Registry` is such a
choice of arms together with what makes it one: the arms have the shapes that the wire format
declares, the reader takes the arm of the name, and a typed parameter gives its name and value back.

A typed parameter is *proper* when the arm of its name can make it. All parameters of the versioned
swap are. A classic one is not when it is opaque and has a modeled name, since a raw parameter of
that name either is the modeled one or is refused.

## Main definitions

* `Arm`, `Registry`
* `Parameter.registry`, `V4.Parameter.registry`: the two unions
* `Parameter.IsProper`: no modeled name on an opaque parameter

## Main results

* `Registry.isParameter_iff`: a raw parameter is recognised exactly when the grammar has it
* `Registry.projects`: a recognised parameter is written as the projection of the raw one
* `Registry.classify_toJson_iff`: a typed parameter is read back exactly when it is proper
-/

namespace RouterCall

/-- A value of any kind, kept as it is. -/
def Codec.anything : Codec Json where
  read := .ok
  write := id
  schema := .anything
  conforms_iff value := ⟨fun _ => ⟨value, rfl⟩, fun _ => trivial⟩
  projects h := (Except.ok.inj h).symm
  read_write _ := rfl

/-- What a name makes of a value: how the value is read, and the parameter it becomes. -/
structure Arm (π : Type) where
  {β : Type}
  codec : Codec β
  make : β → π

/-- A union of named parameters. -/
structure Registry (π : Type) where
  /-- The shapes that the wire format declares. -/
  union : String → Option Schema
  arm? : String → Option (Arm π)
  ofNamed : String → Json → Checked π
  name : π → String
  value : π → Json
  /-- The parameters that the arm of their name can make. -/
  IsProper : π → Prop
  union_eq : ∀ key, union key = (arm? key).map fun arm => arm.codec.schema
  ofNamed_eq : ∀ key raw, ofNamed key raw = match arm? key with
    | some arm => Checked.under (arm.make <$> arm.codec.read raw) [.key "value"]
    | none => .error (.shape [.key "name"] (.unknownSwapParameter key))
  name_make : ∀ key arm, arm? key = some arm → ∀ b, name (arm.make b) = key
  value_make : ∀ key arm, arm? key = some arm → ∀ b, value (arm.make b) = arm.codec.write b
  isProper_iff : ∀ p, IsProper p ↔ ∃ arm, arm? (name p) = some arm ∧ ∃ b, arm.make b = p

theorem split_eq_ok_iff {raw : Json} {name : String} {value : Json} :
    Parameter.split raw = .ok (name, value) ↔ ∃ members, raw = .object members ∧
      members.lookup "name" = some (.string name) ∧ members.lookup "value" = some value := by
  rw [Parameter.split.eq_def]
  cases raw with
  | object members =>
    simp only [Json.asObject?, Json.object.injEq, exists_eq_left']
    cases members.lookup "name" with
    | none => simp
    | some found =>
      cases found with
      | string text => cases members.lookup "value" <;> simp
      | _ => simp
  | _ => simp [Json.asObject?]

namespace Registry

variable {π : Type} (registry : Registry π)

/-- The parameter a raw value is. -/
def classify (raw : Json) : Checked π := do
  let (name, value) ← Parameter.split raw
  registry.ofNamed name value

/-- A parameter on the wire. -/
def toJson (p : π) : Json := Parameter.named (registry.name p) (registry.value p)

theorem ofNamed_eq_ok_iff {key : String} {raw : Json} {p : π} :
    registry.ofNamed key raw = .ok p ↔
      ∃ arm, registry.arm? key = some arm ∧ ∃ b, arm.codec.read raw = .ok b ∧ arm.make b = p := by
  rw [registry.ofNamed_eq]
  cases registry.arm? key with
  | none => exact ⟨nofun, fun ⟨_, absent, _⟩ => nomatch absent⟩
  | some arm => simp only [under_eq_ok_iff, map_eq_ok_iff, Option.some.injEq, exists_eq_left']

/-- A recognised parameter was read by the arm of its name. -/
theorem classify_eq_ok_iff {raw : Json} {p : π} :
    registry.classify raw = .ok p ↔ ∃ members value arm b, raw = .object members ∧
      members.lookup "name" = some (.string (registry.name p)) ∧
      members.lookup "value" = some value ∧ registry.arm? (registry.name p) = some arm ∧
      arm.codec.read value = .ok b ∧ arm.make b = p := by
  rw [classify, bind_eq_ok_iff]
  constructor
  · rintro ⟨⟨key, value⟩, parts, h⟩
    obtain ⟨members, rfl, named, found⟩ := split_eq_ok_iff.mp parts
    obtain ⟨arm, chosen, b, read, rfl⟩ := registry.ofNamed_eq_ok_iff.mp h
    have same := registry.name_make key arm chosen b
    exact ⟨members, value, arm, b, rfl, by rw [same, named], found, by rw [same, chosen], read, rfl⟩
  · rintro ⟨members, value, arm, b, rfl, named, found, chosen, read, made⟩
    exact ⟨(registry.name p, value), split_eq_ok_iff.mpr ⟨members, rfl, named, found⟩,
      registry.ofNamed_eq_ok_iff.mpr ⟨arm, chosen, b, read, made⟩⟩

/-- **A raw parameter is recognised exactly when the grammar has it.** -/
theorem isParameter_iff {raw : Json} :
    Wire.IsParameter registry.union raw ↔ ∃ p, registry.classify raw = .ok p := by
  simp only [classify_eq_ok_iff, Wire.IsParameter, registry.union_eq]
  constructor
  · rintro ⟨members, key, value, schema, rfl, named, found, shape, conforms⟩
    obtain ⟨arm, chosen, rfl⟩ := Option.map_eq_some_iff.mp shape
    obtain ⟨b, read⟩ := (arm.codec.conforms_iff value).mp conforms
    have same := registry.name_make key arm chosen b
    exact ⟨arm.make b, members, value, arm, b, rfl, by rw [same, named], found,
      by rw [same, chosen], read, rfl⟩
  · rintro ⟨p, members, value, arm, b, rfl, named, found, chosen, read, made⟩
    exact ⟨members, registry.name p, value, arm.codec.schema, rfl, named, found,
      by rw [chosen]; rfl, (arm.codec.conforms_iff value).mpr ⟨b, read⟩⟩

/-- **A recognised parameter is written as the projection of the raw one.** -/
theorem projects {raw : Json} {p : π} (h : registry.classify raw = .ok p) :
    Wire.ParameterProjects registry.union raw (registry.toJson p) := by
  obtain ⟨members, value, arm, b, rfl, named, found, chosen, read, rfl⟩ :=
    registry.classify_eq_ok_iff.mp h
  refine ⟨members, _, value, arm.codec.schema, _, rfl, named, found, ?_,
    arm.codec.projects read, ?_⟩
  · rw [registry.union_eq, chosen]
    rfl
  · rw [toJson, Parameter.named, registry.value_make _ arm chosen]

theorem isProper_of_classify {raw : Json} {p : π} (h : registry.classify raw = .ok p) :
    registry.IsProper p := by
  obtain ⟨_, _, arm, b, _, _, _, chosen, _, made⟩ := registry.classify_eq_ok_iff.mp h
  exact (registry.isProper_iff p).mpr ⟨arm, chosen, b, made⟩

/-- **A typed parameter is read back exactly when it is proper.** -/
theorem classify_toJson_iff {p : π} :
    registry.classify (registry.toJson p) = .ok p ↔ registry.IsProper p := by
  refine ⟨registry.isProper_of_classify, fun proper => ?_⟩
  obtain ⟨arm, chosen, b, made⟩ := (registry.isProper_iff p).mp proper
  refine registry.classify_eq_ok_iff.mpr
    ⟨_, registry.value p, arm, b, rfl, rfl, rfl, chosen, ?_, made⟩
  rw [← made] at chosen
  rw [← made, registry.value_make _ arm chosen, arm.codec.read_write]

/-- Raw parameters are recognised one by one. -/
def ReadsAll (raws : List Json) (ps : List π) : Prop :=
  List.Forall₂ (fun raw p => registry.classify raw = .ok p) raws ps

theorem exists_readsAll_iff {raws : List Json} :
    (∃ ps, registry.ReadsAll raws ps) ↔ ∀ raw ∈ raws, Wire.IsParameter registry.union raw := by
  simp only [ReadsAll, exists_forall₂_iff, isParameter_iff]

theorem projects_all {raws : List Json} {ps : List π} (h : registry.ReadsAll raws ps) :
    List.Forall₂ (Wire.ParameterProjects registry.union) raws (ps.map registry.toJson) :=
  List.forall₂_map_right_iff.mpr (h.imp fun _ _ => registry.projects)

theorem readsAll_map_toJson_iff {ps : List π} :
    registry.ReadsAll (ps.map registry.toJson) ps ↔ ∀ p ∈ ps, registry.IsProper p := by
  simp only [ReadsAll, List.forall₂_map_left_iff, List.forall₂_same, classify_toJson_iff]

theorem isProper_of_readsAll {raws : List Json} {ps : List π} (h : registry.ReadsAll raws ps) :
    ∀ p ∈ ps, registry.IsProper p := by
  intro p mem
  obtain ⟨raw, read⟩ := exists_of_forall₂ h p mem
  exact registry.isProper_of_classify read

end Registry

/-! ### Classic parameters -/

namespace Parameter

/-- No modeled name is on an opaque parameter. -/
def IsProper (p : Parameter) : Prop :=
  ∀ name value, p = .fallback name value → name ∉ Wire.modeledNames

/-- The arm of a name: one of the six, or the opaque one. -/
def arm (name : String) : Arm Parameter :=
  match AmountRole.ofName? name with
  | some role => ⟨.amount, .amount role⟩
  | none =>
    if name = pathName then ⟨Hop.codec.list, .path⟩
    else if name = payerName then ⟨.boolean, .payerIsUser⟩
    else ⟨.anything, .fallback name⟩

theorem arm_role (role : AmountRole) : arm role.name = ⟨.amount, .amount role⟩ := by
  rw [arm, AmountRole.ofName?_name]

theorem isModeled_iff {name : String} : isModeled name = true ↔ name ∈ Wire.modeledNames := by
  simp only [isModeled, AmountRole.ofName?, List.find?_isSome, Bool.or_eq_true, decide_eq_true_eq]
  simp only [AmountRole.all, AmountRole.name, pathName, payerName, Wire.modeledNames,
    Wire.classicUnion, List.map_cons, List.map_nil, List.mem_cons, List.not_mem_nil, or_false,
    exists_eq_or_imp, exists_eq_left, @eq_comm _ _ name, or_assoc]

theorem arm_of_notMem {name : String} (h : name ∉ Wire.modeledNames) :
    arm name = ⟨.anything, .fallback name⟩ := by
  rw [← isModeled_iff, Bool.not_eq_true] at h
  simp only [isModeled, Bool.or_eq_false_iff, decide_eq_false_iff_not,
    Option.isSome_eq_false_iff, Option.isNone_iff_eq_none] at h
  obtain ⟨⟨noRole, notPath⟩, notPayer⟩ := h
  rw [arm, noRole, if_neg notPath, if_neg notPayer]

/-- A name is one of the modeled ones or none of them. -/
theorem name_cases (name : String) : (∃ role : AmountRole, role.name = name) ∨ name = pathName ∨
    name = payerName ∨ name ∉ Wire.modeledNames := by
  by_cases h : name ∈ Wire.modeledNames
  · rw [← isModeled_iff] at h
    simp only [isModeled, Bool.or_eq_true, decide_eq_true_eq] at h
    obtain (role | path) | payer := h
    · obtain ⟨role, found⟩ := Option.isSome_iff_exists.mp role
      exact .inl ⟨role, AmountRole.name_of_ofName? found⟩
    · exact .inr (.inl path)
    · exact .inr (.inr (.inl payer))
  · exact .inr (.inr (.inr h))

theorem ofNamed_eq_arm (name : String) (value : Json) :
    ofNamed name value =
      Checked.under ((arm name).make <$> (arm name).codec.read value) [.key "value"] := by
  obtain ⟨role, rfl⟩ | rfl | rfl | other := name_cases name
  · rw [arm_role, ofNamed, AmountRole.ofName?_name]
    rfl
  · rfl
  · rfl
  · rw [arm_of_notMem other,
      ofNamed_of_not_isModeled (by rwa [← Bool.not_eq_true, isModeled_iff])]
    rfl

theorem classic_eq_arm (name : String) : Wire.classic name = some (arm name).codec.schema := by
  obtain ⟨role, rfl⟩ | rfl | rfl | other := name_cases name
  · rw [arm_role]
    cases role <;> rfl
  · rfl
  · rfl
  · rw [arm_of_notMem other, Wire.classic, List.lookup_eq_none_iff.mpr]
    · rfl
    · intro entry mem
      exact bne_iff_ne.mpr fun same => other (List.mem_map.mpr ⟨entry, mem, same.symm⟩)

theorem name_arm_make (name : String) : ∀ b, ((arm name).make b).name = name := by
  obtain ⟨role, rfl⟩ | rfl | rfl | other := name_cases name
  · rw [arm_role]
    exact fun _ => rfl
  · exact fun _ => rfl
  · exact fun _ => rfl
  · rw [arm_of_notMem other]
    exact fun _ => rfl

theorem value_arm_make (name : String) :
    ∀ b, ((arm name).make b).value = (arm name).codec.write b := by
  obtain ⟨role, rfl⟩ | rfl | rfl | other := name_cases name
  · rw [arm_role]
    exact fun _ => rfl
  · exact fun _ => rfl
  · exact fun _ => rfl
  · rw [arm_of_notMem other]
    exact fun _ => rfl

theorem isFallback_arm_make {name : String} (modeled : name ∈ Wire.modeledNames) :
    ∀ b, ((arm name).make b).isFallback = false := by
  obtain ⟨role, rfl⟩ | rfl | rfl | other := name_cases name
  · rw [arm_role]
    exact fun _ => rfl
  · exact fun _ => rfl
  · exact fun _ => rfl
  · exact absurd modeled other

theorem isProper_iff_arm (p : Parameter) : p.IsProper ↔ ∃ b, (arm p.name).make b = p := by
  cases p with
  | amount role quantity =>
    rw [name, arm_role]
    exact ⟨fun _ => ⟨quantity, rfl⟩, fun _ => nofun⟩
  | path hops => exact ⟨fun _ => ⟨hops, rfl⟩, fun _ => nofun⟩
  | payerIsUser flag => exact ⟨fun _ => ⟨flag, rfl⟩, fun _ => nofun⟩
  | fallback key raw =>
    constructor
    · intro proper
      rw [name, arm_of_notMem (proper key raw rfl)]
      exact ⟨raw, rfl⟩
    · rintro ⟨b, made⟩ _ _ ⟨⟩ modeled
      have := isFallback_arm_make modeled b
      rw [show (arm key).make b = .fallback key raw from made] at this
      cases this

/-- The union of classic commands. -/
def registry : Registry Parameter where
  union := Wire.classic
  arm? name := some (arm name)
  ofNamed := ofNamed
  name := name
  value := value
  IsProper := IsProper
  union_eq := classic_eq_arm
  ofNamed_eq := ofNamed_eq_arm
  name_make key _ same b := by cases same; exact name_arm_make key b
  value_make key _ same b := by cases same; exact value_arm_make key b
  isProper_iff p := by
    simp only [Option.some.injEq, exists_eq_left', isProper_iff_arm]

end Parameter

/-! ### Parameters of the versioned swap -/

namespace V4.Parameter

/-- The arm of a name, if it is one of the four. -/
def arm? (name : String) : Option (Arm Parameter) :=
  if name = exactInName then some ⟨(stepCodec ExactIn.codec).list, .exactIn⟩
  else if name = exactOutName then some ⟨(stepCodec ExactOut.codec).list, .exactOut⟩
  else if name = exactInSingleName then some ⟨(stepCodec ExactInSingle.codec).list, .exactInSingle⟩
  else if name = exactOutSingleName then
    some ⟨(stepCodec ExactOutSingle.codec).list, .exactOutSingle⟩
  else none

/-- A name is one of the four, or it has neither an arm nor a declared shape. -/
theorem name_cases (name : String) : name = exactInName ∨ name = exactOutName ∨
    name = exactInSingleName ∨ name = exactOutSingleName ∨
    arm? name = none ∧ Wire.versioned name = none := by
  by_cases h₁ : name = exactInName
  · exact .inl h₁
  by_cases h₂ : name = exactOutName
  · exact .inr (.inl h₂)
  by_cases h₃ : name = exactInSingleName
  · exact .inr (.inr (.inl h₃))
  by_cases h₄ : name = exactOutSingleName
  · exact .inr (.inr (.inr (.inl h₄)))
  refine .inr (.inr (.inr (.inr ⟨?_, ?_⟩)))
  · rw [arm?, if_neg h₁, if_neg h₂, if_neg h₃, if_neg h₄]
  · refine List.lookup_eq_none_iff.mpr fun entry mem => bne_iff_ne.mpr ?_
    simp only [Wire.versionedUnion, List.mem_cons, List.not_mem_nil, or_false] at mem
    obtain rfl | rfl | rfl | rfl := mem
    · exact h₁
    · exact h₂
    · exact h₃
    · exact h₄

/-- The union of the versioned swap. -/
def registry : Registry Parameter where
  union := Wire.versioned
  arm? := arm?
  ofNamed := ofNamed
  name := name
  value := value
  IsProper _ := True
  union_eq key := by
    obtain rfl | rfl | rfl | rfl | ⟨noArm, noShape⟩ := name_cases key
    · rfl
    · rfl
    · rfl
    · rfl
    · rw [noArm, noShape]
      rfl
  ofNamed_eq key raw := by
    rw [ofNamed.eq_def, arm?.eq_def]
    split
    · rfl
    · split
      · rfl
      · split
        · rfl
        · split <;> rfl
  name_make key arm h := by
    obtain rfl | rfl | rfl | rfl | ⟨noArm, -⟩ := name_cases key
    · cases h; exact fun _ => rfl
    · cases h; exact fun _ => rfl
    · cases h; exact fun _ => rfl
    · cases h; exact fun _ => rfl
    · rw [noArm] at h; cases h
  value_make key arm h := by
    obtain rfl | rfl | rfl | rfl | ⟨noArm, -⟩ := name_cases key
    · cases h; exact fun _ => rfl
    · cases h; exact fun _ => rfl
    · cases h; exact fun _ => rfl
    · cases h; exact fun _ => rfl
    · rw [noArm] at h; cases h
  isProper_iff p := by
    cases p with
    | exactIn steps => exact ⟨fun _ => ⟨_, rfl, steps, rfl⟩, fun _ => trivial⟩
    | exactOut steps => exact ⟨fun _ => ⟨_, rfl, steps, rfl⟩, fun _ => trivial⟩
    | exactInSingle steps => exact ⟨fun _ => ⟨_, rfl, steps, rfl⟩, fun _ => trivial⟩
    | exactOutSingle steps => exact ⟨fun _ => ⟨_, rfl, steps, rfl⟩, fun _ => trivial⟩

end V4.Parameter

end RouterCall
